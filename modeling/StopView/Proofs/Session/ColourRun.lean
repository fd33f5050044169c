import StopView.Inspector.Script
import StopView.Proofs.Session.ColourStep

/-!
# Runs with and without colour

A run with colour is followed step by step by the same run without it.  The two deliver the
same batches to the same destinations, but for styles, and every operation answers the same,
but for styles in the lines that it answers with.
-/

namespace StopView

open Text

namespace Situation

namespace SameButStyles

/-- The two runs deliver the same, but for styles, and so do they answer. -/
theorem run {quiet : Prop} {written : List Place} {styled bare : Situation}
    (same : SameButStyles quiet written styled bare) {steps : List (Inspector × Operation)}
    (free : ∀ step ∈ steps, step.1.EscapeFree ∧ step.2.EscapeFree ∧ ¬step.2.SetsColour)
    (targets : ∀ place ∈ bare.targets steps, place ∈ written)
    (sources : ∀ place ∈ bare.sources steps, place ∉ written) :
    List.Forall₂ (SameBatches quiet) (styled.deliveries steps) (bare.deliveries steps) ∧
      List.Forall₂ (Outcome.SameButStyles quiet) (styled.run steps).value.2
        (bare.run steps).value.2 := by
  induction steps generalizing styled bare with
  | nil => exact ⟨.nil, .nil⟩
  | cons step rest ih =>
      rcases step with ⟨inspector, operation⟩
      obtain ⟨answers, texts, other⟩ := free (inspector, operation) List.mem_cons_self
      have listed : ∀ batch ∈ bare.batches inspector operation,
          ∀ place, batch.Opens bare.world.files place → place ∈ written := by
        intro batch batchMem place opens
        apply targets place
        apply List.mem_append_left
        exact List.mem_filterMap.mpr ⟨batch, batchMem, Batch.target?_eq_some_iff.mpr opens⟩
      have kept : ∀ place, inspector.sourcePlace? bare.world.files = some place →
          place ∉ written := by
        intro place here
        apply sources place
        apply List.mem_append_left
        exact Option.mem_toList.mpr here
      have next : SameButStyles quiet written (styled.perform inspector operation).value.1
          (bare.perform inspector operation).value.1 :=
        ⟨same.session_perform answers texts kept other,
          same.world_perform answers texts kept listed, same.clean_perform texts listed⟩
      obtain ⟨deliveries, outcomes⟩ := ih next
        (fun later laterMem => free later (List.mem_cons_of_mem _ laterMem))
        (fun place opened => targets place (List.mem_append_right _ opened))
        (fun place shown => sources place (List.mem_append_right _ shown))
      constructor
      · exact .cons (same.sameBatches_batches answers texts kept) deliveries
      · exact .cons (same.outcome_perform answers texts kept listed) outcomes

end SameButStyles

end Situation

/-- The texts of a session that may come into view have no escapes.  Source text that was
read with a highlighter may have some, if the highlighter adds them. -/
structure Session.EscapeFree (session : Session) : Prop where
  settings : session.settings.EscapeFree
  recorded : ∀ line ∈ session.lifecycle.lines, Text.EscapeFree line
  waiting : ∀ event ∈ session.waiting, event.EscapeFree
  sources : session.highlighter.Quiet → session.memory.sources.EscapeFree

namespace Situation

/-- A situation with colour or without. -/
def withColour (situation : Situation) (colour : Bool) : Situation :=
  { situation with
    session :=
      { situation.session with settings := situation.session.settings.withColour colour } }

end Situation

end StopView
