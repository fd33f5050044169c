import StopView.Proofs.Lifecycle.Message
import StopView.Proofs.Text.Styles

/-!
# Events told with and without colour

The lines of a record are painted when the event is recorded, not when they are shown.  They
differ in styles only from those that are recorded without colour, and whether a recording is
replayed is remembered alike.
-/

namespace StopView

open Text

/-- What is told of an event has no escapes. -/
def LifecycleEvent.EscapeFree : LifecycleEvent → Prop
  | .stopped (.signal name) => Text.EscapeFree name
  | .stopped (.breakpoint locations) => ∀ location ∈ locations, Text.EscapeFree location
  | .stopped .other | .exited _ | .continued => True

theorem escapeFree_faultDetail (inspector : Inspector) (replay : Bool) :
    EscapeFree (faultDetail inspector replay) := by
  have place : ∀ address : Address, EscapeFree address.text := fun _ => escapeFree_hex _
  rw [faultDetail]
  split
  · split
    · exact (EscapeFree.append (by decide) (place _)).append (by decide)
    · decide
  · split
    · exact (EscapeFree.append (by decide) (place _)).append (by decide)
    · decide

/-- The lines that tell of an event. -/
theorem LifecycleEvent.sameLines_message {event : LifecycleEvent} (free : event.EscapeFree)
    {quiet : Prop} (inspector : Inspector) (width : Nat) (replay : Bool) :
    SameLines quiet (event.message inspector ⟨true, width⟩ replay)
      (event.message inspector ⟨false, width⟩ replay) := by
  have painted : ∀ (role : Role) {text : String}, Text.EscapeFree text → Text.SameButStyles quiet
      ((Palette.mk true width).paint role text) ((Palette.mk false width).paint role text) :=
    fun role _ free => .of_styled ((Styled.of_escapeFree free).paint role width)
  cases event with
  | continued => exact .nil
  | exited code =>
      cases code with
      | none => exact .nil
      | some code =>
          have told : Text.EscapeFree ("Exited: " ++ toString code) :=
            EscapeFree.append (by decide) (escapeFree_toString_int code)
          exact .singleton (painted .exitMessage told)
  | stopped kind =>
      cases kind with
      | other => exact .nil
      | breakpoint locations =>
          apply SameLines.map
          intro location listed
          exact painted .breakpointMessage (EscapeFree.append (by decide) (free location listed))
      | signal name =>
          have detail : Text.EscapeFree
              (if name = segmentationFault then faultDetail inspector replay else "") := by
            split
            · exact escapeFree_faultDetail inspector replay
            · exact escapeFree_empty
          have told := (EscapeFree.append (by decide : Text.EscapeFree "Program received signal ")
            (show Text.EscapeFree name from free)).append detail
          exact .singleton (painted .signalMessage told)

namespace LifecycleRecord

/-- Records that remember the same and whose lines differ in styles only. -/
structure SameButStyles (quiet : Prop) (styled bare : LifecycleRecord) : Prop where
  lines : SameLines quiet styled.lines bare.lines
  replay : styled.replay = bare.replay

namespace SameButStyles

variable {quiet : Prop} {styled bare : LifecycleRecord} (same : styled.SameButStyles quiet bare)
  (inspector : Inspector) (width : Nat)

include same

theorem record {event : LifecycleEvent} (free : event.EscapeFree) :
    (styled.record inspector ⟨true, width⟩ event).record.SameButStyles quiet
      (bare.record inspector ⟨false, width⟩ event).record where
  lines := by
    have replays : styled.replays inspector = bare.replays inspector := by
      rw [replays, replays, same.replay]
    rw [lines_record, lines_record, replays]
    exact LifecycleEvent.sameLines_message free inspector width _
  replay := by
    cases event with
    | continued => exact same.replay
    | exited code => cases code <;> exact same.replay
    | stopped kind =>
        cases kind with
        | breakpoint locations => exact same.replay
        | other => exact same.replay
        | signal name =>
            rw [LifecycleRecord.record, LifecycleRecord.record, recordSignal, recordSignal,
              same.replay]
            split <;> rfl

theorem recordAll {events : List LifecycleEvent} (free : ∀ event ∈ events, event.EscapeFree) :
    (styled.recordAll inspector ⟨true, width⟩ events).record.SameButStyles quiet
      (bare.recordAll inspector ⟨false, width⟩ events).record := by
  induction events generalizing styled bare with
  | nil => exact same
  | cons event rest ih =>
      have first := same.record inspector width (free event List.mem_cons_self)
      exact ih first fun later listed => free later (List.mem_cons_of_mem event listed)

end SameButStyles

end LifecycleRecord

end StopView
