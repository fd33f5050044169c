import Mathlib.Data.List.Induction
import StopView.Logging.Filter
import StopView.Proofs.Text.Words

/-!
# Which directive governs an event

Directives are compared by how particular they are, which is a total preorder.  The one
that governs an event is found by a fold, and is described here by its place in the filter:
what covers the event in front of it is at most as particular, what covers it behind is less
so.  There is one such directive exactly if any covers the event.

Filters that are written one after the other give their directives in this order, and a
part that names a target and a level is read back as that directive.
-/

namespace StopView

/-- A threshold lets everything through that has no more detail than something it lets
through. -/
theorem Threshold.admits_of_detail_le {threshold : Threshold} {level other : LogLevel}
    (less : other.detail ≤ level.detail) (admitted : threshold.admits level = true) :
    threshold.admits other = true := by
  cases threshold with
  | none => exact absurd admitted Bool.false_ne_true
  | some most => exact decide_eq_true (Nat.le_trans less (of_decide_eq_true admitted))

/-! ## Comparing directives -/

namespace Directive

variable {first second third : Directive}

theorem atMostAsParticular_iff :
    first.atMostAsParticular second = true ↔
      first.beginning.length < second.beginning.length ∨
        first.beginning.length = second.beginning.length ∧
          (first.field = none ∨ second.field.isSome = true) := by
  simp [atMostAsParticular]

theorem atMostAsParticular_total :
    first.atMostAsParticular second = true ∨ second.atMostAsParticular first = true := by
  rw [atMostAsParticular_iff, atMostAsParticular_iff]
  rcases Nat.lt_trichotomy first.beginning.length second.beginning.length with
    shorter | same | longer
  · exact .inl (.inl shorter)
  · cases named : first.field with
    | none => exact .inl (.inr ⟨same, .inl rfl⟩)
    | some _ => exact .inr (.inr ⟨same.symm, .inr rfl⟩)
  · exact .inr (.inl longer)

theorem atMostAsParticular_trans (left : first.atMostAsParticular second = true)
    (right : second.atMostAsParticular third = true) :
    first.atMostAsParticular third = true := by
  rw [atMostAsParticular_iff] at left right ⊢
  rcases left with shorter | ⟨same, field⟩
  · left
    rcases right with further | ⟨same, -⟩ <;> omega
  · rcases right with shorter | ⟨alike, further⟩
    · left
      omega
    · refine .inr ⟨same.trans alike, ?_⟩
      rcases field with plain | named
      · exact .inl plain
      · exact .inr (further.resolve_left fun plain => by simp [plain] at named)

theorem covers_of_blank (threshold : Threshold) (event : LogEvent) :
    covers ⟨"", none, threshold⟩ event = true := by
  simp [covers]

end Directive

/-! ## The directive that governs -/

namespace Filter

open Directive

variable {filter : Filter} {event : LogEvent} {directive : Directive}

/-- A directive of a filter stands where it governs an event: it covers the event, and so
do only directives in front of it that are at most as particular, and directives behind it
that are less so. -/
structure Governs (filter : Filter) (event : LogEvent) (directive : Directive) : Prop where
  covers : directive.covers event = true
  place : ∃ before after, filter.directives = before ++ directive :: after ∧
    (∀ other ∈ before, other.covers event = true →
      other.atMostAsParticular directive = true) ∧
    (∀ other ∈ after, other.covers event = true →
      directive.atMostAsParticular other = false)

/-- Where one directive governs, all that cover the event are at most as particular. -/
theorem Governs.atMost (governs : filter.Governs event directive) {other : Directive}
    (listed : other ∈ filter.directives) (covers : other.covers event = true) :
    other.atMostAsParticular directive = true := by
  obtain ⟨-, before, after, eq, atMost, less⟩ := governs
  rw [eq, List.mem_append, List.mem_cons] at listed
  rcases listed with early | rfl | late
  · exact atMost other early covers
  · exact atMostAsParticular_total.elim id id
  · exact atMostAsParticular_total.resolve_right (by simp [less other late covers])

/-! ### One more directive -/

/-- A directive that governs still does in front of one that is less particular or does not
cover the event. -/
theorem Governs.concat {directives : List Directive} {last : Directive}
    (governs : Governs ⟨directives⟩ event directive)
    (less : last.covers event = true → directive.atMostAsParticular last = false) :
    Governs ⟨directives ++ [last]⟩ event directive := by
  obtain ⟨covers, before, after, rfl, atMost, lessBehind⟩ := governs
  refine ⟨covers, before, after ++ [last], by simp, atMost, ?_⟩
  intro other listed coversToo
  rcases List.mem_append.mp listed with early | late
  · exact lessBehind other early coversToo
  · obtain rfl := List.mem_singleton.mp late
    exact less coversToo

theorem governs_last {directives : List Directive} (covers : directive.covers event = true)
    (atMost : ∀ other ∈ directives, other.covers event = true →
      other.atMostAsParticular directive = true) :
    Governs ⟨directives ++ [directive]⟩ event directive :=
  ⟨covers, directives, [], rfl, atMost, by simp⟩

theorem governing?_concat (directives : List Directive) :
    governing? ⟨directives ++ [directive]⟩ event =
      prefer event (governing? ⟨directives⟩ event) directive := by
  simp [governing?]

theorem prefer_of_uncovered (best : Option Directive) (uncovered : directive.covers event = false) :
    prefer event best directive = best := by
  simp [prefer, uncovered]

/-! ### The fold -/

/-- Nothing governs an event exactly if nothing covers it. -/
theorem governing?_eq_none_iff :
    filter.governing? event = none ↔ ∀ other ∈ filter.directives, other.covers event = false := by
  obtain ⟨directives⟩ := filter
  induction directives using List.reverseRecOn with
  | nil => simp [governing?]
  | append_singleton directives last ih =>
      simp only [governing?_concat, List.mem_append, List.mem_singleton, or_imp, forall_and,
        forall_eq, ← ih]
      cases covered : last.covers event with
      | false => simp [prefer_of_uncovered _ covered]
      | true =>
          -- Whether or not something governed before, something does now.
          cases governing? ⟨directives⟩ event with
          | none => simp [prefer, covered]
          | some best =>
              simp only [prefer, covered, if_true]
              split <;> simp

theorem governs_of_governing? (found : filter.governing? event = some directive) :
    filter.Governs event directive := by
  obtain ⟨directives⟩ := filter
  induction directives using List.reverseRecOn generalizing directive with
  | nil => simp [governing?] at found
  | append_singleton directives last ih =>
      rw [governing?_concat] at found
      cases covered : last.covers event with
      | false =>
          rw [prefer_of_uncovered _ covered] at found
          exact (ih found).concat (by simp [covered])
      | true =>
          cases earlier : governing? ⟨directives⟩ event with
          | none =>
              obtain rfl : last = directive := by simpa [earlier, prefer, covered] using found
              refine governs_last covered fun other listed coversToo => ?_
              simp [governing?_eq_none_iff.mp earlier other listed] at coversToo
          | some best =>
              simp only [earlier, prefer, covered, if_true] at found
              split at found
              · rename_i atLeast
                obtain rfl := Option.some.inj found
                -- What covers the event was at most as particular as the best one so far.
                exact governs_last covered fun other listed coversToo =>
                  atMostAsParticular_trans ((ih earlier).atMost listed coversToo) atLeast
              · rename_i notAtLeast
                obtain rfl := Option.some.inj found
                exact (ih earlier).concat fun _ => by simpa using notAtLeast

theorem foldl_prefer_of_less {others : List Directive}
    (less : ∀ other ∈ others, other.covers event = true →
      directive.atMostAsParticular other = false) :
    others.foldl (prefer event) (some directive) = some directive := by
  induction others with
  | nil => rfl
  | cons other others ih =>
      have kept : prefer event (some directive) other = some directive := by
        cases covered : other.covers event with
        | false => exact prefer_of_uncovered _ covered
        | true => simp [prefer, covered, less other List.mem_cons_self covered]
      rw [List.foldl_cons, kept]
      exact ih fun later listed => less later (List.mem_cons_of_mem other listed)

/-- The fold arrives at the one directive that governs. -/
theorem governing?_eq_some_iff :
    filter.governing? event = some directive ↔ filter.Governs event directive := by
  refine ⟨governs_of_governing?, ?_⟩
  rintro ⟨covers, before, after, eq, atMost, less⟩
  -- The directive is preferred to what the ones in front of it come to.
  have reached : prefer event (governing? ⟨before⟩ event) directive = some directive := by
    cases found : governing? ⟨before⟩ event with
    | none => simp [prefer, covers]
    | some best =>
        obtain ⟨coversToo, front, back, rfl, -⟩ := governs_of_governing? found
        simp [prefer, covers, atMost best (by simp) coversToo]
  calc filter.governing? event
      = after.foldl (prefer event) (prefer event (governing? ⟨before⟩ event) directive) := by
        simp [governing?, eq]
    _ = some directive := by rw [reached, foldl_prefer_of_less less]

theorem Governs.unique {other : Directive} (governs : filter.Governs event directive)
    (governsToo : filter.Governs event other) : directive = other :=
  Option.some.inj
    ((governing?_eq_some_iff.mpr governs).symm.trans (governing?_eq_some_iff.mpr governsToo))

/-- An event is let through exactly if the directive that governs it lets its level
through. -/
theorem admits_iff :
    filter.admits event = true ↔
      ∃ directive, filter.Governs event directive ∧
        directive.threshold.admits event.level = true := by
  simp only [← governing?_eq_some_iff, admits]
  cases filter.governing? event <;> simp

/-- Who is let through with some detail is let through with less. -/
theorem admits_of_detail_le {other : LogLevel} (less : other.detail ≤ event.level.detail)
    (admitted : filter.admits event = true) :
    filter.admits { event with level := other } = true := by
  obtain ⟨directive, ⟨covers, place⟩, through⟩ := admits_iff.mp admitted
  exact admits_iff.mpr ⟨directive, ⟨covers, place⟩, Threshold.admits_of_detail_le less through⟩

/-- A filter of one level lets through what has no more detail, whatever its target. -/
theorem admits_ofLevel (level : LogLevel) :
    (ofLevel level).admits event = true ↔ event.level.detail ≤ level.detail := by
  simp [ofLevel, admits, governing?, prefer, covers_of_blank, Threshold.admits]

end Filter

end StopView
