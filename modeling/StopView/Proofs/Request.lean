import Mathlib.Data.List.Basic
import StopView.Session

/-!
# What a request asks for

A request names sections, possibly several times.  The view shows each of them once,
where it is named first.  `FirstSeen` states this without reference to how repetitions
are taken out.
-/

namespace StopView

/-- `kept` holds exactly the elements of `items`, each once, in the order in which they
first occur there. -/
structure FirstSeen {α : Type} [DecidableEq α] (items kept : List α) : Prop where
  mem_iff : ∀ item, item ∈ kept ↔ item ∈ items
  ordered : kept.Pairwise fun earlier later => items.idxOf earlier < items.idxOf later

namespace FirstSeen

variable {α : Type} [DecidableEq α] {items kept : List α}

theorem nodup (seen : FirstSeen items kept) : kept.Nodup := by
  apply seen.ordered.imp
  rintro earlier later before rfl
  exact Nat.lt_irrefl _ before

/-- There is only one way to keep the first occurrences. -/
theorem eq {other : List α} (seen : FirstSeen items kept) (again : FirstSeen items other) :
    kept = other := by
  have perm : kept.Perm other :=
    (List.perm_ext_iff_of_nodup seen.nodup again.nodup).mpr fun item =>
      (seen.mem_iff item).trans (again.mem_iff item).symm
  apply perm.eq_of_pairwise _ seen.ordered again.ordered
  intro earlier later _ _ before behind
  exact absurd before (Nat.lt_asymm behind)

end FirstSeen

theorem idxOf_lt_idxOf_cons {α : Type} [DecidableEq α] {first earlier later : α}
    {rest : List α} (earlierOther : earlier ≠ first) (laterOther : later ≠ first)
    (before : rest.idxOf earlier < rest.idxOf later) :
    (first :: rest).idxOf earlier < (first :: rest).idxOf later := by
  rw [List.idxOf_cons_ne _ earlierOther.symm, List.idxOf_cons_ne _ laterOther.symm]
  exact Nat.succ_lt_succ before

/-- Taking out repetitions leaves every element where it is first seen. -/
theorem firstSeen_firstOccurrences {α : Type} [DecidableEq α] (items : List α) :
    FirstSeen items (firstOccurrences items) := by
  induction items with
  | nil => exact ⟨fun item => Iff.rfl, List.Pairwise.nil⟩
  | cons first rest ih =>
      constructor
      · intro item
        by_cases same : item = first
        · simp [firstOccurrences, same]
        · simp [firstOccurrences, same, ih.mem_iff]
      · rw [firstOccurrences, List.pairwise_cons]
        constructor
        · intro later laterMem
          have other : later ≠ first := by simpa using (List.mem_filter.mp laterMem).2
          rw [List.idxOf_cons_self, List.idxOf_cons_ne _ other.symm]
          exact Nat.succ_pos _
        · apply (ih.ordered.filter _).imp_of_mem
          intro earlier later earlierMem laterMem before
          have earlierOther : earlier ≠ first := by
            simpa using (List.mem_filter.mp earlierMem).2
          have laterOther : later ≠ first := by
            simpa using (List.mem_filter.mp laterMem).2
          exact idxOf_lt_idxOf_cons earlierOther laterOther before

theorem firstSeen_of_nodup {α : Type} [DecidableEq α] {items : List α} (apart : items.Nodup) :
    FirstSeen items items := by
  have same : firstOccurrences items = items := by
    induction items with
    | nil => rfl
    | cons first rest ih =>
        obtain ⟨fresh, further⟩ := List.nodup_cons.mp apart
        rw [firstOccurrences, ih further, List.filter_eq_self.mpr]
        intro other listed
        exact decide_eq_true fun equal => fresh (equal ▸ listed)
  have seen := firstSeen_firstOccurrences items
  rwa [same] at seen

namespace Session

/-- The section that a token asks for. -/
def sectionOfToken? (token : String) : Option Section :=
  (SectionKey.ofToken? token).bind SectionKey.part?

/-- The sections that a request names, as often as it names them.  A request without
tokens stands for the sections of the settings. -/
def namedSections (settings : Settings) (tokens : List String) : List Section :=
  if tokens.isEmpty then settings.sections else tokens.filterMap sectionOfToken?

/-- A request is reduced to the sections that it names, without repetitions. -/
theorem value_requestedSections (settings : Settings) (tokens : List String) :
    (requestedSections settings tokens).value =
      firstOccurrences (namedSections settings tokens) := by
  unfold requestedSections namedSections
  split
  · simp [sectionsOfKeys, List.filterMap_map, Function.comp_def, SectionKey.part?]
  · simp only [sectionsOfKeys, List.filterMap_filterMap]
    rfl

/-- The sections of a view are those that its request names, by first occurrence. -/
theorem firstSeen_requestedSections (settings : Settings) (tokens : List String) :
    FirstSeen (namedSections settings tokens) (requestedSections settings tokens).value := by
  rw [value_requestedSections]
  exact firstSeen_firstOccurrences _

theorem nodup_requestedSections (settings : Settings) (tokens : List String) :
    (requestedSections settings tokens).value.Nodup :=
  (firstSeen_requestedSections settings tokens).nodup

end Session

end StopView
