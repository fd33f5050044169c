import StopView.Proofs.Text.Escape
import StopView.Symbol.Hashed

/-!
# Hashed names without escapes

A hashed name is shown by parts of it, with separators and resolved escapes between them.
No escape of such a name stands for a control character.
-/

namespace StopView.Symbol.Hashed

open Text

theorem subset_of_afterOpening? {openings : List String} {name inner : List Char}
    (found : afterOpening? openings name = some inner) : inner ⊆ name := by
  obtain ⟨opening, _, rfl⟩ := Option.map_eq_some_iff.mp found
  exact List.drop_subset _ name

/-- Parts are made of the characters of the name, and so is what follows them. -/
theorem subset_of_parts? {chars : List Char} {parts : List (List Char)} {rest : List Char}
    (found : parts? chars = some (parts, rest)) :
    (∀ part ∈ parts, part ⊆ chars) ∧ rest ⊆ chars := by
  induction chars using parts?.induct generalizing parts rest with
  | case1 => simp [parts?] at found
  | case2 tail =>
      rw [parts?, if_pos rfl] at found
      cases found
      constructor
      · intro part listed
        cases listed
      · exact List.subset_cons_self _ _
  | case3 c tail notEnd digit length =>
      rename_i body short
      rw [parts?, if_neg notEnd, if_pos digit, if_pos short] at found
      contradiction
  | case4 c tail notEnd digit length body =>
      rename_i enough ih
      rw [parts?, if_neg notEnd, if_pos digit, if_neg enough] at found
      obtain ⟨⟨others, last⟩, read, same⟩ := Option.map_eq_some_iff.mp found
      cases same
      obtain ⟨each, after⟩ := ih read
      have inBody : body ⊆ c :: tail :=
        List.Subset.trans (List.dropWhile_sublist Char.isDigit).subset
          (List.subset_cons_self c tail)
      have behind := List.Subset.trans (List.drop_subset length body) inBody
      constructor
      · intro part listed
        rcases List.mem_cons.mp listed with rfl | later
        · exact List.Subset.trans (List.take_subset length body) inBody
        · exact List.Subset.trans (each part later) behind
      · exact List.Subset.trans after behind
  | case5 c tail notEnd notDigit =>
      rw [parts?, if_neg notEnd, if_neg notDigit] at found
      contradiction

/-- No resolved escape is a control character. -/
theorem unescaped?_ne_escape {letters : List Char} {c : Char}
    (found : unescaped? letters = some c) : c ≠ escape := by
  unfold unescaped? at found
  split at found
  · rename_i other listed
    cases found
    have plain : ∀ entry ∈ escapes, entry.2 ≠ escape := by decide
    exact plain _ (mem_of_lookup_eq_some listed)
  · split at found
    · rintro rfl
      have shown := (Option.filter_eq_some_iff.mp found).2
      contradiction
    · contradiction

theorem noEscape_resolve {chars : List Char} (free : NoEscape chars) :
    NoEscape (resolve chars) := by
  induction chars using resolve.induct with
  | case1 =>
      rw [resolve]
      exact .nil
  | case2 tail ih =>
      rw [resolve]
      have later := ih (free.of_subset (List.subset_cons_of_subset _ (List.subset_cons_self _ _)))
      exact .cons (by decide) (.cons (by decide) later)
  | case3 tail unclosed =>
      rw [resolve]
      split
      · exact free
      · rename_i closed
        rw [unclosed] at closed
        contradiction
  | case4 tail head after closed c resolved ih =>
      have part : after ⊆ '$' :: tail := by
        intro found inAfter
        have inRest : found ∈ tail.dropWhile (· != '$') := by
          rw [closed]
          exact List.mem_cons_of_mem head inAfter
        exact List.mem_cons_of_mem _ ((List.dropWhile_sublist _).subset inRest)
      rw [resolve]
      split
      · rename_i unclosed
        rw [closed] at unclosed
        contradiction
      · rename_i other afterOther closedOther
        rw [closed] at closedOther
        cases closedOther
        rw [resolved]
        exact .cons (unescaped?_ne_escape resolved) (ih (free.of_subset part))
  | case5 tail head after closed unresolved =>
      rw [resolve]
      split
      · exact free
      · rw [unresolved]
        exact free
  | case6 c tail notDots notDollar ih =>
      rw [resolve]
      · exact .cons (free.of_mem List.mem_cons_self)
          (ih (free.of_subset (List.subset_cons_self c tail)))
      · exact notDots
      · exact notDollar

theorem noEscape_showPart {part : List Char} (free : NoEscape part) :
    NoEscape (showPart part) := by
  unfold showPart
  split
  · exact noEscape_resolve (free.of_subset (List.subset_cons_self _ _))
  · exact noEscape_resolve free

/-- A hashed name without escapes is shown without them, and so is what follows it. -/
theorem noEscape_of_read? {name shown rest : List Char} (free : NoEscape name)
    (found : read? name = some (shown, rest)) : NoEscape shown ∧ NoEscape rest := by
  rw [read?] at found
  obtain ⟨inner, opened, found⟩ := Option.bind_eq_some_iff.mp found
  have innerFree : NoEscape inner := free.of_subset (subset_of_afterOpening? opened)
  split at found
  · obtain ⟨⟨parts, after⟩, listed, same⟩ := Option.bind_eq_some_iff.mp found
    cases same
    obtain ⟨each, last⟩ := subset_of_parts? listed
    have kept : withoutHash parts ⊆ parts := by
      unfold withoutHash
      split
      · split
        · exact List.dropLast_subset parts
        · exact List.Subset.refl parts
      · exact List.Subset.refl parts
    constructor
    · apply NoEscape.intercalate
      · decide
      · intro text textMem
        obtain ⟨part, partMem, rfl⟩ := List.mem_map.mp textMem
        exact noEscape_showPart (innerFree.of_subset (each part (kept partMem)))
    · exact innerFree.of_subset last
  · contradiction

end StopView.Symbol.Hashed
