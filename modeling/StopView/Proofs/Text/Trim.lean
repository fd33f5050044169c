import Mathlib.Data.List.DropRight
import StopView.Text.Blank

/-!
# What trimming leaves

Blanks at the ends go, however many there are, and nothing else does: what has no blank in it is
left as it is, and trimming a second time changes nothing more.
-/

namespace StopView.Text

theorem trimEndChars_eq_rdropWhile (chars : List Char) :
    trimEndChars chars = chars.rdropWhile isBlank :=
  rfl

theorem trimEndChars_append_of_blank (chars : List Char) {gap : List Char}
    (blank : ∀ c ∈ gap, isBlank c = true) : trimEndChars (chars ++ gap) = trimEndChars chars := by
  rw [trimEndChars, trimEndChars, List.reverse_append, List.dropWhile_append_of_pos]
  exact fun c listed => blank c (List.mem_reverse.mp listed)

/-- What is no blank holds everything in front of it. -/
theorem trimEndChars_append_cons {c : Char} (solid : isBlank c = false)
    (before behind : List Char) :
    trimEndChars (before ++ c :: behind) = before ++ c :: trimEndChars behind := by
  have held : (c :: before.reverse).dropWhile isBlank = c :: before.reverse :=
    List.dropWhile_cons_of_neg (by simp [solid])
  rw [trimEndChars, trimEndChars, List.reverse_append, List.reverse_cons, List.append_assoc,
    List.singleton_append, List.dropWhile_append, held]
  split
  · rename_i none
    simp [List.isEmpty_iff.mp none]
  · simp

theorem trimEndChars_trimEndChars (chars : List Char) :
    trimEndChars (trimEndChars chars) = trimEndChars chars :=
  List.rdropWhile_idempotent isBlank chars

theorem trimEndChars_of_solid {chars : List Char} (solid : ∀ c ∈ chars, isBlank c = false) :
    trimEndChars chars = chars := by
  rw [trimEndChars_eq_rdropWhile, List.rdropWhile_eq_self_iff]
  intro filled
  rw [solid _ (List.getLast_mem filled)]
  exact Bool.false_ne_true

/-- Nothing is left of blanks, and something of everything else. -/
theorem trimChars_eq_nil_iff {chars : List Char} :
    trimChars chars = [] ↔ ∀ c ∈ chars, isBlank c = true := by
  rw [trimChars, trimEndChars_eq_rdropWhile, List.rdropWhile_eq_nil_iff]
  constructor
  · intro blank
    have front : ∀ c ∈ chars.takeWhile isBlank, isBlank c = true :=
      List.all_eq_true.mp List.all_takeWhile
    rw [← List.takeWhile_append_dropWhile (p := isBlank) (l := chars)]
    exact List.forall_mem_append.mpr ⟨front, blank⟩
  · intro blank c listed
    exact blank c ((List.dropWhile_sublist isBlank).subset listed)

/-- Trimming finds the word between blanks. -/
theorem trimChars_surrounded {front word back : List Char}
    (blank : ∀ c ∈ front ++ back, isBlank c = true) (filled : word ≠ [])
    (solid : ∀ c ∈ word, isBlank c = false) : trimChars (front ++ word ++ back) = word := by
  obtain ⟨letter, rest, rfl⟩ := List.exists_cons_of_ne_nil filled
  have begins : isBlank letter = false := solid letter List.mem_cons_self
  rw [trimChars, List.append_assoc,
    List.dropWhile_append_of_pos fun c listed => blank c (List.mem_append_left back listed),
    List.cons_append, List.dropWhile_cons_of_neg (by rw [begins]; exact Bool.false_ne_true),
    ← List.cons_append,
    trimEndChars_append_of_blank _ fun c listed => blank c (List.mem_append_right front listed),
    trimEndChars_of_solid solid]

theorem trim_of_solid {text : String} (solid : ∀ c ∈ text.toList, isBlank c = false) :
    trim text = text := by
  have front : text.toList.dropWhile isBlank = text.toList := by
    rw [List.dropWhile_eq_self_iff]
    intro filled
    rw [solid _ (List.getElem_mem filled)]
    exact Bool.false_ne_true
  rw [← String.toList_inj, toList_trim, trimChars, front, trimEndChars_of_solid solid]

end StopView.Text
