import StopView.Address
import StopView.Text.Lower
import StopView.Text.Pieces
import StopView.Text.Quoted
import StopView.Text.Upper
import Mathlib.Data.List.Basic

/-!
# Texts without escapes

Every sequence of terminal codes begins with an escape character.  Texts that are made of
texts without it, by changing the case of letters, by filling up columns, by cutting, by
writing numbers or by quoting, are again without it.
-/

namespace StopView.Text

/-- The character that begins every sequence of terminal codes. -/
def escape : Char :=
  '\x1b'

/-- No escape is among some characters. -/
def NoEscape (chars : List Char) : Prop :=
  escape ∉ chars

instance (chars : List Char) : Decidable (NoEscape chars) :=
  inferInstanceAs (Decidable (escape ∉ chars))

/-- A text without escapes. -/
def EscapeFree (text : String) : Prop :=
  NoEscape text.toList

instance (text : String) : Decidable (EscapeFree text) :=
  inferInstanceAs (Decidable (NoEscape text.toList))

/-! ## Characters -/

namespace NoEscape

variable {chars other : List Char}

theorem nil : NoEscape [] :=
  List.not_mem_nil

theorem of_subset (free : NoEscape chars) (part : other ⊆ chars) : NoEscape other :=
  fun found => free (part found)

theorem cons {c : Char} (here : c ≠ escape) (free : NoEscape chars) : NoEscape (c :: chars) := by
  intro found
  rcases List.mem_cons.mp found with first | later
  · exact here first.symm
  · exact free later

theorem append (left : NoEscape chars) (right : NoEscape other) : NoEscape (chars ++ other) := by
  intro found
  rcases List.mem_append.mp found with before | after
  · exact left before
  · exact right after

theorem of_mem (free : NoEscape chars) {c : Char} (listed : c ∈ chars) : c ≠ escape := by
  rintro rfl
  exact free listed

theorem singleton {c : Char} (here : c ≠ escape) : NoEscape [c] :=
  cons here nil

theorem replicate {c : Char} (here : c ≠ escape) (count : Nat) :
    NoEscape (List.replicate count c) :=
  fun found => here (List.eq_of_mem_replicate found).symm

theorem flatMap {α : Type} {items : List α} {f : α → List Char}
    (each : ∀ item ∈ items, NoEscape (f item)) : NoEscape (items.flatMap f) := by
  intro found
  obtain ⟨item, listed, there⟩ := List.mem_flatMap.mp found
  exact each item listed there

theorem intercalate {separator : List Char} {items : List (List Char)}
    (between : NoEscape separator) (each : ∀ item ∈ items, NoEscape item) :
    NoEscape (separator.intercalate items) := by
  induction items with
  | nil => exact nil
  | cons first rest ih =>
      have here := each first List.mem_cons_self
      have later := ih fun item listed => each item (List.mem_cons_of_mem first listed)
      cases rest with
      | nil =>
          rw [List.intercalate_singleton]
          exact here
      | cons second others =>
          rw [List.intercalate_cons_cons]
          exact (here.append between).append later

end NoEscape

/-- A code point other than the escape's gives another character. -/
theorem ofNat_ne_escape {code : Nat} (other : code ≠ 0x1b) : Char.ofNat code ≠ escape := by
  intro same
  have codes := congrArg Char.toNat same
  by_cases valid : code.isValidChar
  · rw [Char.ofNat, dif_pos valid] at codes
    exact other codes
  · rw [Char.ofNat, dif_neg valid] at codes
    contradiction

theorem noEscape_toDigits {base : Nat} (large : 1 < base) (n : Nat) :
    NoEscape (Nat.toDigits base n) := by
  induction n using Nat.strongRecOn with
  | ind n ih =>
      have digit : ∀ d, NoEscape [Nat.digitChar d] := fun d =>
        .singleton (Nat.digitChar_ne escape (by decide))
      rw [Nat.toDigits_eq_if large]
      split
      · exact digit n
      · rename_i notSmall
        have smaller : n / base < n := Nat.div_lt_self (by omega) large
        exact (ih _ smaller).append (digit _)

theorem noEscape_numberForm (c : Char) : NoEscape (numberForm c) := by
  have digits := noEscape_toDigits (by decide : 1 < 16) c.toNat
  exact ((by decide : NoEscape ['\\', 'u', '\x7b']).append digits).append (by decide)

/-- An escape is written by its number. -/
theorem noEscape_escapeUnquoted (c : Char) : NoEscape (escapeUnquoted c) := by
  rw [escapeUnquoted]
  iterate 5
    split
    · decide
  split
  · exact noEscape_numberForm c
  · rename_i shown
    apply NoEscape.singleton
    rintro rfl
    exact shown (by decide)

/-- Quoting leaves no escape. -/
theorem noEscape_escapeWithin {mark : Char} (other : mark ≠ escape) (c : Char) :
    NoEscape (escapeWithin mark c) := by
  rw [escapeWithin]
  split
  · rename_i same
    rw [same]
    exact .cons (by decide) (.singleton other)
  · exact noEscape_escapeUnquoted c

/-! ## Texts -/

theorem escapeFree_ofList {chars : List Char} (free : NoEscape chars) :
    EscapeFree (String.ofList chars) := by
  rw [EscapeFree, String.toList_ofList]
  exact free

theorem escapeFree_empty : EscapeFree "" := by decide

namespace EscapeFree

variable {left right : String}

theorem append (leftFree : EscapeFree left) (rightFree : EscapeFree right) :
    EscapeFree (left ++ right) := by
  rw [EscapeFree, String.toList_append]
  exact NoEscape.append leftFree rightFree

theorem join {texts : List String} (each : ∀ text ∈ texts, EscapeFree text) :
    EscapeFree (String.join texts) := by
  rw [EscapeFree, String.toList_join]
  exact NoEscape.flatMap each

end EscapeFree

theorem escapeFree_repeated {c : Char} (other : c ≠ escape) (count : Nat) :
    EscapeFree (repeated count c) :=
  escapeFree_ofList (.replicate other count)

theorem escapeFree_blankLike (text : String) : EscapeFree (blankLike text) :=
  escapeFree_repeated (by decide) _

theorem EscapeFree.padRight {text : String} (free : EscapeFree text) (width : Nat) :
    EscapeFree (padRight width text) :=
  free.append (escapeFree_repeated (by decide) _)

theorem EscapeFree.padLeft {text : String} (free : EscapeFree text) {fill : Char}
    (other : fill ≠ escape) (width : Nat) : EscapeFree (padLeft width fill text) :=
  (escapeFree_repeated other _).append free

/-! ## Numbers -/

theorem escapeFree_toString (n : Nat) : EscapeFree (toString n) := by
  rw [Nat.toString_eq_ofList_toDigits]
  exact escapeFree_ofList (noEscape_toDigits (by decide) n)

theorem escapeFree_toString_int (n : Int) : EscapeFree (toString n) := by
  cases n with
  | ofNat n => exact escapeFree_toString n
  | negSucc n => exact EscapeFree.append (by decide) (escapeFree_toString (n + 1))

theorem escapeFree_hexDigits (n : Nat) : EscapeFree (hexDigits n) :=
  escapeFree_ofList (noEscape_toDigits (by decide) n)

theorem escapeFree_hex (n : Nat) : EscapeFree (hex n) :=
  EscapeFree.append (by decide) (escapeFree_hexDigits n)

theorem escapeFree_padded (address : Address) : EscapeFree address.padded :=
  EscapeFree.append (by decide) ((escapeFree_hexDigits _).padLeft (by decide) 16)

/-! ## The case of letters -/

/-- A character that is moved does not become an escape. -/
theorem moveBy_ne_escape {runs : List CaseRun}
    (targets : (runs.all fun run => decide (0x1b < run.target)) = true) {c : Char}
    (other : c ≠ escape) : moveBy runs c ≠ escape := by
  rw [moveBy]
  split
  · rename_i run found
    have target := List.all_eq_true.mp targets run (List.mem_of_find?_eq_some found)
    apply ofNat_ne_escape
    rw [CaseRun.move]
    have large := of_decide_eq_true target
    omega
  · exact other

/-- What is looked up in a table is listed there. -/
theorem mem_of_lookup_eq_some {α β : Type} [BEq α] [LawfulBEq α] {table : List (α × β)} {key : α}
    {value : β} (found : table.lookup key = some value) : (key, value) ∈ table := by
  obtain ⟨before, after, split, _⟩ := List.lookup_eq_some_iff.mp found
  rw [split]
  exact List.mem_append_right _ List.mem_cons_self

theorem noEscape_of_lookup {table : List (Nat × List Nat)}
    (codes : (table.all fun entry => entry.2.all fun code => decide (code ≠ 0x1b)) = true)
    {code : Nat} {expansion : List Nat} (found : table.lookup code = some expansion) :
    NoEscape (expansion.map Char.ofNat) := by
  intro there
  obtain ⟨value, valueMem, same⟩ := List.mem_map.mp there
  have entry := List.all_eq_true.mp codes _ (mem_of_lookup_eq_some found)
  exact ofNat_ne_escape (of_decide_eq_true (List.all_eq_true.mp entry value valueMem)) same

theorem noEscape_upperChar {c : Char} (other : c ≠ escape) : NoEscape (upperChar c) := by
  rw [upperChar]
  split
  · rename_i codes found
    exact noEscape_of_lookup (by decide +kernel) found
  · exact .singleton (moveBy_ne_escape (by decide +kernel) other)

theorem EscapeFree.upper {text : String} (free : EscapeFree text) : EscapeFree (upper text) :=
  escapeFree_ofList (.flatMap fun _ listed => noEscape_upperChar (NoEscape.of_mem free listed))

theorem noEscape_lowerCharBetween (before : List Char) {c : Char} (after : List Char)
    (other : c ≠ escape) : NoEscape (lowerCharBetween before c after) := by
  rw [lowerCharBetween]
  split
  · split <;> decide
  · rw [lowerChar]
    split
    · rename_i codes found
      exact noEscape_of_lookup (by decide +kernel) found
    · exact .singleton (moveBy_ne_escape (by decide +kernel) other)

theorem EscapeFree.lower {text : String} (free : EscapeFree text) : EscapeFree (lower text) := by
  have each : ∀ before chars, NoEscape chars → NoEscape (lowerFrom before chars) := by
    intro before chars
    induction chars generalizing before with
    | nil => exact fun _ => .nil
    | cons c rest ih =>
        intro chars
        have here := chars.of_mem List.mem_cons_self
        have later := chars.of_subset (List.subset_cons_self c rest)
        exact (noEscape_lowerCharBetween before rest here).append (ih (c :: before) later)
  exact escapeFree_ofList (each [] text.toList free)

/-! ## Cutting -/

/-- The pieces of a text are made of its characters. -/
theorem subset_of_mem_pieces {cut : Char → Bool} {chars piece : List Char}
    (listed : piece ∈ pieces cut chars) : piece ⊆ chars := by
  intro c inPiece
  have kept : c ∈ (pieces cut chars).flatten := List.mem_flatten.mpr ⟨piece, listed, inPiece⟩
  rw [flatten_pieces] at kept
  exact (List.mem_filter.mp kept).1

/-- Lines are made of the characters of pieces. -/
theorem exists_subset_of_mem_linesOfPieces {items : List (List Char)} {line : List Char}
    (listed : line ∈ linesOfPieces items) : ∃ piece ∈ items, line ⊆ piece := by
  have returned : ∀ piece, dropReturn piece ⊆ piece := by
    intro piece
    rw [dropReturn]
    split
    · exact List.dropLast_subset piece
    · exact List.Subset.refl piece
  induction items with
  | nil => cases listed
  | cons piece rest ih =>
      cases rest with
      | nil =>
          rw [linesOfPieces] at listed
          split at listed
          · cases listed
          · rw [List.mem_singleton.mp listed]
            exact ⟨piece, List.mem_cons_self, List.Subset.refl piece⟩
      | cons next others =>
          rcases List.mem_cons.mp listed with rfl | later
          · exact ⟨piece, List.mem_cons_self, returned piece⟩
          · obtain ⟨found, foundMem, part⟩ := ih later
            exact ⟨found, List.mem_cons_of_mem piece foundMem, part⟩

theorem EscapeFree.lines {text line : String} (free : EscapeFree text)
    (listed : line ∈ lines text) : EscapeFree line := by
  obtain ⟨chars, charsMem, rfl⟩ := List.mem_map.mp listed
  obtain ⟨piece, pieceMem, part⟩ := exists_subset_of_mem_linesOfPieces charsMem
  exact escapeFree_ofList (NoEscape.of_subset free
    (List.Subset.trans part (subset_of_mem_pieces pieceMem)))

theorem trimEndChars_subset (chars : List Char) : trimEndChars chars ⊆ chars := by
  intro c listed
  have kept := (List.dropWhile_sublist isBlank).subset (List.mem_reverse.mp listed)
  exact List.mem_reverse.mp kept

theorem EscapeFree.trimEnd {text : String} (free : EscapeFree text) :
    EscapeFree (trimEnd text) :=
  escapeFree_ofList (NoEscape.of_subset free (trimEndChars_subset text.toList))

end StopView.Text
