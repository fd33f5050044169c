import StopView.Text.Pieces

/-!
# Which words a text has

The words of a text, without reference to how it is cut: between blanks, none of them empty
and none with a blank in it.  Cutting finds exactly these words, so that words written apart
are read back, whatever blanks stand between them.
-/

namespace StopView.Text

/-- A text consists of blanks and words.  A word ends at a blank or at the end of the text. -/
inductive HasWords : List Char → List (List Char) → Prop
  | none : HasWords [] []
  | blank {c : Char} {rest : List Char} {words : List (List Char)} (blank : isBlank c = true)
      (further : HasWords rest words) : HasWords (c :: rest) words
  | word {word rest : List Char} {words : List (List Char)} (filled : word ≠ [])
      (solid : ∀ c ∈ word, isBlank c = false)
      (ends : ∀ c, rest.head? = some c → isBlank c = true) (further : HasWords rest words) :
      HasWords (word ++ rest) (word :: words)

/-- Words written one after the other, each apart from the next by some blanks. -/
inductive Spaced : List (List Char) → List Char → Prop
  | none : Spaced [] []
  | last (word : List Char) : Spaced [word] word
  | next {word gap text : List Char} {words : List (List Char)} (filled : gap ≠ [])
      (blank : ∀ c ∈ gap, isBlank c = true) (more : words ≠ []) (further : Spaced words text) :
      Spaced (word :: words) (word ++ gap ++ text)

/-! ## Cutting -/

/-- The words at which cutting arrives. -/
def wordChars (chars : List Char) : List (List Char) :=
  (pieces isBlank chars).filter fun piece => !piece.isEmpty

theorem words_eq_map (text : String) : words text = (wordChars text.toList).map String.ofList :=
  rfl

theorem pieces_eq_splitOnP (cut : Char → Bool) (chars : List Char) :
    pieces cut chars = chars.splitOnP cut := by
  induction chars with
  | nil => rfl
  | cons c rest ih =>
      rw [pieces, List.splitOnP_cons_eq_if_modifyHead, ← ih]
      split
      · rfl
      · cases found : pieces cut rest with
        | nil => exact absurd found (pieces_ne_nil cut rest)
        | cons piece more => rfl

@[simp]
theorem wordChars_nil : wordChars [] = [] :=
  rfl

/-- A blank parts the words before it from those behind it. -/
theorem wordChars_append_cons {c : Char} (blank : isBlank c = true) (before behind : List Char) :
    wordChars (before ++ c :: behind) = wordChars before ++ wordChars behind := by
  simp only [wordChars, pieces_eq_splitOnP]
  rw [List.splitOnP_append_cons before behind blank, List.filter_append]

theorem wordChars_cons {c : Char} (blank : isBlank c = true) (rest : List Char) :
    wordChars (c :: rest) = wordChars rest :=
  wordChars_append_cons blank [] rest

theorem wordChars_of_solid {word : List Char} (filled : word ≠ [])
    (solid : ∀ c ∈ word, isBlank c = false) : wordChars word = [word] := by
  rw [wordChars, pieces_eq_splitOnP, List.splitOnP_eq_singleton solid]
  simp [filled]

theorem wordChars_append_of_blank_left {gap : List Char} (blank : ∀ c ∈ gap, isBlank c = true)
    (rest : List Char) : wordChars (gap ++ rest) = wordChars rest := by
  induction gap with
  | nil => rfl
  | cons c gap ih =>
      rw [List.cons_append, wordChars_cons (blank c List.mem_cons_self)]
      exact ih fun other later => blank other (List.mem_cons_of_mem c later)

theorem wordChars_append_of_blank_right (before : List Char) {gap : List Char}
    (blank : ∀ c ∈ gap, isBlank c = true) : wordChars (before ++ gap) = wordChars before := by
  cases gap with
  | nil => rw [List.append_nil]
  | cons c rest =>
      have behind : wordChars (rest ++ []) = wordChars [] :=
        wordChars_append_of_blank_left
          (fun other later => blank other (List.mem_cons_of_mem c later)) []
      rw [List.append_nil, wordChars_nil] at behind
      rw [wordChars_append_cons (blank c List.mem_cons_self), behind, List.append_nil]

/-- A word that ends is the first one. -/
theorem wordChars_word_append {word rest : List Char} (filled : word ≠ [])
    (solid : ∀ c ∈ word, isBlank c = false)
    (ends : ∀ c, rest.head? = some c → isBlank c = true) :
    wordChars (word ++ rest) = word :: wordChars rest := by
  cases rest with
  | nil => rw [List.append_nil, wordChars_of_solid filled solid, wordChars_nil]
  | cons c rest =>
      have blank : isBlank c = true := ends c rfl
      rw [wordChars_append_cons blank, wordChars_of_solid filled solid, wordChars_cons blank]
      rfl

/-! ## Cutting finds the words -/

theorem exists_hasWords (chars : List Char) : ∃ words, HasWords chars words := by
  induction chars with
  | nil => exact ⟨[], .none⟩
  | cons c rest ih =>
      obtain ⟨words, has⟩ := ih
      cases kind : isBlank c with
      | true => exact ⟨words, .blank kind has⟩
      | false =>
          -- The character begins a word of its own or goes in front of the next one.
          have alone : ∀ other ∈ [c], isBlank other = false := by simpa using kind
          cases has with
          | none => exact ⟨[[c]], .word (List.cons_ne_nil c []) alone nofun .none⟩
          | @blank d behind _ blank further =>
              refine ⟨[c] :: words, .word (List.cons_ne_nil c []) alone ?_ (.blank blank further)⟩
              rintro _ ⟨⟩
              exact blank
          | @word word behind others filled solid ends further =>
              refine ⟨(c :: word) :: others, .word (List.cons_ne_nil c word) ?_ ends further⟩
              simpa [kind] using solid

/-- The words that a text has are those that cutting finds. -/
theorem hasWords_iff {chars : List Char} {words : List (List Char)} :
    HasWords chars words ↔ wordChars chars = words := by
  have found : ∀ {chars : List Char} {words : List (List Char)},
      HasWords chars words → wordChars chars = words := by
    intro chars words has
    induction has with
    | none => rfl
    | blank blank _ ih => rw [wordChars_cons blank, ih]
    | word filled solid ends _ ih => rw [wordChars_word_append filled solid ends, ih]
  constructor
  · exact found
  · rintro rfl
    obtain ⟨words, has⟩ := exists_hasWords chars
    rwa [found has]

/-- Trimming takes away blanks at the end. -/
theorem exists_eq_trimEndChars_append (chars : List Char) :
    ∃ gap, (∀ c ∈ gap, isBlank c = true) ∧ chars = trimEndChars chars ++ gap := by
  refine ⟨(chars.reverse.takeWhile isBlank).reverse, ?_, ?_⟩
  · intro c listed
    exact List.all_eq_true.mp List.all_takeWhile c (List.mem_reverse.mp listed)
  · rw [trimEndChars, ← List.reverse_append, List.takeWhile_append_dropWhile,
      List.reverse_reverse]

/-- Trimming takes away no word. -/
theorem wordChars_trimChars (chars : List Char) :
    wordChars (trimChars chars) = wordChars chars := by
  obtain ⟨gap, blank, whole⟩ := exists_eq_trimEndChars_append (chars.dropWhile isBlank)
  have front : ∀ c ∈ chars.takeWhile isBlank, isBlank c = true :=
    List.all_eq_true.mp List.all_takeWhile
  calc
    wordChars (trimChars chars) = wordChars (trimChars chars ++ gap) :=
      (wordChars_append_of_blank_right _ blank).symm
    _ = wordChars (chars.dropWhile isBlank) := by rw [trimChars, ← whole]
    _ = wordChars (chars.takeWhile isBlank ++ chars.dropWhile isBlank) :=
      (wordChars_append_of_blank_left front _).symm
    _ = wordChars chars := by rw [List.takeWhile_append_dropWhile]

/-! ## Words written apart -/

/-- Words that are written apart are the words of what is written. -/
theorem Spaced.hasWords {words : List (List Char)} {text : List Char} (spaced : Spaced words text)
    (proper : ∀ word ∈ words, word ≠ [] ∧ ∀ c ∈ word, isBlank c = false) :
    HasWords text words := by
  rw [hasWords_iff]
  induction spaced with
  | none => rfl
  | last word =>
      obtain ⟨filled, solid⟩ := proper word List.mem_cons_self
      exact wordChars_of_solid filled solid
  | @next word gap text words filledGap blank more further ih =>
      obtain ⟨filled, solid⟩ := proper word List.mem_cons_self
      have later := ih fun other listed => proper other (List.mem_cons_of_mem word listed)
      have ends : ∀ c, (gap ++ text).head? = some c → isBlank c = true := by
        obtain ⟨c, rest, rfl⟩ := List.exists_cons_of_ne_nil filledGap
        rintro _ ⟨⟩
        exact blank c List.mem_cons_self
      rw [List.append_assoc, wordChars_word_append filled solid ends,
        wordChars_append_of_blank_left blank, later]

end StopView.Text
