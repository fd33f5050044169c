import StopView.Text.Blank

/-!
# Cutting text into pieces, words and lines

`pieces` cuts a text at every character of a class and keeps the empty pieces.
Words are the non-empty pieces between blanks.  Lines are the pieces between line
feeds: a line feed that ends the text starts no further line, and one carriage
return in front of a line feed belongs to the line's end.
-/

namespace StopView.Text

/-- The pieces between the characters of a class, the empty ones included. -/
def pieces (cut : Char → Bool) : List Char → List (List Char)
  | [] => [[]]
  | c :: rest =>
      if cut c then
        [] :: pieces cut rest
      else
        match pieces cut rest with
        | [] => [[c]]
        | piece :: more => (c :: piece) :: more

/-- There is always a first piece. -/
theorem pieces_ne_nil (cut : Char → Bool) (chars : List Char) : pieces cut chars ≠ [] := by
  cases chars with
  | nil => simp [pieces]
  | cons c rest =>
      rw [pieces]
      split
      · simp
      · split <;> simp

/-- Cutting loses only the characters at which it cuts. -/
theorem flatten_pieces (cut : Char → Bool) (chars : List Char) :
    (pieces cut chars).flatten = chars.filter fun c => !cut c := by
  induction chars with
  | nil => simp [pieces]
  | cons c rest ih =>
      rw [pieces]
      split
      · rename_i isCut
        simp [ih, isCut]
      · rename_i isKept
        split
        · rename_i none
          exact absurd none (pieces_ne_nil cut rest)
        · rename_i piece more eq
          rw [eq] at ih
          simp_all

/-- No piece holds a character at which it would be cut. -/
theorem cut_eq_false_of_mem_pieces {cut : Char → Bool} {chars piece : List Char} {c : Char}
    (isPiece : piece ∈ pieces cut chars) (inPiece : c ∈ piece) : cut c = false := by
  have kept : c ∈ (pieces cut chars).flatten := List.mem_flatten.mpr ⟨piece, isPiece, inPiece⟩
  rw [flatten_pieces] at kept
  simpa using (List.mem_filter.mp kept).2

/-- The words of a text: its non-empty pieces between blanks. -/
def words (text : String) : List String :=
  ((pieces isBlank text.toList).filter fun piece => !piece.isEmpty).map String.ofList

/-- A line without one carriage return at its end. -/
def dropReturn (line : List Char) : List Char :=
  if line.getLast? = some '\r' then line.dropLast else line

/-- The lines made of the pieces between line feeds.  Only the last piece has no
line feed after it. -/
def linesOfPieces : List (List Char) → List (List Char)
  | [] => []
  | [last] => if last.isEmpty then [] else [last]
  | piece :: next :: rest => dropReturn piece :: linesOfPieces (next :: rest)

/-- The lines of a list of characters. -/
def lineChars (chars : List Char) : List (List Char) :=
  linesOfPieces (pieces (· == '\n') chars)

/-- The lines of a text. -/
def lines (text : String) : List String :=
  (lineChars text.toList).map String.ofList

end StopView.Text
