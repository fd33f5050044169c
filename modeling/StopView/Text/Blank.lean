import StopView.Text.Span

/-!
# Blanks and trimming

A blank is a character with the white-space property: the five ASCII controls from
tab to carriage return, the space, and the wider spaces and separators of other
scripts.  The zero-width space and the byte order mark are not blanks.
-/

namespace StopView.Text

/-- The code points of the blanks. -/
def blankSpans : List (Nat × Nat) :=
  [(0x9, 0xd), (0x20, 0x20), (0x85, 0x85), (0xa0, 0xa0), (0x1680, 0x1680), (0x2000, 0x200a),
   (0x2028, 0x2029), (0x202f, 0x202f), (0x205f, 0x205f), (0x3000, 0x3000)]

/-- Whether a character is a blank. -/
def isBlank (c : Char) : Bool :=
  inSpans blankSpans c

/-- Drop the blanks at the end. -/
def trimEndChars (chars : List Char) : List Char :=
  (chars.reverse.dropWhile isBlank).reverse

/-- Drop the blanks at both ends. -/
def trimChars (chars : List Char) : List Char :=
  trimEndChars (chars.dropWhile isBlank)

/-- A text without the blanks at its end. -/
def trimEnd (text : String) : String :=
  String.ofList (trimEndChars text.toList)

/-- A text without the blanks at its ends. -/
def trim (text : String) : String :=
  String.ofList (trimChars text.toList)

/-- The usual white space of ASCII is blank. -/
theorem isBlank_of_isWhitespace {c : Char} (white : c.isWhitespace = true) : isBlank c = true := by
  simp only [Char.isWhitespace, Bool.or_eq_true, decide_eq_true_eq] at white
  rcases white with ((rfl | rfl) | rfl) | rfl <;> decide

@[simp]
theorem trimEndChars_nil : trimEndChars [] = [] :=
  rfl

@[simp]
theorem trimChars_nil : trimChars [] = [] :=
  rfl

@[simp]
theorem toList_trim (text : String) : (trim text).toList = trimChars text.toList := by
  simp [trim]

@[simp]
theorem toList_trimEnd (text : String) : (trimEnd text).toList = trimEndChars text.toList := by
  simp [trimEnd]

end StopView.Text
