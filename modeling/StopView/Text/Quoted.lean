import StopView.Text.Hidden

/-!
# Quoted text

A quoted text stands between double quotes.  The quote, the backslash and the four
common controls have two-character forms, and every other character without a face
of its own is written by its number.
-/

namespace StopView.Text

/-- A character by its number, in lower-case hexadecimal digits. -/
def numberForm (c : Char) : List Char :=
  ['\\', 'u', '\x7b'] ++ Nat.toDigits 16 c.toNat ++ ['\x7d']

/-- A character that is no quotation mark as it stands in quoted text. -/
def escapeUnquoted (c : Char) : List Char :=
  if c = '\x00' then ['\\', '0']
  else if c = '\t' then ['\\', 't']
  else if c = '\r' then ['\\', 'r']
  else if c = '\n' then ['\\', 'n']
  else if c = '\\' then ['\\', '\\']
  else if isHidden c then numberForm c
  else [c]

/-- A character as it stands between quotation marks of one kind. -/
def escapeWithin (mark : Char) (c : Char) : List Char :=
  if c = mark then ['\\', c] else escapeUnquoted c

/-- Characters between quotation marks of one kind. -/
def quoteWith (mark : Char) (chars : List Char) : List Char :=
  mark :: chars.flatMap (escapeWithin mark) ++ [mark]

/-- A text between double quotes. -/
def quoted (text : String) : String :=
  String.ofList (quoteWith '"' text.toList)

end StopView.Text
