/-!
# Counts

A count is written in decimal digits, with at most one plus sign in front, and must
fit in a machine word.
-/

namespace StopView

/-- The number of machine words. -/
def wordBound : Nat :=
  0x10000000000000000

/-- Append a decimal digit to a number. -/
def appendDigit (value : Option Nat) (c : Char) : Option Nat :=
  match value with
  | some n => if c.isDigit then some (n * 10 + (c.toNat - '0'.toNat)) else none
  | none => none

/-- The number that a list of decimal digits writes. -/
def digitsValue? (digits : List Char) : Option Nat :=
  if digits.isEmpty then none else digits.foldl appendDigit (some 0)

/-- The count that a text writes. -/
def parseCount? (text : String) : Option Nat :=
  let digits :=
    match text.toList with
    | '+' :: rest => rest
    | chars => chars
  (digitsValue? digits).filter fun n => decide (n < wordBound)

/-- Counts fit in a machine word. -/
theorem lt_wordBound_of_parseCount? {text : String} {n : Nat}
    (parsed : parseCount? text = some n) : n < wordBound := by
  simp only [parseCount?, Option.filter_eq_some_iff, decide_eq_true_eq] at parsed
  exact parsed.2

end StopView
