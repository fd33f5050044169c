import StopView.Text.Column

/-!
# Hexadecimal text

Addresses and register values are written with lower-case digits.  The short form
has no leading zeros; the padded form fills up to a number of digits.
-/

namespace StopView

/-- The digits of a number in base sixteen. -/
def hexDigits (n : Nat) : String :=
  String.ofList (Nat.toDigits 16 n)

/-- A number with its base in front. -/
def hex (n : Nat) : String :=
  "0x" ++ hexDigits n

/-- A number with its base in front and at least `digits` digits. -/
def hexPadded (digits n : Nat) : String :=
  "0x" ++ Text.padLeft digits '0' (hexDigits n)

end StopView
