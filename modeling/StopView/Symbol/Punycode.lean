import StopView.Count

/-!
# Punycode

Punycode writes a word with characters beyond ASCII as its ASCII letters, followed by
where to put the others.  Each step is a number in mixed radix that tells both the
next character and its place.  The radix adapts itself to the numbers read.
-/

namespace StopView.Symbol.Punycode

/-- Arithmetic is done in machine words: a number that leaves them is refused. -/
def inWord (value : Nat) : Option Nat :=
  if value < wordBound then some value else none

/-- The value of a digit: the letters, then the figures. -/
def digit? (c : Char) : Option Nat :=
  if 'a' ≤ c && c ≤ 'z' then some (c.toNat - 'a'.toNat)
  else if c.isDigit then some (26 + (c.toNat - '0'.toNat))
  else none

/-- The least digit that continues a number, at one of its places. -/
def threshold (place bias : Nat) : Nat :=
  min (max (place - bias) 1) 26

/-- Read one number: its value and what follows it. -/
def readNumber? (bias : Nat) : Nat → Nat → Nat → List Char → Option (Nat × List Char)
  | _, _, _, [] => none
  | place, weight, value, c :: rest => do
      let place := place + 36
      let digit ← digit? c
      let value ← inWord (value + (← inWord (digit * weight)))
      if digit < threshold place bias then
        return (value, rest)
      else
        let weight ← inWord (weight * (36 - threshold place bias))
        readNumber? bias place weight value rest

/-- Bring a number below the bound at which the bias is taken from it. -/
def settle : Nat → Nat → Nat → Nat × Nat
  | 0, place, delta => (place, delta)
  | fuel + 1, place, delta =>
      if delta > 455 then settle fuel (place + 36) (delta / 35) else (place, delta)

/-- The bias for the next number. -/
def adapt (delta damp length : Nat) : Nat :=
  let scaled := delta / damp
  let (place, rest) := settle 64 0 (scaled + scaled / length)
  place + (36 * rest) / (rest + 38)

/-- Where decoding stands: the next character, its place, and the adaptation. -/
structure State where
  code : Nat
  place : Nat
  bias : Nat
  damp : Nat

/-- The longest word that is decoded. -/
def longestWord : Nat := 128

/-- Put a character into a word. -/
def insertAt (word : List Char) (place : Nat) (c : Char) : Option (List Char) :=
  if word.length < longestWord then some (word.take place ++ c :: word.drop place) else none

/-- Put the characters that numbers tell into a word.  Every number takes at least one
digit, so `fuel` need not exceed the number of digits. -/
def insertAll : Nat → State → List Char → List Char → Option (List Char)
  | 0, _, _, _ => none
  | fuel + 1, state, word, digits => do
      let (delta, rest) ← readNumber? state.bias 0 1 0 digits
      let length := word.length + 1
      let sum ← inWord (state.place + delta)
      let code ← inWord (state.code + sum / length)
      if code.isValidChar then
        let word ← insertAt word (sum % length) (Char.ofNat code)
        if rest.isEmpty then
          return word
        else
          insertAll fuel ⟨code, sum % length + 1, adapt delta state.damp length, 2⟩ word rest
      else
        none

/-- The word written by ASCII letters and the digits after them. -/
def decode? (ascii digits : List Char) : Option (List Char) :=
  if digits.isEmpty || longestWord < ascii.length then none
  else insertAll digits.length ⟨0x80, 0, 72, 700⟩ ascii digits

end StopView.Symbol.Punycode
