import StopView.Symbol.Hashed
import StopView.Symbol.Punycode

/-!
# Reading structured symbol names

A structured name is read from left to right, with steps back to earlier places.  The
cursor knows the place, the characters from there on, and how deep the reading is
nested.  Reading fails when the name breaks the grammar, or when it is nested too
deeply.
-/

namespace StopView.Symbol

/-- Why a name cannot be read on. -/
inductive Broken where
  | invalid
  | tooDeep
deriving Repr, DecidableEq

/-- What is shown in place of the part that cannot be read. -/
def Broken.text : Broken → String
  | .invalid => "\x7binvalid syntax\x7d"
  | .tooDeep => "\x7brecursion limit reached\x7d"

/-- A place in a name. -/
structure Cursor where
  place : Nat
  rest : List Char
  depth : Nat

/-- An identifier: its ASCII letters, and the digits that tell the others. -/
structure Ident where
  ascii : List Char
  punycode : List Char

/-- Whether an identifier is empty. -/
def Ident.isEmpty (ident : Ident) : Bool :=
  ident.ascii.isEmpty && ident.punycode.isEmpty

/-- The pieces in which an identifier is shown.  One that cannot be decoded is shown
in its encoded form. -/
def Ident.shown (ident : Ident) : List String :=
  match Punycode.decode? ident.ascii ident.punycode with
  | some word => word.map Char.toString
  | none =>
      if ident.punycode.isEmpty then
        [String.ofList ident.ascii]
      else
        ["punycode\x7b"] ++
          (if ident.ascii.isEmpty then [] else [String.ofList ident.ascii, "-"]) ++
          [String.ofList ident.punycode, "\x7d"]

/-- A step of reading. -/
abbrev Reader := StateT Cursor (Except Broken)

namespace Reader

/-- The deepest nesting. -/
def deepest : Nat := 500

/-- Go one level deeper. -/
def enter : Reader Unit := do
  let cursor ← get
  if cursor.depth < deepest then set { cursor with depth := cursor.depth + 1 }
  else throw .tooDeep

/-- Go past some characters. -/
def skip (count : Nat) : Reader Unit :=
  modify fun cursor =>
    { cursor with place := cursor.place + count, rest := cursor.rest.drop count }

/-- The next character. -/
def next : Reader Char := do
  match (← get).rest with
  | [] => throw .invalid
  | c :: _ =>
      skip 1
      return c

/-- Go past a character if it is the next one. -/
def eat (c : Char) : Reader Bool := do
  if (← get).rest.head? = some c then
    skip 1
    return true
  else
    return false

/-- A lower-case hexadecimal number up to its closing underscore. -/
def hexNibbles : Reader (List Char) := do
  let rest := (← get).rest
  let nibbles := rest.takeWhile fun c => (Hashed.lowerHexDigit? c).isSome
  if (rest.drop nibbles.length).head? = some '_' then
    skip (nibbles.length + 1)
    return nibbles
  else
    throw .invalid

/-- The value of a digit in base 62: figures, small letters, capitals. -/
def digit62? (c : Char) : Option Nat :=
  if c.isDigit then some (c.toNat - '0'.toNat)
  else if 'a' ≤ c && c ≤ 'z' then some (10 + (c.toNat - 'a'.toNat))
  else if 'A' ≤ c && c ≤ 'Z' then some (36 + (c.toNat - 'A'.toNat))
  else none

/-- A machine word, or a broken name. -/
def word (value : Nat) : Reader Nat :=
  if value < wordBound then return value else throw .invalid

/-- The number written by digits in base 62. -/
def value62 (digits : List Char) : Reader Nat :=
  digits.foldlM (fun value c => word (value * 62 + (digit62? c).getD 0)) 0

/-- A number in base 62 up to its closing underscore.  No digits stand for zero, and
every other number is written less one. -/
def integer62 : Reader Nat := do
  let rest := (← get).rest
  let digits := rest.takeWhile fun c => (digit62? c).isSome
  if (rest.drop digits.length).head? = some '_' then
    skip (digits.length + 1)
    if digits.isEmpty then return 0
    else word ((← value62 digits) + 1)
  else
    throw .invalid

/-- A number behind a tag, less one; zero without the tag. -/
def taggedInteger62 (tag : Char) : Reader Nat := do
  if ← eat tag then word ((← integer62) + 1) else return 0

/-- The number that tells equal names apart. -/
def disambiguator : Reader Nat :=
  taggedInteger62 's'

/-- A namespace: special ones have a capital letter, ordinary ones none to show. -/
def namespaceTag : Reader (Option Char) := do
  let c ← next
  if 'A' ≤ c && c ≤ 'Z' then return some c
  else if 'a' ≤ c && c ≤ 'z' then return none
  else throw .invalid

/-- The cursor at an earlier place, one level deeper. -/
def back (name : List Char) : Reader Cursor := do
  let here := (← get).place - 1
  let place ← integer62
  if place < here then
    let depth := (← get).depth
    if depth < deepest then return ⟨place, name.drop place, depth + 1⟩ else throw .tooDeep
  else
    throw .invalid

/-- A decimal number: zero, or figures that do not start with zero. -/
def decimal : Reader Nat := do
  let figures := (← get).rest.takeWhile Char.isDigit
  match figures with
  | [] => throw .invalid
  | '0' :: _ =>
      skip 1
      return 0
  | _ =>
      skip figures.length
      word (Hashed.lengthOf figures)

/-- The last place of a character in a list, with what is before and after it. -/
def splitLast? (c : Char) (chars : List Char) : Option (List Char × List Char) :=
  let after := (chars.reverse.takeWhile (· != c)).reverse
  if after.length < chars.length then
    some (chars.take (chars.length - after.length - 1), after)
  else
    none

/-- An identifier behind its length. -/
def ident : Reader Ident := do
  let encoded ← eat 'u'
  let length ← decimal
  let _ ← eat '_'
  let rest := (← get).rest
  if rest.length < length then
    throw .invalid
  else
    skip length
    let letters := rest.take length
    if encoded then
      let (ascii, punycode) := (splitLast? '_' letters).getD ([], letters)
      if punycode.isEmpty then throw .invalid else return ⟨ascii, punycode⟩
    else
      return ⟨letters, []⟩

end Reader

end StopView.Symbol
