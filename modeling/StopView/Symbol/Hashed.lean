import StopView.Text.Pieces

/-!
# Hashed symbol names

A hashed name lists the parts of a path between `_ZN` and `E`, each behind its
length.  Characters that no linker takes are escaped between dollar signs, and a
double dot stands for the path separator.  The last part is usually a hash, which
is of no use to a reader and is left out.
-/

namespace StopView.Symbol.Hashed

/-- The number written by decimal digits. -/
def lengthOf (digits : List Char) : Nat :=
  digits.foldl (fun value c => value * 10 + (c.toNat - '0'.toNat)) 0

/-- The parts of a name up to its closing letter, and what follows it. -/
def parts? (chars : List Char) : Option (List (List Char) × List Char) :=
  match chars with
  | [] => none
  | c :: rest =>
      if c = 'E' then
        some ([], rest)
      else if c.isDigit then
        let length := lengthOf (c :: rest.takeWhile Char.isDigit)
        let body := rest.dropWhile Char.isDigit
        if body.length < length then
          none
        else
          (parts? (body.drop length)).map fun found =>
            (body.take length :: found.1, found.2)
      else
        none
termination_by chars.length
decreasing_by
  have behind : (rest.dropWhile Char.isDigit).Sublist rest := List.dropWhile_sublist _
  have shorter := behind.length_le
  simp only [List.length_drop, List.length_cons]
  omega

/-- Whether a part is a hash: the letter and hexadecimal digits. -/
def isHash (part : List Char) : Bool :=
  match part with
  | 'h' :: digits =>
      digits.all fun c =>
        c.isDigit || ('a' ≤ c && c ≤ 'f') || ('A' ≤ c && c ≤ 'F')
  | _ => false

/-- The characters with an escape of their own. -/
def escapes : List (String × Char) :=
  [("SP", '@'), ("BP", '*'), ("RF", '&'), ("LT", '<'), ("GT", '>'), ("LP", '('), ("RP", ')'),
   ("C", ',')]

/-- The value of a lower-case hexadecimal digit. -/
def lowerHexDigit? (c : Char) : Option Nat :=
  if c.isDigit then some (c.toNat - '0'.toNat)
  else if 'a' ≤ c && c ≤ 'f' then some (c.toNat - 'a'.toNat + 10)
  else none

/-- The number written by lower-case hexadecimal digits. -/
def lowerHexValue? (digits : List Char) : Option Nat :=
  if digits.isEmpty then none
  else digits.foldlM (fun value c => (lowerHexDigit? c).map (value * 16 + ·)) 0

/-- The character with a code point, if there is one. -/
def charOfCode? (code : Nat) : Option Char :=
  if code.isValidChar then some (Char.ofNat code) else none

/-- Whether a character is a control. -/
def isControl (c : Char) : Bool :=
  c.toNat < 0x20 || (0x7f ≤ c.toNat && c.toNat < 0xa0)

/-- The character that an escape stands for. -/
def unescaped? (escape : List Char) : Option Char :=
  match escapes.lookup (String.ofList escape) with
  | some c => some c
  | none =>
      match escape with
      | 'u' :: digits =>
          ((lowerHexValue? digits).bind charOfCode?).filter fun c => !isControl c
      | _ => none

/-- A part with its escapes resolved.  From an escape that stands for nothing on, the
rest is left as it is. -/
def resolve (chars : List Char) : List Char :=
  match chars with
  | [] => []
  | '.' :: '.' :: rest => ':' :: ':' :: resolve rest
  | '$' :: rest =>
      match _closing : rest.dropWhile (· != '$') with
      | [] => '$' :: rest
      | _ :: after =>
          match unescaped? (rest.takeWhile (· != '$')) with
          | some c => c :: resolve after
          | none => '$' :: rest
  | c :: rest => c :: resolve rest
termination_by chars.length
decreasing_by
  · simp only [List.length_cons]
    omega
  · have behind : (rest.dropWhile (· != '$')).Sublist rest := List.dropWhile_sublist _
    have shorter := behind.length_le
    rw [_closing] at shorter
    simp only [List.length_cons] at shorter ⊢
    omega
  · simp

/-- A part as it is shown.  An underscore that only protects an escape is dropped. -/
def showPart (part : List Char) : List Char :=
  match part with
  | '_' :: '$' :: rest => resolve ('$' :: rest)
  | _ => resolve part

/-- The parts without a hash at the end. -/
def withoutHash (parts : List (List Char)) : List (List Char) :=
  match parts.getLast? with
  | some last => if isHash last then parts.dropLast else parts
  | none => parts

/-- The beginnings of a hashed name. -/
def openings : List String :=
  ["_ZN", "ZN", "__ZN"]

/-- What follows the first of some beginnings that a name has. -/
def afterOpening? (openings : List String) (name : List Char) : Option (List Char) :=
  (openings.find? fun opening => opening.toList.isPrefixOf name).map fun opening =>
    name.drop opening.length

/-- A hashed name as it is shown, and what follows it. -/
def read? (name : List Char) : Option (List Char × List Char) := do
  let inner ← afterOpening? openings name
  if inner.all fun c => c.toNat < 0x80 then
    let (parts, rest) ← parts? inner
    return ([':', ':'].intercalate ((withoutHash parts).map showPart), rest)
  else
    none

end StopView.Symbol.Hashed
