import StopView.Logging.Pattern.Mode

/-!
# Classes in patterns

A class stands in brackets.  It has members: characters, ranges, kinds, and classes within
it.  Operators split a class into parts, each of which has members.

The height of a class tells how deep what is in it is nested.  Several members, an operator
and a class within a class add one level each.
-/

namespace StopView.Pattern

/-- The height of several things side by side: one thing alone keeps its height. -/
def heightOfAll : List Nat → Nat
  | [] => 0
  | [height] => height
  | heights => heights.foldl max 0 + 1

/-- The names of classes of ASCII characters. -/
def namedClasses : List String :=
  ["alnum", "alpha", "ascii", "blank", "cntrl", "digit", "graph", "lower", "print", "punct",
   "space", "upper", "word", "xdigit"]

/-- Read a class that is given by its name between colons: whether it is negated, and
what follows it. -/
def namedClass? : List Char → Option (Bool × List Char)
  | ':' :: rest =>
      let isNegated := rest.head? == some '^'
      let rest := if isNegated then rest.drop 1 else rest
      let name := rest.takeWhile (· != ':')
      match rest.drop name.length with
      | ':' :: ']' :: rest =>
          if namedClasses.contains (String.ofList name) then some (isNegated, rest) else none
      | _ => none
  | _ => none

/-! ## Members -/

/-- A member of a class: a single character, or a whole kind of them. -/
inductive Member where
  | single (code : Nat)
  | many
deriving Repr, DecidableEq

/-- The member that an escape stands for. -/
def Escape.member? : Escape → Option Member
  | .character code | .byte code => some (.single code)
  | .kind _ => some .many
  | .border | .anchor => none

/-- Whether a member may stand in a class of a mode.  Without the wide characters a class
holds ASCII only. -/
def Mode.allowsMember (mode : Mode) : Member → Bool
  | .single code => mode.allowsCharacter && (mode.wide || decide (code < 0x80))
  | .many => mode.allowsCharacter

/-- Whether a class may be negated. -/
def Mode.allowsNegation (mode : Mode) : Bool :=
  mode.wide

/-- Read a member of a class. -/
def member? (mode : Mode) : List Char → Option (Member × List Char)
  | [] => none
  | '\\' :: rest => do
      let (escape, rest) ← escape? mode rest
      let member ← escape.member?
      if mode.allows escape && mode.allowsMember member then return (member, rest) else none
  | c :: rest =>
      if mode.allowsMember (.single c.toNat) then some (.single c.toNat, rest) else none

/-- Whether a range may lead from one member to another. -/
def isRange : Member → Member → Bool
  | .single low, .single high => decide (low ≤ high)
  | _, _ => false

/-- Read a member of a class, or a range between two of them.  A dash in front of the
end of the class or of another dash stands for itself. -/
def range? (mode : Mode) (chars : List Char) : Option (List Char) := do
  let (first, rest) ← member? mode chars
  match mode.skip rest with
  | [] => none
  | '-' :: after =>
      let next := mode.peek? after
      if next = some ']' || next = some '-' then
        return '-' :: after
      else
        let (last, rest) ← member? mode (mode.skip after)
        if isRange first last then return rest else none
  | rest => return rest

/-! ## Classes -/

/-- What has been read of a class: the heights of the members since its last operator, and
the height of what stands before that operator. -/
structure OpenClass where
  members : List Nat
  left : Option Nat
deriving Repr, DecidableEq

namespace OpenClass

/-- A class with some plain members. -/
def ofMembers (count : Nat) : OpenClass :=
  ⟨List.replicate count 0, none⟩

/-- A class with one more member. -/
def add (inner : OpenClass) (height : Nat) : OpenClass :=
  { inner with members := height :: inner.members }

/-- The height of what is in a class. -/
def height (inner : OpenClass) : Nat :=
  match inner.left with
  | none => heightOfAll inner.members
  | some left => max left (heightOfAll inner.members) + 1

/-- A class behind an operator. -/
def operator (inner : OpenClass) : OpenClass :=
  ⟨[], some inner.height⟩

end OpenClass

/-- Count the dashes that stand for themselves.  Each takes a character, so `fuel` need not
exceed the number of characters. -/
def dashes (mode : Mode) : Nat → List Char → Nat × List Char
  | fuel + 1, '-' :: rest =>
      let (count, rest) := dashes mode fuel (mode.skip rest)
      (count + 1, rest)
  | _, chars => (0, chars)

/-- Read the opening of a class behind its bracket: its negation, and the dashes and the
bracket that stand for themselves there. -/
def openClass? (mode : Mode) (chars : List Char) : Option (OpenClass × List Char) :=
  let chars := mode.skip chars
  let isNegated := chars.head? == some '^'
  let inner := if isNegated then mode.skip (chars.drop 1) else chars
  let (count, rest) := dashes mode inner.length inner
  if isNegated && !mode.allowsNegation then none
  else if count = 0 && rest.head? != some ']' then some (.ofMembers 0, rest)
  else if !mode.allowsCharacter then none
  else if count = 0 then some (.ofMembers 1, mode.skip (rest.drop 1))
  else some (.ofMembers count, rest)

/-- Read the rest of a class: its height, and what follows it.  `outer` holds the classes
around it.  Every step takes a character. -/
def classRest? (mode : Mode) : Nat → OpenClass → List OpenClass → List Char →
    Option (Nat × List Char)
  | 0, _, _, _ => none
  | fuel + 1, inner, outer, chars =>
      match mode.skip chars with
      | [] => none
      | '[' :: rest =>
          match namedClass? rest with
          | some (isNegated, rest) =>
              if mode.allowsMember .many && (mode.allowsNegation || !isNegated) then
                classRest? mode fuel (inner.add 0) outer rest
              else
                none
          | none => do
              let (next, rest) ← openClass? mode rest
              classRest? mode fuel next (inner :: outer) rest
      | ']' :: rest =>
          match outer with
          | [] => some (inner.height + 1, rest)
          | around :: outer => classRest? mode fuel (around.add (inner.height + 1)) outer rest
      | '&' :: '&' :: rest => classRest? mode fuel inner.operator outer rest
      | '-' :: '-' :: rest => classRest? mode fuel inner.operator outer rest
      | '~' :: '~' :: rest => classRest? mode fuel inner.operator outer rest
      | chars => do
          let rest ← range? mode chars
          classRest? mode fuel (inner.add 0) outer rest

/-- Read a class behind its opening bracket: its height, and what follows it. -/
def class? (mode : Mode) (chars : List Char) : Option (Nat × List Char) := do
  let (inner, rest) ← openClass? mode chars
  classRest? mode (chars.length + 1) inner [] rest

end StopView.Pattern
