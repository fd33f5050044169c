import StopView.Logging.Pattern.Class
import StopView.Logging.Pattern.Group

/-!
# Patterns

The value of a field is described by a pattern: a regular expression.  Nothing here
matches a pattern against a text; `isPattern` tells which texts are patterns at all.

A pattern is a sequence of parts: characters, escapes, classes in brackets, groups in
parentheses, the dot and the anchors.  Parts may be repeated, and sequences may stand
side by side as alternatives.

What is in a pattern is nested to some height, which has a limit.  A group, a class, a
repetition, several parts in a sequence and several alternatives add one level each.

A text is read by steps that each take at least one character, so as many steps as it
has characters are enough.
-/

namespace StopView.Pattern

/-- The most levels that a pattern may be nested. -/
def mostLevels : Nat := 250

/-- A part of a sequence: a switch, or something with a height that may be repeated. -/
inductive Part where
  | switch
  | item (height : Nat)
deriving Repr, DecidableEq

/-- The height of a part. -/
def Part.height : Part → Nat
  | .switch => 0
  | .item height => height

/-- What has been read of a group, the last first: the parts of its current alternative, and
the heights of the alternatives before that. -/
structure OpenGroup where
  parts : List Part
  alternatives : List Nat
deriving Repr, DecidableEq

namespace OpenGroup

/-- A group of which nothing has been read. -/
def empty : OpenGroup :=
  ⟨[], []⟩

/-- A group with one more part. -/
def add (inner : OpenGroup) (part : Part) : OpenGroup :=
  { inner with parts := part :: inner.parts }

/-- A group whose last part is repeated, if it can be. -/
def repeatLast? (inner : OpenGroup) : Option OpenGroup :=
  match inner.parts with
  | .item height :: before => some { inner with parts := .item (height + 1) :: before }
  | _ => none

/-- The height of the current alternative. -/
def sequenceHeight (inner : OpenGroup) : Nat :=
  heightOfAll (inner.parts.map Part.height)

/-- A group at the start of another alternative. -/
def nextAlternative (inner : OpenGroup) : OpenGroup :=
  ⟨[], inner.sequenceHeight :: inner.alternatives⟩

/-- The height of what is in a group. -/
def height (inner : OpenGroup) : Nat :=
  heightOfAll (inner.sequenceHeight :: inner.alternatives)

end OpenGroup

/-- Where the reading of a pattern stands: the mode, what has been read of the innermost
group, the groups around it with the modes there, and the names of groups so far. -/
structure Progress where
  mode : Mode
  inner : OpenGroup
  outer : List (Mode × OpenGroup)
  names : List (List Char)

namespace Progress

/-- Before anything was read. -/
def initial : Progress :=
  ⟨.initial, .empty, [], []⟩

/-- One more part has been read. -/
def add (progress : Progress) (part : Part) : Progress :=
  { progress with inner := progress.inner.add part }

/-- A plain part has been read, if it may stand in the pattern. -/
def plain? (progress : Progress) (allowed : Bool) (rest : List Char) :
    Option (Progress × List Char) :=
  if allowed then some (progress.add (.item 0), rest) else none

/-- Read behind an opening parenthesis. -/
def openParenthesis? (progress : Progress) (chars : List Char) :
    Option (Progress × List Char) := do
  match ← opening? progress.mode chars with
  | (.switched mode, rest) => return ({ progress.add .switch with mode }, rest)
  | (.group mode name, rest) =>
      if name.any progress.names.contains then
        none
      else
        return (⟨mode, .empty, (progress.mode, progress.inner) :: progress.outer,
          name.toList ++ progress.names⟩, rest)

/-- Close the innermost group. -/
def closeParenthesis? (progress : Progress) : Option Progress :=
  match progress.outer with
  | [] => none
  | (mode, around) :: outer =>
      some { progress with
        mode, outer, inner := around.add (.item (progress.inner.height + 1)) }

/-- Read on from a character that counts. -/
def step? (progress : Progress) (c : Char) (rest : List Char) :
    Option (Progress × List Char) :=
  if c = '(' then progress.openParenthesis? rest
  else if c = ')' then progress.closeParenthesis?.map fun closed => (closed, rest)
  else if c = '|' then some ({ progress with inner := progress.inner.nextAlternative }, rest)
  else if c = '[' then
    (class? progress.mode rest).map fun (height, rest) => (progress.add (.item height), rest)
  else if c = '*' || c = '+' || c = '?' then
    progress.inner.repeatLast?.map fun inner =>
      ({ progress with inner }, if rest.head? = some '?' then rest.drop 1 else rest)
  else if c = '\x7b' then none
  else if c = '\\' then do
    let (escape, rest) ← escape? progress.mode rest
    progress.plain? (progress.mode.allows escape) rest
  else if c = '.' then progress.plain? progress.mode.wide rest
  else if c = '^' || c = '$' then progress.plain? true rest
  else progress.plain? progress.mode.allowsCharacter rest

/-- Whether a pattern may end here. -/
def isComplete (progress : Progress) : Bool :=
  progress.outer.isEmpty && decide (progress.inner.height ≤ mostLevels)

/-- Whether the rest of a pattern is well formed. -/
def isRest : Nat → Progress → List Char → Bool
  | 0, _, _ => false
  | fuel + 1, progress, chars =>
      match progress.mode.skip chars with
      | [] => progress.isComplete
      | c :: rest =>
          match progress.step? c rest with
          | some (next, rest) => isRest fuel next rest
          | none => false

end Progress

end StopView.Pattern

namespace StopView

/-- Whether a text is a pattern. -/
def isPattern (text : String) : Bool :=
  Pattern.Progress.isRest (text.length + 1) .initial text.toList

end StopView
