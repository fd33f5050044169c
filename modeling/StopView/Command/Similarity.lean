/-!
# Similar words

The likeness of two words is a number between zero and one.  Two characters match when
they are equal and not too far apart; the likeness is the mean of three shares: how
much of each word matches, and how many of the matching characters are in the same
order.

The number is kept as a fraction, so that comparing it is exact.
-/

namespace StopView.Command

/-- Find the first free place in a range that holds a character, and take it. -/
def takeMatch (c : Char) (low high : Nat) : Nat → List (Char × Bool) → Option (List (Char × Bool))
  | _, [] => none
  | place, (d, taken) :: rest =>
      if c = d && !taken && low ≤ place && place ≤ high then
        some ((d, true) :: rest)
      else
        (takeMatch c low high (place + 1) rest).map ((d, taken) :: ·)

/-- The characters of the first word that match, and the second word with the places
that are taken. -/
def matchFrom (reach : Nat) : Nat → List Char → List (Char × Bool) → List Char × List (Char × Bool)
  | _, [], marked => ([], marked)
  | place, c :: rest, marked =>
      match takeMatch c (place - reach) (place + reach) 0 marked with
      | some marked =>
          let (found, marked) := matchFrom reach (place + 1) rest marked
          (c :: found, marked)
      | none => matchFrom reach (place + 1) rest marked

/-- How far apart matching characters may be. -/
def reachOf (left right : List Char) : Nat :=
  max left.length right.length / 2 - 1

/-- A fraction of natural numbers. -/
structure Likeness where
  numerator : Nat
  denominator : Nat
deriving Repr, DecidableEq

/-- Whether one fraction is less than another. -/
def Likeness.less (left right : Likeness) : Bool :=
  left.numerator * right.denominator < right.numerator * left.denominator

/-- The likeness of two words. -/
def likeness (left right : List Char) : Likeness :=
  if left.isEmpty && right.isEmpty then
    ⟨1, 1⟩
  else if left.isEmpty || right.isEmpty then
    ⟨0, 1⟩
  else
    let (found, marked) :=
      matchFrom (reachOf left right) 0 left (right.map fun c => (c, false))
    let counterparts := (marked.filter Prod.snd).map Prod.fst
    let common := found.length
    if common = 0 then
      ⟨0, 1⟩
    else
      let moved := ((found.zip counterparts).filter fun pair => pair.1 != pair.2).length / 2
      ⟨common * common * (left.length + right.length) +
          (common - moved) * left.length * right.length,
        3 * common * left.length * right.length⟩

/-- How alike words must at least be for one to be suggested for the other. -/
def suggestionBound : Likeness :=
  ⟨7, 10⟩

/-- Put a word behind those that are at most as like. -/
def insertByLikeness (item : Likeness × String) :
    List (Likeness × String) → List (Likeness × String)
  | [] => [item]
  | other :: rest =>
      if item.1.less other.1 then item :: other :: rest
      else other :: insertByLikeness item rest

/-- The candidates that are like a word, the most alike last. -/
def suggestions (word : String) (candidates : List String) : List String :=
  let scored :=
    candidates.map fun candidate => (likeness word.toList candidate.toList, candidate)
  let close := scored.filter fun item => !item.1.less suggestionBound
  (close.foldl (fun sorted item => insertByLikeness item sorted) []).map Prod.snd

end StopView.Command
