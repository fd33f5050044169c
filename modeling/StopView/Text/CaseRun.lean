/-!
# Runs of letters with one distance to their other case

A run covers every letter from its first to its last, or every other one, and
moves each by the distance between the first letter and the run's target.
-/

namespace StopView.Text

/-- Letters from `first` to `last` at distance `step`, the first of which is moved
to `target`. -/
structure CaseRun where
  first : Nat
  last : Nat
  step : Nat
  target : Nat
deriving Repr, DecidableEq

/-- Whether a run covers a code point. -/
def CaseRun.covers (run : CaseRun) (code : Nat) : Bool :=
  decide (run.first ≤ code) && decide (code ≤ run.last) && (code - run.first) % run.step == 0

/-- The code point that a covered code point is moved to. -/
def CaseRun.move (run : CaseRun) (code : Nat) : Nat :=
  run.target + (code - run.first)

/-- Move a character by the run that covers it; a character of no run stays. -/
def moveBy (runs : List CaseRun) (c : Char) : Char :=
  match runs.find? fun run => run.covers c.toNat with
  | some run => Char.ofNat (run.move c.toNat)
  | none => c

end StopView.Text
