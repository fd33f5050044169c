import StopView.Path

/-!
# Destinations

Lines go to the primary stream or to a path.  A section either stays in the main
batch or has a destination of its own.  Two destinations are the same when they are
both the primary stream, or paths with the same components.
-/

namespace StopView

/-- Where lines are written. -/
inductive Destination where
  | primary
  | path (target : Path)
deriving Repr, DecidableEq

namespace Destination

/-- Read a destination setting. -/
def parse (value : String) : Destination :=
  let trimmed := Text.trim value
  if trimmed = "" ∨ trimmed = "stdout" ∨ trimmed = "primary" then .primary else .path ⟨trimmed⟩

/-- A destination as it is shown. -/
def text : Destination → String
  | .primary => "stdout"
  | .path target => target.text

/-- The components of a destination's path; the primary stream has none. -/
def place? : Destination → Option (List Component)
  | .primary => none
  | .path target => some target.components

/-- Whether two destinations are one. -/
def Same (left right : Destination) : Prop :=
  left.place? = right.place?

instance (left right : Destination) : Decidable (Same left right) :=
  inferInstanceAs (Decidable (left.place? = right.place?))

theorem Same.refl (destination : Destination) : Same destination destination :=
  rfl

theorem Same.symm {left right : Destination} (same : Same left right) : Same right left :=
  Eq.symm same

theorem Same.trans {first second third : Destination} (left : Same first second)
    (right : Same second third) : Same first third :=
  Eq.trans left right

/-- Whether a destination is the terminal with this path. -/
def isTerminal (destination : Destination) (terminal : Path) : Bool :=
  decide (Same destination (.path terminal))

end Destination

/-- Where a section's lines go. -/
inductive SectionOutput where
  | noSplit
  | split (destination : Destination)
deriving Repr, DecidableEq

/-- Read a section's output setting. -/
def SectionOutput.parse (value : String) : SectionOutput :=
  if Text.trim value = "nosplit" then .noSplit else .split (Destination.parse value)

end StopView
