/-!
# Sets of characters given by spans of code points

A class of characters is a list of inclusive spans of code points.  Membership is
decided by looking through the spans.
-/

namespace StopView.Text

/-- Whether a character's code point lies in one of the inclusive spans. -/
def inSpans (spans : List (Nat × Nat)) (c : Char) : Bool :=
  spans.any fun span => decide (span.1 ≤ c.toNat) && decide (c.toNat ≤ span.2)

theorem inSpans_eq_true_iff {spans : List (Nat × Nat)} {c : Char} :
    inSpans spans c = true ↔ ∃ span ∈ spans, span.1 ≤ c.toNat ∧ c.toNat ≤ span.2 := by
  simp [inSpans, List.any_eq_true]

end StopView.Text
