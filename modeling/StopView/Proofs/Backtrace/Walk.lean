import StopView.Backtrace

/-!
# Walks along frames

A walk goes from frame to frame as long as there is an answer and it may take another step.
`EndsWalk` says where it ends, without reference to how the end is found, and leaves no choice.
Nothing is assumed of the links: they may lead in circles, contradict each other or break.

Only answered links matter to a walk.  A broken one is therefore the same as the end of the
chain.
-/

namespace StopView

/-! ## Walks -/

section Walks

variable (step : FrameId → Except Failure (Option FrameId))

/-- So many answered steps lead from one frame to another. -/
inductive StepsTo : Nat → FrameId → FrameId → Prop
  | here (frame : FrameId) : StepsTo 0 frame frame
  | further {count : Nat} {frame next last : FrameId}
      (answered : step frame = .ok (some next)) (rest : StepsTo count next last) :
      StepsTo (count + 1) frame last

/-- A walk from a frame ends here: it has taken no more steps than it may, and if it has
taken fewer, then no step leads on. -/
structure FrameEdge.EndsWalk (limit : Nat) (start : FrameId) (edge : FrameEdge) : Prop where
  bounded : edge.steps ≤ limit
  reached : StepsTo step edge.steps start edge.frame
  stopped : edge.steps < limit → ∀ next, step edge.frame ≠ .ok (some next)

theorem value_walkFrom (limit steps : Nat) (frame : FrameId) :
    (walkFrom step limit steps frame).value =
      let edge := (walkEdge step limit frame).value
      ⟨edge.frame, steps + edge.steps⟩ := by
  induction limit generalizing steps frame with
  | zero => rfl
  | succ limit ih =>
      rw [walkEdge, walkFrom, walkFrom]
      cases step frame with
      | error cause => rfl
      | ok next? =>
          cases next? with
          | none => rfl
          | some next =>
              dsimp only
              rw [ih (steps + 1), ih (0 + 1)]
              simp only [FrameEdge.mk.injEq, true_and]
              omega

variable {step}

theorem value_walkEdge_of_ended {frame : FrameId}
    (ended : ∀ next, step frame ≠ .ok (some next)) (limit : Nat) :
    (walkEdge step limit frame).value = ⟨frame, 0⟩ := by
  cases limit with
  | zero => rfl
  | succ limit =>
      rw [walkEdge, walkFrom]
      split
      · rename_i next answered
        exact absurd answered (ended next)
      · rfl
      · rfl

theorem value_walkEdge_succ {frame next : FrameId} (answered : step frame = .ok (some next))
    (limit : Nat) :
    (walkEdge step (limit + 1) frame).value =
      let edge := (walkEdge step limit next).value
      ⟨edge.frame, edge.steps + 1⟩ := by
  rw [walkEdge, walkFrom, answered]
  dsimp only
  rw [value_walkFrom, Nat.zero_add, Nat.add_comm]

variable (step)

/-- A walk ends where it may. -/
theorem endsWalk_walkEdge (limit : Nat) (start : FrameId) :
    (walkEdge step limit start).value.EndsWalk step limit start := by
  induction limit generalizing start with
  | zero => exact ⟨Nat.le_refl 0, .here start, fun fewer => absurd fewer (Nat.not_lt_zero 0)⟩
  | succ limit ih =>
      by_cases leads : ∃ next, step start = .ok (some next)
      · obtain ⟨next, answered⟩ := leads
        have rest := ih next
        rw [value_walkEdge_succ answered]
        constructor
        · exact Nat.succ_le_succ rest.bounded
        · exact .further answered rest.reached
        · intro fewer
          exact rest.stopped (Nat.lt_of_succ_lt_succ fewer)
      · have ended : ∀ next, step start ≠ .ok (some next) := fun next answered =>
          leads ⟨next, answered⟩
        rw [value_walkEdge_of_ended ended]
        exact ⟨Nat.zero_le _, .here start, fun _ => ended⟩

variable {step}

/-- A walk ends nowhere else. -/
theorem FrameEdge.EndsWalk.eq_walkEdge {limit : Nat} {start : FrameId} {edge : FrameEdge}
    (ends : edge.EndsWalk step limit start) : edge = (walkEdge step limit start).value := by
  rcases edge with ⟨last, count⟩
  rcases ends with ⟨bounded, reached, stopped⟩
  dsimp only at bounded reached stopped
  induction reached generalizing limit with
  | here frame =>
      cases limit with
      | zero => rfl
      | succ limit => rw [value_walkEdge_of_ended (stopped (Nat.succ_pos limit))]
  | @further count frame next last answered rest ih =>
      cases limit with
      | zero => exact absurd bounded (Nat.not_succ_le_zero count)
      | succ limit =>
          have further := ih (Nat.le_of_succ_le_succ bounded) fun fewer =>
            stopped (Nat.succ_lt_succ fewer)
          rw [value_walkEdge_succ answered, ← further]

end Walks

/-! ## Broken links -/

/-- Answers of which some that failed are replaced by the end of the chain. -/
def FailuresEnded (answers ended : FrameId → Except Failure (Option FrameId)) : Prop :=
  ∀ frame, ended frame = answers frame ∨
    (∃ cause, answers frame = .error cause) ∧ ended frame = .ok none

section Ended

variable {answers ended : FrameId → Except Failure (Option FrameId)}
  (replaced : FailuresEnded answers ended)

include replaced

theorem FailuresEnded.leads_iff (frame next : FrameId) :
    ended frame = .ok (some next) ↔ answers frame = .ok (some next) := by
  rcases replaced frame with same | ⟨⟨cause, failed⟩, here⟩
  · rw [same]
  · rw [here, failed]
    simp

theorem StepsTo.of_failuresEnded {count : Nat} {start last : FrameId}
    (steps : StepsTo answers count start last) : StepsTo ended count start last := by
  induction steps with
  | here frame => exact .here frame
  | @further count frame next last answered rest ih =>
      exact .further ((replaced.leads_iff frame next).mpr answered) ih

/-- A walk takes no notice of whether a link is broken or missing. -/
theorem FailuresEnded.value_walkEdge (limit : Nat) (start : FrameId) :
    (walkEdge ended limit start).value = (walkEdge answers limit start).value := by
  have ends := endsWalk_walkEdge answers limit start
  have same : (walkEdge answers limit start).value.EndsWalk ended limit start := by
    constructor
    · exact ends.bounded
    · exact ends.reached.of_failuresEnded replaced
    · intro fewer next answered
      exact ends.stopped fewer next ((replaced.leads_iff _ next).mp answered)
  exact same.eq_walkEdge.symm

end Ended

end StopView
