import StopView.Chain
import StopView.Notice
import StopView.Settings

/-!
# Backtraces

A backtrace shows the frames around the selected one.  First the edges are found: a
number of steps towards the callers and the same number towards the callees, fewer
where the chain ends or breaks.  Then the frames are listed from the newest edge to
the oldest.  The listing takes no more steps than the search for the edges did, so
frames that refer to each other in a circle cannot keep it going.
-/

namespace StopView

/-- How many frames the backtrace section shows on each side. -/
def backtraceDepth : Nat := 10

/-- The last frame that a walk reached, and the steps it took. -/
structure FrameEdge where
  frame : FrameId
  steps : Nat
deriving Repr, DecidableEq

/-- Walk from a frame, after some steps, for at most `limit` further steps. -/
def walkFrom (step : FrameId → Except Failure (Option FrameId)) :
    Nat → Nat → FrameId → Noted FrameEdge
  | 0, steps, frame => pure ⟨frame, steps⟩
  | limit + 1, steps, frame =>
      match step frame with
      | .ok (some next) => walkFrom step limit (steps + 1) next
      | .ok none => pure ⟨frame, steps⟩
      | .error failure => ⟨⟨frame, steps⟩, [.frameWalkStopped steps failure]⟩

/-- A walk takes no more steps than it may. -/
theorem steps_walkFrom_le (step : FrameId → Except Failure (Option FrameId))
    (limit steps : Nat) (frame : FrameId) :
    (walkFrom step limit steps frame).value.steps ≤ steps + limit := by
  induction limit generalizing steps frame with
  | zero => simp [walkFrom]
  | succ limit ih =>
      rw [walkFrom]
      split
      · rename_i next _
        have further := ih (steps + 1) next
        omega
      · simp
      · simp

/-- Walk from a frame for at most `limit` steps. -/
def walkEdge (step : FrameId → Except Failure (Option FrameId)) (limit : Nat)
    (frame : FrameId) : Noted FrameEdge :=
  walkFrom step limit 0 frame

/-- A frame that the backtrace lists, and its program counter. -/
structure ListedFrame where
  frame : FrameId
  pc : Address
deriving Repr, DecidableEq

/-- List frames towards the callers, down to the oldest one, for at most `limit`
further steps.  The first one listed has the number `index`. -/
def listFrames (inspector : Inspector) (oldest : FrameId) (limit index : Nat)
    (frame : FrameId) : Noted (List ListedFrame) :=
  match inspector.framePc frame with
  | .error failure => ⟨[], [.backtraceStopped index failure]⟩
  | .ok pc =>
      if frame = oldest then
        pure [⟨frame, pc⟩]
      else
        match inspector.olderFrame frame with
        | .error failure => ⟨[⟨frame, pc⟩], [.backtraceStopped index failure]⟩
        | .ok none => pure [⟨frame, pc⟩]
        | .ok (some next) =>
            match limit with
            | 0 => pure [⟨frame, pc⟩]
            | limit + 1 => do
                let further ← listFrames inspector oldest limit (index + 1) next
                return ⟨frame, pc⟩ :: further

/-- A listing has no more frames than its steps and the first one. -/
theorem length_listFrames_le (inspector : Inspector) (oldest : FrameId) (limit index : Nat)
    (frame : FrameId) :
    (listFrames inspector oldest limit index frame).value.length ≤ limit + 1 := by
  induction limit generalizing index frame with
  | zero =>
      rw [listFrames]
      repeat' split
      all_goals simp_all
  | succ limit ih =>
      rw [listFrames]
      repeat' split
      all_goals simp_all

/-- The frames of a backtrace around a frame. -/
def framesAround (inspector : Inspector) (depth : Nat) (selected : FrameId) :
    Noted (List ListedFrame) := do
  let older ← walkEdge inspector.olderFrame depth selected
  let newer ← walkEdge inspector.newerFrame depth selected
  listFrames inspector older.frame (older.steps + newer.steps) 0 newer.frame

/-- The marker in front of the selected frame, or as many spaces. -/
def frameMarker (settings : Settings) (isSelected : Bool) : String :=
  if isSelected then settings.backtraceMarker else Text.blankLike settings.backtraceMarker

/-- The line of one frame. -/
def frameLine (inspector : Inspector) (settings : Settings) (palette : Palette)
    (selected : FrameId) (index : Nat) (listed : ListedFrame) : String :=
  let symbol :=
    match inspector.symbolAt listed.pc with
    | some symbol => " " ++ palette.paint .symbol symbol
    | none => ""
  " " ++ palette.paint .backtraceMarker (frameMarker settings (listed.frame = selected)) ++ " " ++
    palette.paint .frameLabel (settings.frameLabel ++ toString index) ++ " " ++
    palette.paint .frameAddress listed.pc.padded ++ symbol

/-- The lines of listed frames, numbered from zero. -/
def frameLines (inspector : Inspector) (settings : Settings) (palette : Palette)
    (selected : FrameId) (frames : List ListedFrame) : List String :=
  frames.mapIdx (frameLine inspector settings palette selected)

/-- The lines of the frames around the selected one. -/
def renderFrames (inspector : Inspector) (settings : Settings) (palette : Palette)
    (depth : Nat) : Noted (List String) :=
  match inspector.selectedFrame with
  | .error failure => ⟨[], [.noSelectedFrame failure]⟩
  | .ok selected => do
      let frames ← framesAround inspector depth selected
      return frameLines inspector settings palette selected frames

/-- The lines of a backtrace, with or without its heading. -/
def renderBacktrace (inspector : Inspector) (settings : Settings) (palette : Palette)
    (depth : Nat) (withBanner : Bool) : Noted (List String) := do
  let lines ← renderFrames inspector settings palette depth
  return (if withBanner then [palette.banner "backtrace"] else []) ++ lines

end StopView
