import StopView.Proofs.Backtrace.Listing

/-!
# The window of a backtrace

When the links of the frames agree, a backtrace is a window of the chain that they make: the
selected frame, and on each side as many frames as the depth allows or the chain has.
-/

namespace StopView

namespace Inspector

/-- A chain of frames, numbered from the newest one on: no frame is in it twice, each is linked
to the next and back, nothing is found beyond its ends, and every program counter can be
read. -/
structure HasChain (inspector : Inspector) (last : Nat) (frame : Nat → FrameId)
    (pc : Nat → Address) : Prop where
  apart : ∀ place ≤ last, ∀ other ≤ last, frame place = frame other → place = other
  older : ∀ place < last, inspector.olderFrame (frame place) = .ok (some (frame (place + 1)))
  newer : ∀ place < last, inspector.newerFrame (frame (place + 1)) = .ok (some (frame place))
  oldestEnds : ∀ further, inspector.olderFrame (frame last) ≠ .ok (some further)
  newestEnds : ∀ further, inspector.newerFrame (frame 0) ≠ .ok (some further)
  readable : ∀ place ≤ last, inspector.framePc (frame place) = .ok (pc place)

variable {inspector : Inspector} {last : Nat} {frame : Nat → FrameId} {pc : Nat → Address}

namespace HasChain

variable (chain : inspector.HasChain last frame pc)

include chain

/-! ## The edges -/

theorem stepsTo_older {place count : Nat} (within : place + count ≤ last) :
    StepsTo inspector.olderFrame count (frame place) (frame (place + count)) := by
  induction count generalizing place with
  | zero => exact .here _
  | succ count ih =>
      have inner : place + 1 + count ≤ last := by omega
      have rest := ih inner
      rw [show place + 1 + count = place + (count + 1) by omega] at rest
      exact .further (chain.older place (by omega)) rest

theorem stepsTo_newer {place count : Nat} (within : place + count ≤ last) :
    StepsTo inspector.newerFrame count (frame (place + count)) (frame place) := by
  induction count with
  | zero => exact .here _
  | succ count ih => exact .further (chain.newer (place + count) (by omega)) (ih (by omega))

variable {position : Nat} (within : position ≤ last) (depth : Nat)

include within

/-- The older edge is as far away as the depth allows or the chain reaches. -/
theorem value_walkEdge_older :
    (walkEdge inspector.olderFrame depth (frame position)).value =
      ⟨frame (position + min depth (last - position)), min depth (last - position)⟩ := by
  have ends : FrameEdge.EndsWalk inspector.olderFrame depth (frame position)
      ⟨frame (position + min depth (last - position)), min depth (last - position)⟩ := by
    have inside : position + min depth (last - position) ≤ last := by omega
    constructor
    · exact Nat.min_le_left _ _
    · exact chain.stepsTo_older inside
    · intro fewer
      have there : position + min depth (last - position) = last := by
        dsimp only at fewer
        omega
      dsimp only
      rw [there]
      exact chain.oldestEnds
  exact ends.eq_walkEdge.symm

theorem value_walkEdge_newer :
    (walkEdge inspector.newerFrame depth (frame position)).value =
      ⟨frame (position - min depth position), min depth position⟩ := by
  have ends : FrameEdge.EndsWalk inspector.newerFrame depth (frame position)
      ⟨frame (position - min depth position), min depth position⟩ := by
    constructor
    · exact Nat.min_le_left _ _
    · have back : position - min depth position + min depth position = position := by omega
      have steps := chain.stepsTo_newer (back.trans_le within)
      rwa [back] at steps
    · intro fewer
      have there : position - min depth position = 0 := by
        dsimp only at fewer
        omega
      dsimp only
      rw [there]
      exact chain.newestEnds
  exact ends.eq_walkEdge.symm

omit within

/-! ## The frames between -/

theorem lists_range' {place count : Nat} (inside : place + count ≤ last) :
    inspector.Lists (frame place) (frame (place + count)) count
      ((List.range' place (count + 1)).map fun there => ⟨frame there, pc there⟩) := by
  induction count generalizing place with
  | zero => exact lists_singleton (chain.readable place inside) fun _ => .oldest rfl
  | succ count ih =>
      have inner : place + 1 + count ≤ last := by omega
      have rest := ih inner
      rw [show place + 1 + count = place + (count + 1) by omega] at rest
      have other : frame place ≠ frame (place + (count + 1)) := by
        intro same
        have equal := chain.apart place (by omega) _ inside same
        omega
      exact rest.cons (chain.readable place (by omega)) other (chain.older place (by omega))

include within

theorem value_framesAround :
    (framesAround inspector depth (frame position)).value =
      (List.range' (position - min depth position)
        (min depth position + min depth (last - position) + 1)).map fun place =>
          ⟨frame place, pc place⟩ := by
  have reached : position - min depth position +
      (min depth position + min depth (last - position)) =
        position + min depth (last - position) := by omega
  have inside : position + min depth (last - position) ≤ last := by omega
  have lists := chain.lists_range' (reached.trans_le inside)
  rw [reached] at lists
  rw [framesAround]
  dsimp only [Noted.value_bind]
  rw [chain.value_walkEdge_older within, chain.value_walkEdge_newer within,
    Nat.add_comm (min depth (last - position))]
  exact (lists.eq_listFrames 0).symm

/-- The lines of a backtrace are those of the window, with the marker in front of the selected
frame. -/
theorem markedLines_framesAround (settings : Settings) (palette : Palette) :
    inspector.markedLines settings palette (frame position)
        (framesAround inspector depth (frame position)).value =
      (List.range (min depth position + min depth (last - position) + 1)).map fun index =>
        " " ++ palette.paint .backtraceMarker
          (if index = min depth position then settings.backtraceMarker
            else Text.blankLike settings.backtraceMarker) ++
          inspector.frameTail settings palette index
            (pc (position - min depth position + index)) := by
  rw [markedLines, chain.value_framesAround within]
  apply List.ext_getElem
  · simp
  · intro index here there
    have short : index < min depth position + min depth (last - position) + 1 := by
      simpa using there
    -- Frames are told apart by their places, so the selected one has its number only.
    have selected : frame (position - min depth position + index) = frame position ↔
        index = min depth position := by
      constructor
      · intro same
        have equal := chain.apart _ (by omega) position within same
        omega
      · rintro rfl
        rw [show position - min depth position + min depth position = position by omega]
    simp only [List.getElem_mapIdx, List.getElem_map, List.getElem_range', List.getElem_range,
      Nat.one_mul, selected]

end HasChain

/-! ## The main result -/

/-- Around a frame of a chain a backtrace lists the frames of a window: as many newer and as
many older ones as the depth allows and the chain has, from the newest to the oldest.  Each
has one line, numbered from zero, with its own address and symbol; the marker is in front of
the selected frame, whose number is the count of the newer ones, and of no other. -/
theorem backtrace_of_chain_is_window (settings : Settings) (palette : Palette)
    (chain : inspector.HasChain last frame pc) {position : Nat} (within : position ≤ last)
    (selected : inspector.selectedFrame = .ok (frame position)) (depth : Nat)
    (withBanner : Bool) :
    let newer := min depth position
    let older := min depth (last - position)
    let heading := if withBanner then [palette.banner "backtrace"] else []
    (framesAround inspector depth (frame position)).value =
        (List.range' (position - newer) (newer + older + 1)).map (fun place =>
          ⟨frame place, pc place⟩) ∧
      (renderBacktrace inspector settings palette depth withBanner).value =
        heading ++ (List.range (newer + older + 1)).map fun index =>
          " " ++ palette.paint .backtraceMarker
            (if index = newer then settings.backtraceMarker
              else Text.blankLike settings.backtraceMarker) ++
            inspector.frameTail settings palette index (pc (position - newer + index)) := by
  intro newer older heading
  constructor
  · exact chain.value_framesAround within depth
  · calc
      (renderBacktrace inspector settings palette depth withBanner).value =
          heading ++ inspector.markedLines settings palette (frame position)
            (framesAround inspector depth (frame position)).value :=
        value_renderBacktrace_of_ok settings palette depth withBanner selected
      _ = _ := by rw [chain.markedLines_framesAround within depth]

/-- A program with five frames, of which the second newest is selected.  The last link to a
caller is broken. -/
def fiveFrameScript : Script :=
  { Script.blank with
    symbols := [(⟨0x12⟩, "main")]
    frames :=
      [(⟨0⟩, ⟨some ⟨0x10⟩, .frame ⟨1⟩, .chainEnd, none⟩),
        (⟨1⟩, ⟨some ⟨0x11⟩, .frame ⟨2⟩, .frame ⟨0⟩, none⟩),
        (⟨2⟩, ⟨some ⟨0x12⟩, .frame ⟨3⟩, .frame ⟨1⟩, none⟩),
        (⟨3⟩, ⟨some ⟨0x13⟩, .frame ⟨4⟩, .frame ⟨2⟩, none⟩),
        (⟨4⟩, ⟨some ⟨0x14⟩, .broken, .frame ⟨3⟩, none⟩)]
    selected := some ⟨1⟩ }

/-- With a depth of two there is one frame before the selected one, since the chain has no
more, and there are two after it. -/
theorem second_of_five_frames_has_three_around :
    let inspector := fiveFrameScript.inspector
    let settings := { Settings.initial with colour := false }
    let frame := fun place : Nat => FrameId.mk (UInt64.ofNat place)
    let pc := fun place : Nat => Address.mk (UInt64.ofNat (0x10 + place))
    inspector.HasChain 4 frame pc ∧ inspector.selectedFrame = .ok (frame 1) ∧
      (framesAround inspector 2 (frame 1)).value =
        [⟨frame 0, pc 0⟩, ⟨frame 1, pc 1⟩, ⟨frame 2, pc 2⟩, ⟨frame 3, pc 3⟩] ∧
      (renderBacktrace inspector settings ⟨false, 20⟩ 2 false).value =
        ["   f 0 0x0000000000000010", " ► f 1 0x0000000000000011",
          "   f 2 0x0000000000000012 main", "   f 3 0x0000000000000013"] := by
  intro inspector settings frame pc
  have chain : inspector.HasChain 4 frame pc := by
    constructor
    · decide
    · decide
    · decide
    · intro further
      exact nofun
    · intro further
      exact nofun
    · decide
  have within : 1 ≤ 4 := by omega
  have window := backtrace_of_chain_is_window settings ⟨false, 20⟩ chain within rfl 2 false
  constructor
  · exact chain
  constructor
  · rfl
  constructor
  · exact window.1
  · rw [window.2]
    decide +kernel

end Inspector

end StopView
