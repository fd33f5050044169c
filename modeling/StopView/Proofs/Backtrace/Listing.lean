import Mathlib.Data.List.Chain
import StopView.Inspector.Script
import StopView.Proofs.Backtrace.Walk

/-!
# What a backtrace lists

A listing starts at the newer edge and goes from caller to caller.  `Lists` says which frames
are in it, without reference to how they are found, and leaves no choice.  Nothing is assumed
of the links between frames.

Below the heading a backtrace has one line for each frame that is listed.  A frame whose caller
or callee cannot be found is listed as if the chain ended there.
-/

namespace StopView

namespace Inspector

/-! ## Listings -/

/-- Why no frame is listed after one. -/
inductive EndsAt (inspector : Inspector) (oldest frame : FrameId) : Prop
  | oldest (same : frame = oldest)
  | chainEnd (answered : inspector.olderFrame frame = .ok none)
  | unwindFailure (cause : Failure) (failed : inspector.olderFrame frame = .error cause)
  | unreadable (next : FrameId) (cause : Failure)
      (answered : inspector.olderFrame frame = .ok (some next))
      (failed : inspector.framePc next = .error cause)

/-- Frames that are listed from the newest one on, in at most so many steps.  Each is the
caller of the one before, none but the last is the oldest one, and there are fewer than the
steps allow only if there is a reason to end. -/
structure Lists (inspector : Inspector) (newest oldest : FrameId) (steps : Nat)
    (listed : List ListedFrame) : Prop where
  first : ∀ item, listed.head? = some item → item.frame = newest
  linked : listed.IsChain fun item next =>
    item.frame ≠ oldest ∧ inspector.olderFrame item.frame = .ok (some next.frame)
  readable : ∀ item ∈ listed, inspector.framePc item.frame = .ok item.pc
  bounded : listed.length ≤ steps + 1
  empty : listed = [] → ∃ cause, inspector.framePc newest = .error cause
  stopped : ∀ last, listed.getLast? = some last → listed.length ≤ steps →
    inspector.EndsAt oldest last.frame

variable {inspector : Inspector} {oldest frame next : FrameId} {pc : Address} {steps : Nat}
  {listed : List ListedFrame}

theorem lists_nil {cause : Failure} (failed : inspector.framePc frame = .error cause) :
    inspector.Lists frame oldest steps [] where
  first _ impossible := nomatch impossible
  linked := .nil
  readable _ impossible := nomatch impossible
  bounded := Nat.zero_le _
  empty _ := ⟨cause, failed⟩
  stopped _ impossible := nomatch impossible

theorem lists_singleton (read : inspector.framePc frame = .ok pc)
    (ends : 0 < steps → inspector.EndsAt oldest frame) :
    inspector.Lists frame oldest steps [⟨frame, pc⟩] where
  first _ here := by rw [← Option.some.inj here]
  linked := .singleton _
  readable _ here := by rw [List.mem_singleton.mp here]; exact read
  bounded := Nat.succ_le_succ (Nat.zero_le steps)
  empty impossible := nomatch impossible
  stopped _ here := by rw [← Option.some.inj here]; exact ends

theorem Lists.cons (rest : inspector.Lists next oldest steps listed)
    (read : inspector.framePc frame = .ok pc) (other : frame ≠ oldest)
    (answered : inspector.olderFrame frame = .ok (some next)) :
    inspector.Lists frame oldest (steps + 1) (⟨frame, pc⟩ :: listed) := by
  cases listed with
  | nil =>
      obtain ⟨cause, failed⟩ := rest.empty rfl
      exact lists_singleton read fun _ => .unreadable next cause answered failed
  | cons item more =>
      constructor
      · intro first here
        rw [← Option.some.inj here]
      · apply List.isChain_cons_cons.mpr
        rw [rest.first item rfl]
        exact ⟨⟨other, answered⟩, rest.linked⟩
      · intro some here
        rcases List.mem_cons.mp here with rfl | later
        · exact read
        · exact rest.readable some later
      · exact Nat.succ_le_succ rest.bounded
      · intro impossible
        cases impossible
      · intro last here short
        rw [List.getLast?_cons_cons] at here
        exact rest.stopped last here (Nat.le_of_succ_le_succ short)

theorem Lists.tail {item after : ListedFrame} {more : List ListedFrame}
    (lists : inspector.Lists frame oldest (steps + 1) (item :: after :: more)) :
    inspector.Lists after.frame oldest steps (after :: more) where
  first _ here := by rw [← Option.some.inj here]
  linked := (List.isChain_cons_cons.mp lists.linked).2
  readable some here := lists.readable some (List.mem_cons_of_mem item here)
  bounded := Nat.le_of_succ_le_succ lists.bounded
  empty impossible := nomatch impossible
  stopped last here short :=
    lists.stopped last (List.getLast?_cons_cons.trans here) (Nat.succ_le_succ short)

variable (inspector oldest)

/-- The listing of a backtrace is one. -/
theorem lists_listFrames (limit index : Nat) (frame : FrameId) :
    inspector.Lists frame oldest limit
      (listFrames inspector oldest limit index frame).value := by
  induction limit generalizing index frame with
  | zero =>
      rw [listFrames]
      have none : ¬0 < 0 := Nat.lt_irrefl 0
      split
      · rename_i cause failed
        exact lists_nil failed
      · rename_i pc read
        split
        · exact lists_singleton read fun some => absurd some none
        · split <;> exact lists_singleton read fun some => absurd some none
  | succ limit ih =>
      rw [listFrames]
      split
      · rename_i cause failed
        exact lists_nil failed
      · rename_i pc read
        split
        · rename_i same
          exact lists_singleton read fun _ => .oldest same
        · rename_i other
          split
          · rename_i cause failed
            exact lists_singleton read fun _ => .unwindFailure cause failed
          · rename_i answered
            exact lists_singleton read fun _ => .chainEnd answered
          · rename_i next answered
            exact (ih (index + 1) next).cons read other answered

variable {inspector oldest}

theorem EndsAt.value_listFrames (ends : inspector.EndsAt oldest frame)
    (read : inspector.framePc frame = .ok pc) (limit index : Nat) :
    (listFrames inspector oldest limit index frame).value = [⟨frame, pc⟩] := by
  rw [listFrames, read]
  dsimp only
  by_cases same : frame = oldest
  · rw [if_pos same]
    rfl
  · rw [if_neg same]
    cases ends with
    | oldest here => exact absurd here same
    | chainEnd answered => rw [answered]; rfl
    | unwindFailure cause failed => rw [failed]
    | unreadable next cause answered failed =>
        rw [answered]
        cases limit with
        | zero => rfl
        | succ limit =>
            dsimp only [Noted.value_bind, Noted.value_pure]
            rw [listFrames, failed]

theorem value_listFrames_zero (read : inspector.framePc frame = .ok pc) (index : Nat) :
    (listFrames inspector oldest 0 index frame).value = [⟨frame, pc⟩] := by
  rw [listFrames, read]
  dsimp only
  split
  · rfl
  · split <;> rfl

theorem value_listFrames_succ (read : inspector.framePc frame = .ok pc) (other : frame ≠ oldest)
    (answered : inspector.olderFrame frame = .ok (some next)) (limit index : Nat) :
    (listFrames inspector oldest (limit + 1) index frame).value =
      ⟨frame, pc⟩ :: (listFrames inspector oldest limit (index + 1) next).value := by
  rw [listFrames, read]
  dsimp only
  rw [if_neg other, answered]
  rfl

/-- There is no other listing than the one of a backtrace. -/
theorem Lists.eq_listFrames {limit : Nat} (lists : inspector.Lists frame oldest limit listed)
    (index : Nat) : listed = (listFrames inspector oldest limit index frame).value := by
  induction listed generalizing limit index frame with
  | nil =>
      obtain ⟨cause, failed⟩ := lists.empty rfl
      rw [listFrames, failed]
  | cons item more ih =>
      obtain rfl : item.frame = frame := lists.first item rfl
      have read := lists.readable item List.mem_cons_self
      cases more with
      | nil =>
          cases limit with
          | zero => rw [value_listFrames_zero read]
          | succ limit =>
              have ends := lists.stopped item rfl (Nat.succ_le_succ (Nat.zero_le limit))
              rw [ends.value_listFrames read]
      | cons after more =>
          obtain ⟨⟨other, answered⟩, _⟩ := List.isChain_cons_cons.mp lists.linked
          cases limit with
          | zero =>
              have short := Nat.le_of_succ_le_succ lists.bounded
              exact absurd short (Nat.not_succ_le_zero _)
          | succ limit =>
              rw [value_listFrames_succ read other answered, ← ih lists.tail]

/-! ## Broken links -/

section Ended

variable (inspector : Inspector) {older newer : FrameId → Except Failure (Option FrameId)}

/-- A listing still has its reason to end when a broken link is taken away. -/
theorem EndsAt.of_failuresEnded {inspector : Inspector} {oldest frame : FrameId}
    (ends : inspector.EndsAt oldest frame) (replaced : FailuresEnded inspector.olderFrame older) :
    { inspector with olderFrame := older, newerFrame := newer }.EndsAt oldest frame := by
  rcases replaced frame with same | ⟨_, here⟩
  · cases ends with
    | oldest here => exact .oldest here
    | chainEnd answered => exact .chainEnd (same.trans answered)
    | unwindFailure cause failed => exact .unwindFailure cause (same.trans failed)
    | unreadable next cause answered failed =>
        exact .unreadable next cause (same.trans answered) failed
  · exact .chainEnd here

theorem value_listFrames_of_failuresEnded (replaced : FailuresEnded inspector.olderFrame older)
    (oldest : FrameId) (limit index : Nat) (frame : FrameId) :
    (listFrames { inspector with olderFrame := older, newerFrame := newer } oldest limit index
        frame).value =
      (listFrames inspector oldest limit index frame).value := by
  have lists := inspector.lists_listFrames oldest limit index frame
  have same : { inspector with olderFrame := older, newerFrame := newer }.Lists frame oldest limit
      (listFrames inspector oldest limit index frame).value := by
    constructor
    · exact lists.first
    · apply lists.linked.imp
      intro item next linked
      exact ⟨linked.1, (replaced.leads_iff item.frame next.frame).mpr linked.2⟩
    · exact lists.readable
    · exact lists.bounded
    · exact lists.empty
    · intro last here short
      exact (lists.stopped last here short).of_failuresEnded replaced
  exact (same.eq_listFrames index).symm

end Ended

/-! ## Lines -/

variable (inspector : Inspector) (settings : Settings) (palette : Palette) (depth : Nat)
  (withBanner : Bool)

/-- What stands behind the marker in the line of a frame: its number in the backtrace, its
address and its symbol, if there is one. -/
def frameTail (index : Nat) (pc : Address) : String :=
  " " ++ palette.paint .frameLabel (settings.frameLabel ++ toString index) ++ " " ++
    palette.paint .frameAddress pc.padded ++
    match inspector.symbolAt pc with
    | some symbol => " " ++ palette.paint .symbol symbol
    | none => ""

/-- The lines of some frames, numbered from zero.  The marker is in front of those that are
selected, and as many spaces are in front of the others. -/
def markedLines (selected : FrameId) (listed : List ListedFrame) : List String :=
  listed.mapIdx fun index item =>
    " " ++ palette.paint .backtraceMarker
      (if item.frame = selected then settings.backtraceMarker
        else Text.blankLike settings.backtraceMarker) ++
      inspector.frameTail settings palette index item.pc

theorem frameLines_eq_markedLines (selected : FrameId) (listed : List ListedFrame) :
    frameLines inspector settings palette selected listed =
      inspector.markedLines settings palette selected listed := by
  rw [frameLines, markedLines]
  congr 1
  funext index item
  simp only [frameLine, frameMarker, frameTail, decide_eq_true_eq]
  cases inspector.symbolAt item.pc <;> simp only [String.append_assoc]

/-- The heading of a backtrace, if it has one. -/
def backtraceHeading : List String :=
  if withBanner then [palette.banner "backtrace"] else []

variable {inspector}

theorem value_renderBacktrace_of_error {cause : Failure}
    (failed : inspector.selectedFrame = .error cause) :
    (renderBacktrace inspector settings palette depth withBanner).value =
      backtraceHeading palette withBanner := by
  rw [renderBacktrace, renderFrames, failed]
  exact List.append_nil _

theorem value_renderBacktrace_of_ok {selected : FrameId}
    (answered : inspector.selectedFrame = .ok selected) :
    (renderBacktrace inspector settings palette depth withBanner).value =
      backtraceHeading palette withBanner ++
        inspector.markedLines settings palette selected
          (framesAround inspector depth selected).value := by
  rw [renderBacktrace, renderFrames, answered, ← frameLines_eq_markedLines]
  rfl

variable (inspector)

/-- A backtrace takes no notice of whether a link is broken or missing. -/
theorem value_renderBacktrace_of_failuresEnded
    {olderFrame newerFrame : FrameId → Except Failure (Option FrameId)}
    (olderEnded : FailuresEnded inspector.olderFrame olderFrame)
    (newerEnded : FailuresEnded inspector.newerFrame newerFrame) :
    (renderBacktrace { inspector with olderFrame, newerFrame } settings palette depth
        withBanner).value =
      (renderBacktrace inspector settings palette depth withBanner).value := by
  let ended : Inspector := { inspector with olderFrame, newerFrame }
  have around : ∀ selected, (framesAround ended depth selected).value =
      (framesAround inspector depth selected).value := by
    intro selected
    simp only [framesAround, Noted.value_bind, ended, olderEnded.value_walkEdge,
      newerEnded.value_walkEdge]
    exact inspector.value_listFrames_of_failuresEnded olderEnded _ _ _ _
  have lines : ∀ answer, inspector.selectedFrame = answer →
      (renderBacktrace ended settings palette depth withBanner).value =
        (renderBacktrace inspector settings palette depth withBanner).value := by
    intro answer answered
    have same : ended.selectedFrame = answer := answered
    cases answer with
    | error cause =>
        rw [value_renderBacktrace_of_error settings palette depth withBanner same,
          value_renderBacktrace_of_error settings palette depth withBanner answered]
    | ok selected =>
        rw [value_renderBacktrace_of_ok settings palette depth withBanner same,
          value_renderBacktrace_of_ok settings palette depth withBanner answered, around]
        rfl
  exact lines inspector.selectedFrame rfl

/-! ## The main result -/

/-- A backtrace without a selected frame is its heading.  With one there are two edges, where
the walks to the callers and to the callees end, and below the heading is a line for each frame
that is listed from the newer edge on: each the caller of the one before, none but the last the
older edge, and no more of them than both walks took steps, so at most as many as the depth
allows on each side and the selected frame.  There are fewer only where the older edge is
reached, the chain ends or breaks, or a program counter cannot be read.  The marker is in front
of the selected frame and of no other.  This leaves no choice of edges and frames, and a broken
link makes no difference to the end of the chain. -/
theorem backtrace_follows_callers_from_newer_edge :
    let lines := fun asked : Inspector =>
      (renderBacktrace asked settings palette depth withBanner).value
    let heading := if withBanner then [palette.banner "backtrace"] else []
    (∀ cause, inspector.selectedFrame = .error cause → lines inspector = heading) ∧
    (∀ selected, inspector.selectedFrame = .ok selected →
      ∃ (older newer : FrameEdge) (listed : List ListedFrame),
        older.EndsWalk inspector.olderFrame depth selected ∧
        newer.EndsWalk inspector.newerFrame depth selected ∧
        inspector.Lists newer.frame older.frame (older.steps + newer.steps) listed ∧
        listed.length ≤ 2 * depth + 1 ∧
        lines inspector = heading ++ inspector.markedLines settings palette selected listed ∧
        (∀ edge : FrameEdge, edge.EndsWalk inspector.olderFrame depth selected → edge = older) ∧
        (∀ edge : FrameEdge, edge.EndsWalk inspector.newerFrame depth selected → edge = newer) ∧
        ∀ others, inspector.Lists newer.frame older.frame (older.steps + newer.steps) others →
          others = listed) ∧
    ∀ olderFrame newerFrame, FailuresEnded inspector.olderFrame olderFrame →
      FailuresEnded inspector.newerFrame newerFrame →
        lines { inspector with olderFrame, newerFrame } = lines inspector := by
  intro lines heading
  constructor
  · intro cause failed
    exact value_renderBacktrace_of_error settings palette depth withBanner failed
  constructor
  · intro selected answered
    let older := (walkEdge inspector.olderFrame depth selected).value
    let newer := (walkEdge inspector.newerFrame depth selected).value
    let listed := (framesAround inspector depth selected).value
    have olderEnds : older.EndsWalk inspector.olderFrame depth selected :=
      endsWalk_walkEdge inspector.olderFrame depth selected
    have newerEnds : newer.EndsWalk inspector.newerFrame depth selected :=
      endsWalk_walkEdge inspector.newerFrame depth selected
    have lists : inspector.Lists newer.frame older.frame (older.steps + newer.steps) listed :=
      inspector.lists_listFrames older.frame (older.steps + newer.steps) 0 newer.frame
    have short : listed.length ≤ 2 * depth + 1 := by
      have bounded := lists.bounded
      have olderBounded := olderEnds.bounded
      have newerBounded := newerEnds.bounded
      omega
    exact ⟨older, newer, listed, olderEnds, newerEnds, lists, short,
      value_renderBacktrace_of_ok settings palette depth withBanner answered,
      fun _ ends => ends.eq_walkEdge, fun _ ends => ends.eq_walkEdge,
      fun _ others => others.eq_listFrames 0⟩
  · intro olderFrame newerFrame olderEnded newerEnded
    exact inspector.value_renderBacktrace_of_failuresEnded settings palette depth withBanner
      olderEnded newerEnded

/-- A program whose frames contradict each other: the callees of the selected frame lead into
a circle of other frames that never comes back, and its only caller has a broken link. -/
def circleScript : Script :=
  { Script.blank with
    symbols := [(⟨0x60⟩, "main")]
    frames :=
      [(⟨1⟩, ⟨some ⟨0x10⟩, .frame ⟨2⟩, .frame ⟨5⟩, none⟩),
        (⟨2⟩, ⟨some ⟨0x20⟩, .broken, .frame ⟨1⟩, none⟩),
        (⟨5⟩, ⟨some ⟨0x50⟩, .frame ⟨6⟩, .frame ⟨5⟩, none⟩),
        (⟨6⟩, ⟨some ⟨0x60⟩, .frame ⟨7⟩, .broken, none⟩),
        (⟨7⟩, ⟨some ⟨0x70⟩, .frame ⟨5⟩, .chainEnd, none⟩)]
    selected := some ⟨1⟩ }

/-- One step to the callers and two to the callees leave three for the circle, in which one
frame is listed twice and the selected one not at all, whether the broken link is there or
not. -/
theorem circle_is_listed_for_as_many_steps :
    let inspector := circleScript.inspector
    let settings := { Settings.initial with colour := false }
    let olderFrame := fun frame =>
      if frame = ⟨2⟩ then .ok none else inspector.olderFrame frame
    let newerFrame := inspector.newerFrame
    let lines := fun asked => (renderBacktrace asked settings ⟨false, 20⟩ 2 true).value
    inspector.olderFrame ⟨2⟩ = .error (.backend "unwind failed") ∧
      lines { inspector with olderFrame, newerFrame } = lines inspector ∧
      lines inspector =
        ["───[ BACKTRACE ]────", "   f 0 0x0000000000000050", "   f 1 0x0000000000000060 main",
          "   f 2 0x0000000000000070", "   f 3 0x0000000000000050"] := by
  intro inspector settings olderFrame newerFrame lines
  have broken : inspector.olderFrame ⟨2⟩ = .error (.backend "unwind failed") := rfl
  have olderEnded : FailuresEnded inspector.olderFrame olderFrame := by
    intro frame
    by_cases here : frame = ⟨2⟩
    · rw [here]
      exact .inr ⟨⟨_, broken⟩, rfl⟩
    · exact .inl (if_neg here)
  have newerEnded : FailuresEnded inspector.newerFrame newerFrame := fun _ => .inl rfl
  have follows := inspector.backtrace_follows_callers_from_newer_edge settings ⟨false, 20⟩ 2 true
  constructor
  · exact broken
  constructor
  · exact follows.2.2 olderFrame newerFrame olderEnded newerEnded
  · decide +kernel

end Inspector

end StopView
