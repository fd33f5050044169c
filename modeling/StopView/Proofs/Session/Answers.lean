import StopView.Proofs.Register.Lines
import StopView.Proofs.Session.Isolation

/-!
# Answers that stay in their section

Most of what an inspector can be asked is asked for one section only.  Whatever it answers
there, and whether it answers at all, every other section has the same lines, the same
destinations are attempted, and the session is the same afterwards, apart from the files
that are kept where the source location is concerned.
-/

namespace StopView

/-- The groups of questions that are asked for one section only. -/
inductive AnswerGroup where
  | instructions
  | arguments
  | stackWords
  | pseudocode
  | frames
  | memory
  | locations
deriving Repr, DecidableEq

/-- The section that a group of questions is asked for. -/
def AnswerGroup.part : AnswerGroup → Section
  | .instructions => .disasm
  | .arguments => .args
  | .stackWords => .stack
  | .pseudocode => .code
  | .frames => .backtrace
  | .memory => .registers
  | .locations => .code

namespace Inspector

/-- An inspector that gives another one's answers to a group of questions, and its own
answers to all others. -/
def answeringAs (inspector other : Inspector) : AnswerGroup → Inspector
  | .instructions => { inspector with disassemble := other.disassemble }
  | .arguments => { inspector with callArguments := other.callArguments }
  | .stackWords => { inspector with stackWindow := other.stackWindow }
  | .pseudocode => { inspector with decompiler := other.decompiler }
  | .frames =>
      { inspector with
        framePc := other.framePc
        olderFrame := other.olderFrame
        newerFrame := other.newerFrame }
  | .memory => { inspector with readWord := other.readWord }
  | .locations => { inspector with sourceLocation := other.sourceLocation }

variable (inspector other : Inspector) (group : AnswerGroup)

theorem snapshot_answeringAs :
    (inspector.answeringAs other group).snapshot = inspector.snapshot := by
  cases group <;> rfl

theorem recordAll_answeringAs (record : LifecycleRecord) (palette : Palette)
    (events : List LifecycleEvent) :
    record.recordAll (inspector.answeringAs other group) palette events =
      record.recordAll inspector palette events := by
  have one : ∀ (record : LifecycleRecord) (event : LifecycleEvent),
      record.record (inspector.answeringAs other group) palette event =
        record.record inspector palette event := by
    intro record event
    cases event with
    | continued => rfl
    | exited code => cases code <;> rfl
    | stopped kind => cases kind <;> cases group <;> rfl
  induction events generalizing record with
  | nil => rfl
  | cons event rest ih =>
      simp only [LifecycleRecord.recordAll, one, ih]

theorem listFrames_congr {left right : Inspector} (pc : left.framePc = right.framePc)
    (older : left.olderFrame = right.olderFrame) (oldest : FrameId) (limit index : Nat)
    (frame : FrameId) :
    listFrames left oldest limit index frame = listFrames right oldest limit index frame := by
  induction limit generalizing index frame with
  | zero => rw [listFrames, listFrames, pc, older]
  | succ limit ih =>
      rw [listFrames, listFrames, pc, older]
      simp only [ih]

theorem renderBacktrace_congr {left right : Inspector}
    (selected : left.selectedFrame = right.selectedFrame) (pc : left.framePc = right.framePc)
    (older : left.olderFrame = right.olderFrame) (newer : left.newerFrame = right.newerFrame)
    (symbol : left.rawSymbol = right.rawSymbol) (settings : Settings) (palette : Palette)
    (depth : Nat) (withBanner : Bool) :
    renderBacktrace left settings palette depth withBanner =
      renderBacktrace right settings palette depth withBanner := by
  have around : framesAround left depth = framesAround right depth := by
    funext frame
    rw [framesAround, framesAround, older, newer]
    simp only [listFrames_congr pc older]
  have shown : frameLine left settings palette = frameLine right settings palette := by
    funext frame index listed
    rw [frameLine, frameLine, symbolAt, symbolAt, symbol]
  have lines : frameLines left settings palette = frameLines right settings palette := by
    funext frame frames
    rw [frameLines, frameLines, shown]
  rw [renderBacktrace, renderBacktrace, renderFrames, renderFrames, selected, around, lines]

end Inspector

namespace Session

variable (session : Session) (inspector other : Inspector) (group : AnswerGroup)

theorem pollEvents_answeringAs :
    session.pollEvents (inspector.answeringAs other group) = session.pollEvents inspector := by
  simp only [pollEvents, recordEvents, inspector.recordAll_answeringAs other group]

/-- Every other section has the same lines. -/
theorem linesAlone_answeringAs {part : Section} (apart : part ≠ group.part)
    (files : FileSystem) :
    session.linesAlone (inspector.answeringAs other group) files part =
      session.linesAlone inspector files part := by
  rw [linesAlone, linesAlone, pollEvents_answeringAs]
  cases part with
  | registers => cases group <;> first | rfl | exact absurd rfl apart
  | disasm => cases group <;> first | rfl | exact absurd rfl apart
  | args => cases group <;> first | rfl | exact absurd rfl apart
  | code => cases group <;> first | rfl | exact absurd rfl apart
  | stack => cases group <;> first | rfl | exact absurd rfl apart
  | backtrace =>
      have same : ∀ settings palette,
          renderBacktrace (inspector.answeringAs other group) settings palette backtraceDepth
              true =
            renderBacktrace inspector settings palette backtraceDepth true := by
        intro settings palette
        apply Inspector.renderBacktrace_congr <;>
          cases group <;> first | rfl | exact absurd rfl apart
      simp only [Scene.block, Scene.plainBlock, scene, same]

theorem linesOf_rendered_of_not_named {files : FileSystem} {tokens : List String}
    {part : Section} (absent : part ∉ namedSections session.settings tokens) :
    linesOf (session.rendered inspector files tokens) part = [] := by
  have missing : (session.rendered inspector files tokens).find?
      (fun item => item.part = part) = none := by
    apply List.find?_eq_none.mpr
    intro item listed here
    apply absent
    apply mem_renderingOrder_iff.mp
    rw [← session.map_part_rendered inspector files tokens, ← of_decide_eq_true here]
    exact List.mem_map_of_mem listed
  rw [linesOf, missing]
  rfl

/-- Every other section of a view has the same lines. -/
theorem linesOf_rendered_answeringAs {part : Section} (apart : part ≠ group.part)
    (files : FileSystem) (tokens : List String) :
    linesOf (session.rendered (inspector.answeringAs other group) files tokens) part =
      linesOf (session.rendered inspector files tokens) part := by
  by_cases named : part ∈ namedSections session.settings tokens
  · rw [session.linesOf_rendered _ named, session.linesOf_rendered _ named,
      session.linesAlone_answeringAs inspector other group apart]
  · rw [session.linesOf_rendered_of_not_named _ named,
      session.linesOf_rendered_of_not_named _ named]

theorem destinations_compose (files : FileSystem) (terminal : Option Path)
    (tokens : List String) :
    (session.compose inspector files terminal tokens).value.result.map Batch.destination =
      session.settings.output ::
        (session.settings.sectionOutputs.ownShares terminal
          (requestedSections session.settings tokens).value).map Share.destination := by
  rw [result_compose, viewBatches, List.map_cons, List.map_map]
  rfl

/-- Nothing but the source location decides what is remembered. -/
theorem session_refresh_answeringAs (apart : group ≠ .locations) (world : World)
    (tokens : List String) :
    (session.refresh (inspector.answeringAs other group) world tokens).value.session =
      (session.refresh inspector world tokens).value.session := by
  have sources : (session.scene (inspector.answeringAs other group) world.files).sourcesAfter
      session.memory.sources =
        (session.scene inspector world.files).sourcesAfter session.memory.sources := by
    cases group <;> first | rfl | exact absurd rfl apart
  have memory : (session.refresh (inspector.answeringAs other group) world
      tokens).value.session.memory =
        (session.refresh inspector world tokens).value.session.memory := by
    rw [memory_refresh, memory_refresh, inspector.snapshot_answeringAs, sources]
  have remembered : ∀ asked : Inspector,
      (session.refresh asked world tokens).value.session =
        { (session.pollEvents asked).value.session with
          memory := (session.refresh asked world tokens).value.session.memory } := fun _ => rfl
  rw [remembered, remembered inspector, memory, pollEvents_answeringAs]

/-- A question for a file adds at most this file to those that are kept. -/
theorem exists_files_lines (cache : SourceCache) (files : FileSystem) (highlighter : Highlighter)
    (path : Path) (highlight : Bool) :
    ∃ added, added.length ≤ 1 ∧
      (cache.lines files highlighter path highlight).value.cache.files = cache.files ++ added := by
  rw [SourceCache.lines]
  split
  · exact ⟨[], Nat.zero_le 1, (List.append_nil _).symm⟩
  · split
    · exact ⟨[], Nat.zero_le 1, (List.append_nil _).symm⟩
    · exact ⟨[_], Nat.le_refl 1, rfl⟩

/-- A view adds at most one file to those that are kept. -/
theorem exists_files_refresh (world : World) (tokens : List String) :
    ∃ added, added.length ≤ 1 ∧
      (session.refresh inspector world tokens).value.session.memory.sources.files =
        session.memory.sources.files ++ added := by
  rw [memory_refresh]
  dsimp only
  split
  · rw [Scene.sourcesAfter, Scene.sourceWindow]
    split
    · exact ⟨[], Nat.zero_le 1, (List.append_nil _).symm⟩
    · rw [Noted.value_bind]
      split
      · exact exists_files_lines _ _ _ _ _
      · exact exists_files_lines _ _ _ _ _
  · exact ⟨[], Nat.zero_le 1, (List.append_nil _).symm⟩

/-- Two inspectors that differ in one group of answers, each in its own way and for each
question in its own way: the same destinations are attempted in the same order, every section
but the one of this group has the same lines, and the session has the same snapshot and the
same record afterwards.  Only the place in the source text decides which files are kept, and
a view keeps at most one more of them.  What memory holds shows in nothing but the chains
behind the values of the registers. -/
theorem refresh_keeps_answers_in_their_section (world : World) (tokens : List String) :
    let varied := inspector.answeringAs other group
    let clear := session.settings.clearScreen
    let batches := fun asked : Inspector =>
      (session.compose asked world.files world.terminal tokens).value.result
    let turn := fun asked : Inspector => (session.refresh asked world tokens).value
    let lines := fun asked : Inspector =>
      linesOf (session.rendered asked world.files tokens)
    (∀ asked,
      (turn asked).result.report.AccountsFor (world.attempted clear (batches asked))) ∧
    (world.attempted clear (batches varied)).map Attempt.destination =
      (world.attempted clear (batches inspector)).map Attempt.destination ∧
    (∀ part, part ≠ group.part → lines varied part = lines inspector part) ∧
    (turn varied).session.memory.snapshot = (turn inspector).session.memory.snapshot ∧
    (turn varied).session.lifecycle = (turn inspector).session.lifecycle ∧
    (group ≠ .locations → (turn varied).session = (turn inspector).session) ∧
    (∀ asked,
      ∃ added, added.length ≤ 1 ∧
        (turn asked).session.memory.sources.files = session.memory.sources.files ++ added) ∧
    (group = .memory → .registers ∈ namedSections session.settings tokens →
      ∀ asked, asked = inspector ∨ asked = varied →
        lines asked .registers =
          session.palette.banner "registers" ::
            (inspector.shownRegisters session.settings none).map fun item =>
              inspector.registerHead session.settings session.palette session.memory.snapshot
                  item ++
                asked.registerTail session.palette item) := by
  intro varied clear batches turn lines
  have attempted : ∀ asked : Inspector,
      (world.attempted clear (batches asked)).map Attempt.destination =
        (batches asked).map Batch.destination := by
    intro asked
    calc
      (world.attempted clear (batches asked)).map Attempt.destination =
          ((world.attempted clear (batches asked)).map Attempt.batch).map Batch.destination := by
        rw [List.map_map]
        rfl
      _ = (batches asked).map Batch.destination := by
        rw [World.map_batch_attempted]
  constructor
  · intro asked
    exact (session.accountsFor_refresh asked world tokens).1
  constructor
  · rw [attempted, attempted, session.destinations_compose, session.destinations_compose]
  constructor
  · intro part apart
    exact session.linesOf_rendered_answeringAs inspector other group apart world.files tokens
  constructor
  · simp only [turn, memory_refresh, varied, inspector.snapshot_answeringAs]
  constructor
  · exact congrArg (fun polled => polled.value.session.lifecycle)
      (session.pollEvents_answeringAs inspector other group)
  constructor
  · intro apart
    exact session.session_refresh_answeringAs inspector other group apart world tokens
  constructor
  · intro asked
    exact session.exists_files_refresh asked world tokens
  · rintro rfl named asked (rfl | rfl)
    · rw [show lines asked .registers = _ from session.linesOf_rendered_registers asked named,
        asked.value_renderRegisters]
    · rw [show lines varied .registers = _ from session.linesOf_rendered_registers varied named,
        varied.value_renderRegisters]
      rfl

end Session

end StopView
