import StopView.Session

/-!
# What is noticed before deliveries

Failed deliveries are noticed by deliveries and by nothing else.  All that a view notices
until its batches are put together is about the inspected program, the request and the
events; a failed answer of the inspector among it is not taken for a failed delivery.
-/

namespace StopView

namespace Notice

/-- The cause, if a notice is about a failed delivery. -/
def deliveryFailure? : Notice → Option Failure
  | .deliveryFailed cause => some cause
  | _ => none

/-- The letter, if a notice is about a letter without a section. -/
def unknownLetter? : Notice → Option Char
  | .sectionUnknown letter => some letter
  | _ => none

/-- A notice is about the inspected program: about an answer that is missing, or about a source
file. -/
def IsAboutProgram : Notice → Prop
  | .registerUnknown _ | .registerUnreadable _ | .disassemblyUnavailable _
  | .argumentsUnavailable _ | .stackUnavailable _ | .decompilerFailed .. | .noSelectedFrame _
  | .backtraceStopped .. | .frameWalkStopped .. | .sourceRead | .sourceUnavailable .. => True
  | _ => False

theorem IsAboutProgram.deliveryFailure? {notice : Notice} (about : notice.IsAboutProgram) :
    notice.deliveryFailure? = none := by
  cases notice with
  | deliveryFailed cause => exact about.elim
  | _ => rfl

theorem IsAboutProgram.unknownLetter? {notice : Notice} (about : notice.IsAboutProgram) :
    notice.unknownLetter? = none := by
  cases notice with
  | sectionUnknown letter => exact about.elim
  | _ => rfl

end Notice

namespace Noted

variable {α β : Type} {kind : Notice → Prop}

/-- Everything that was noticed is of one kind. -/
def Only (kind : Notice → Prop) (noted : Noted α) : Prop :=
  ∀ notice ∈ noted.notices, kind notice

/-- All notices are about the inspected program. -/
abbrev AboutProgram (noted : Noted α) : Prop :=
  noted.Only Notice.IsAboutProgram

/-- No failed delivery was noticed. -/
def NoDelivery (noted : Noted α) : Prop :=
  ∀ notice ∈ noted.notices, notice.deliveryFailure? = none

@[simp]
theorem only_nil (value : α) : (Noted.mk value []).Only kind := by
  intro notice listed
  cases listed

@[simp]
theorem only_pure (value : α) : (pure value : Noted α).Only kind :=
  only_nil value

theorem only_singleton {value : α} {notice : Notice} (accepted : kind notice) :
    (Noted.mk value [notice]).Only kind := by
  intro listed here
  rw [List.mem_singleton.mp here]
  exact accepted

/-- One computation after the other. -/
theorem Only.bind {first : Noted α} {next : α → Noted β} (here : first.Only kind)
    (there : (next first.value).Only kind) : (first >>= next).Only kind := by
  intro notice listed
  rcases List.mem_append.mp listed with before | after
  · exact here notice before
  · exact there notice after

/-- One computation for every element of a list. -/
theorem only_flatMap {items : List α} {f : α → Noted (List β)}
    (each : ∀ item ∈ items, (f item).Only kind) : (flatMap items f).Only kind := by
  intro notice listed
  obtain ⟨item, itemMem, there⟩ := List.mem_flatMap.mp listed
  exact each item itemMem notice there

theorem Only.mono {other : Notice → Prop} {noted : Noted α} (here : noted.Only kind)
    (within : ∀ notice, kind notice → other notice) : noted.Only other :=
  fun notice listed => within notice (here notice listed)

/-- Failures of deliveries are not among the notices. -/
theorem NoDelivery.filterMap_eq_nil {noted : Noted α} (quiet : noted.NoDelivery) :
    noted.notices.filterMap Notice.deliveryFailure? = [] :=
  List.filterMap_eq_nil_iff.mpr quiet

end Noted

open Noted

/-! ## Backtraces and registers -/

theorem aboutProgram_walkFrom (step : FrameId → Except Failure (Option FrameId))
    (limit steps : Nat) (frame : FrameId) : (walkFrom step limit steps frame).AboutProgram := by
  induction limit generalizing steps frame with
  | zero => exact only_pure _
  | succ limit ih =>
      rw [walkFrom]
      split
      · exact ih _ _
      · exact only_pure _
      · exact only_singleton trivial

theorem aboutProgram_listFrames (inspector : Inspector) (oldest : FrameId) (limit index : Nat)
    (frame : FrameId) : (listFrames inspector oldest limit index frame).AboutProgram := by
  induction limit generalizing index frame with
  | zero =>
      rw [listFrames]
      split
      · exact only_singleton trivial
      · split
        · exact only_pure _
        · split
          · exact only_singleton trivial
          · exact only_pure _
          · exact only_pure _
  | succ limit ih =>
      rw [listFrames]
      split
      · exact only_singleton trivial
      · split
        · exact only_pure _
        · split
          · exact only_singleton trivial
          · exact only_pure _
          · exact (ih _ _).bind (only_pure _)

theorem aboutProgram_renderBacktrace (inspector : Inspector) (settings : Settings)
    (palette : Palette) (depth : Nat) (withBanner : Bool) :
    (renderBacktrace inspector settings palette depth withBanner).AboutProgram := by
  refine Only.bind ?_ (only_pure _)
  rw [renderFrames]
  split
  · exact only_singleton trivial
  · refine Only.bind ?_ (only_pure _)
    apply (aboutProgram_walkFrom _ _ _ _).bind
    apply (aboutProgram_walkFrom _ _ _ _).bind
    exact aboutProgram_listFrames _ _ _ _ _

theorem aboutProgram_renderRegisters (inspector : Inspector) (settings : Settings)
    (palette : Palette) (previous : Snapshot) (asked : Option (List String)) :
    (renderRegisters inspector settings palette previous asked).AboutProgram := by
  apply only_flatMap
  intro name _
  rw [registerLines]
  split
  · split
    · exact only_pure _
    · exact only_singleton trivial
  · exact only_singleton trivial

/-! ## Sections -/

namespace Scene

variable (scene : Scene)

theorem aboutProgram_disasmLines : scene.disasmLines.AboutProgram := by
  rw [disasmLines]
  dsimp only
  split
  · exact (only_pure _).bind (only_pure _)
  · exact (only_singleton trivial).bind (only_pure _)

theorem aboutProgram_argsLines : scene.argsLines.AboutProgram := by
  rw [argsLines]
  split
  · exact only_pure _
  · exact only_singleton trivial

theorem aboutProgram_stackLines : scene.stackLines.AboutProgram := by
  rw [stackLines]
  dsimp only
  split
  · exact (only_pure _).bind (only_pure _)
  · exact (only_singleton trivial).bind (only_pure _)

theorem aboutProgram_sourceWindow (sources : SourceCache) :
    (scene.sourceWindow sources).AboutProgram := by
  rw [sourceWindow]
  split
  · exact only_pure _
  · apply Only.bind
    · rw [SourceCache.lines]
      split
      · exact only_pure _
      · split
        · exact only_pure _
        · exact only_singleton trivial
    · split
      · exact only_singleton trivial
      · exact only_pure _

theorem aboutProgram_pseudocodeLines : scene.pseudocodeLines.AboutProgram := by
  rw [pseudocodeLines]
  split
  · split
    · exact only_pure _
    · exact only_pure _
    · exact only_singleton trivial
  · exact only_pure _

theorem aboutProgram_codeBlock (memory : ViewMemory) : (scene.codeBlock memory).AboutProgram := by
  apply (scene.aboutProgram_sourceWindow memory.sources).bind
  dsimp only
  split
  · split
    · exact scene.aboutProgram_pseudocodeLines.bind (only_pure _)
    · exact only_pure _
  · exact scene.aboutProgram_pseudocodeLines.bind (only_pure _)

theorem aboutProgram_block (part : Section) (memory : ViewMemory) :
    (scene.block part memory).AboutProgram := by
  cases part with
  | registers => exact (aboutProgram_renderRegisters _ _ _ _ _).bind (only_pure _)
  | disasm => exact scene.aboutProgram_disasmLines
  | args => exact scene.aboutProgram_argsLines
  | code => exact scene.aboutProgram_codeBlock memory
  | stack => exact scene.aboutProgram_stackLines
  | backtrace => exact aboutProgram_renderBacktrace _ _ _ _ _

theorem aboutProgram_blocks (parts : List Section) (memory : ViewMemory) :
    (scene.blocks parts memory).AboutProgram := by
  induction parts generalizing memory with
  | nil => exact only_pure _
  | cons part rest ih =>
      apply (scene.aboutProgram_block part memory).bind
      exact (ih _).bind (only_pure _)

end Scene

/-! ## Views -/

namespace Session

variable (session : Session) (inspector : Inspector)

theorem only_pollEvents : (session.pollEvents inspector).Only (· = .lifecycleRecorded) := by
  intro notice listed
  obtain ⟨event, _, rfl⟩ := List.mem_map.mp listed
  rfl

theorem only_requestedSections (settings : Settings) (tokens : List String) :
    (requestedSections settings tokens).Only fun notice =>
      ∃ letter, notice = .sectionUnknown letter := by
  have keys : ∀ keys : List SectionKey, (sectionsOfKeys keys).Only fun notice =>
      ∃ letter, notice = .sectionUnknown letter := by
    intro keys notice listed
    obtain ⟨key, _, found⟩ := List.mem_filterMap.mp listed
    cases key with
    | known part => contradiction
    | unknown letter => exact ⟨letter, (Option.some.inj found).symm⟩
  rw [requestedSections]
  split
  · exact keys _
  · exact keys _

theorem only_assemble (settings : Settings) (palette : Palette) (terminal : Option Path)
    (sections : List SectionLines) (lifecycle : List String) :
    (assemble settings palette terminal sections lifecycle).Only (· = .terminalMerged) := by
  refine Only.bind ?_ (only_pure _)
  cases terminal with
  | none => exact only_pure _
  | some device =>
      rw [mergeTerminal]
      split
      · exact only_singleton rfl
      · exact only_pure _

/-- While a view is composed, no failed delivery is noticed. -/
theorem noDelivery_compose (files : FileSystem) (terminal : Option Path)
    (tokens : List String) : (session.compose inspector files terminal tokens).NoDelivery := by
  apply Only.bind
  · exact (session.only_pollEvents inspector).mono fun _ polled => by rw [polled]; rfl
  apply Only.bind
  · exact (only_requestedSections _ _).mono fun _ ⟨_, unknown⟩ => by rw [unknown]; rfl
  apply Only.bind
  · exact ((Scene.aboutProgram_blocks _ _ _).bind (only_pure _)).mono fun _ about =>
      about.deliveryFailure?
  · refine Only.bind ?_ (only_pure _)
    exact (only_assemble _ _ _ _ _).mono fun _ merged => by rw [merged]; rfl

end Session

end StopView
