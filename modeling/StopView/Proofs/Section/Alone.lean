import StopView.Proofs.Session.Rendering

/-!
# A section on its own

What each section reads and changes of what is remembered from view to view.  The register
section compares with the snapshot and replaces it; the code section asks the source cache
and adds to it; the others touch neither.  A section therefore has the same lines wherever
it stands among others, namely those it has when it is rendered alone.
-/

namespace StopView

/-- Two memories between which a section does not distinguish: the registers look at the
snapshot, the code at the source cache. -/
structure Section.SameFor (part : Section) (left right : ViewMemory) : Prop where
  snapshot : part = .registers → left.snapshot = right.snapshot
  sources : part = .code → left.sources = right.sources

namespace Scene

variable (scene : Scene)

/-- The source cache after the code section. -/
def sourcesAfter (sources : SourceCache) : SourceCache :=
  (scene.sourceWindow sources).value.2

/-! ## What is remembered after sections -/

theorem snapshot_codeBlock (memory : ViewMemory) :
    (scene.codeBlock memory).value.memory.snapshot = memory.snapshot := by
  simp only [codeBlock, Noted.value_bind]
  cases scene.currentLocation? with
  | none => rfl
  | some location =>
      dsimp only
      split <;> rfl

theorem sources_codeBlock (memory : ViewMemory) :
    (scene.codeBlock memory).value.memory.sources = scene.sourcesAfter memory.sources := by
  simp only [codeBlock, Noted.value_bind]
  cases scene.currentLocation? with
  | none => rfl
  | some location =>
      dsimp only
      split <;> rfl

/-- Only the register section takes a snapshot. -/
theorem snapshot_block (part : Section) (memory : ViewMemory) :
    (scene.block part memory).value.memory.snapshot =
      if part = .registers then scene.inspector.snapshot else memory.snapshot := by
  cases part with
  | registers => rfl
  | code => exact scene.snapshot_codeBlock memory
  | disasm => rfl
  | args => rfl
  | stack => rfl
  | backtrace => rfl

/-- Only the code section reads files. -/
theorem sources_block (part : Section) (memory : ViewMemory) :
    (scene.block part memory).value.memory.sources =
      if part = .code then scene.sourcesAfter memory.sources else memory.sources := by
  cases part with
  | registers => rfl
  | code => exact scene.sources_codeBlock memory
  | disasm => rfl
  | args => rfl
  | stack => rfl
  | backtrace => rfl

theorem snapshot_blocks (parts : List Section) (memory : ViewMemory) :
    (scene.blocks parts memory).value.2.snapshot =
      if .registers ∈ parts then scene.inspector.snapshot else memory.snapshot := by
  induction parts generalizing memory with
  | nil => rfl
  | cons part rest ih =>
      simp only [blocks, Noted.value_bind, Noted.value_pure, ih, snapshot_block, List.mem_cons]
      by_cases listed : Section.registers ∈ rest
      · simp [listed]
      · by_cases here : part = .registers
        · simp [here]
        · simp [listed, here, Ne.symm here]

theorem sources_blocks {parts : List Section} (once : parts.Nodup) (memory : ViewMemory) :
    (scene.blocks parts memory).value.2.sources =
      if .code ∈ parts then scene.sourcesAfter memory.sources else memory.sources := by
  induction parts generalizing memory with
  | nil => rfl
  | cons part rest ih =>
      obtain ⟨fresh, restOnce⟩ := List.nodup_cons.mp once
      simp only [blocks, Noted.value_bind, Noted.value_pure, ih restOnce, sources_block,
        List.mem_cons]
      by_cases here : part = .code
      · subst here
        simp [fresh]
      · by_cases listed : Section.code ∈ rest
        · simp [listed, here]
        · simp [listed, here, Ne.symm here]

/-! ## The lines of a section -/

/-- The lines of a section depend on what it looks at and on nothing else. -/
theorem lines_block_congr {part : Section} {left right : ViewMemory}
    (same : part.SameFor left right) :
    (scene.block part left).value.lines = (scene.block part right).value.lines := by
  cases part with
  | registers =>
      change _ :: (renderRegisters _ _ _ left.snapshot none).value =
        _ :: (renderRegisters _ _ _ right.snapshot none).value
      rw [same.snapshot rfl]
  | code =>
      simp only [block, codeBlock, Noted.value_bind, same.sources rfl]
      cases scene.currentLocation? with
      | none => rfl
      | some location =>
          dsimp only
          split <;> rfl
  | disasm => rfl
  | args => rfl
  | stack => rfl
  | backtrace => rfl

/-- A section leaves what every other section looks at. -/
theorem sameFor_block {part other : Section} (apart : other ≠ part) (memory : ViewMemory) :
    part.SameFor (scene.block other memory).value.memory memory where
  snapshot here := by
    subst here
    rw [snapshot_block, if_neg apart]
  sources here := by
    subst here
    rw [sources_block, if_neg apart]

theorem linesOf_blocks {parts : List Section} {part : Section} (listed : part ∈ parts)
    (memory : ViewMemory) :
    Session.linesOf (List.zipWith SectionLines.mk parts (scene.blocks parts memory).value.1) part =
      (scene.block part memory).value.lines := by
  induction parts generalizing memory with
  | nil => cases listed
  | cons other rest ih =>
      by_cases here : other = part
      · subst here
        simp [blocks, Session.linesOf]
      · have later : part ∈ rest := by
          rcases List.mem_cons.mp listed with first | later
          · exact absurd first.symm here
          · exact later
        rw [← scene.lines_block_congr (scene.sameFor_block here memory), ← ih later]
        simp [blocks, Session.linesOf, here]

/-! ## Sections in other files -/

/-- A scene in other files. -/
def inFiles (files : FileSystem) : Scene :=
  { scene with files }

/-- The current source file reads the same in other files. -/
def ReadsSame (files : FileSystem) : Prop :=
  ∀ location, scene.currentLocation? = some location →
    scene.files.read ⟨location.file⟩ = files.read ⟨location.file⟩

variable {scene} {files : FileSystem} (same : scene.ReadsSame files)

include same

theorem sourceWindow_inFiles (sources : SourceCache) :
    (scene.inFiles files).sourceWindow sources = scene.sourceWindow sources := by
  have located : (scene.inFiles files).currentLocation? = scene.currentLocation? := rfl
  rw [sourceWindow, sourceWindow, located]
  cases current : scene.currentLocation? with
  | none => rfl
  | some location =>
      dsimp only
      rw [SourceCache.lines, SourceCache.lines, same location current]
      rfl

/-- A section reads the current source file and no other. -/
theorem block_inFiles (part : Section) (memory : ViewMemory) :
    (scene.inFiles files).block part memory = scene.block part memory := by
  cases part with
  | code =>
      rw [block, block, codeBlock, codeBlock, sourceWindow_inFiles same]
      rfl
  | registers => rfl
  | disasm => rfl
  | args => rfl
  | stack => rfl
  | backtrace => rfl

theorem blocks_inFiles (parts : List Section) (memory : ViewMemory) :
    (scene.inFiles files).blocks parts memory = scene.blocks parts memory := by
  induction parts generalizing memory with
  | nil => rfl
  | cons part rest ih =>
      simp only [blocks, block_inFiles same, ih]

end Scene

end StopView
