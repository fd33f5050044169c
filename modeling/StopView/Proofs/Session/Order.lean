import StopView.Inspector.Script
import StopView.Proofs.Session.Step
import StopView.Proofs.Session.View

/-!
# The order of sections

Sections are rendered one after the other, and two of them change what is remembered.  As
neither looks at what the other changes, every section has the lines that it has alone, and
what is remembered in the end depends on which sections are asked for and not on their
order, nor on where they go.  All of them are rendered before anything is delivered.
-/

namespace StopView

theorem viewBatches_congr (settings : Settings) (palette : Palette) (terminal : Option Path)
    {parts : List Section} {block other : Section → List String}
    (same : ∀ part ∈ parts, block part = other part) (lifecycle : List String) :
    viewBatches settings palette terminal parts block lifecycle =
      viewBatches settings palette terminal parts other lifecycle := by
  let outputs := settings.sectionOutputs
  have listed : ∀ part, part ∈ outputs.mainParts terminal parts ++
      (outputs.ownShares terminal parts).flatMap Share.parts → part ∈ parts := fun _ =>
    (outputs.perm_mainParts_ownShares terminal parts).mem_iff.mp
  have main : (outputs.mainParts terminal parts).flatMap block =
      (outputs.mainParts terminal parts).flatMap other := by
    apply List.flatMap_congr
    intro part partMem
    exact same part (listed part (List.mem_append_left _ partMem))
  have own : ((outputs.ownShares terminal parts).map fun share => share.batch block) =
      (outputs.ownShares terminal parts).map fun share => share.batch other := by
    apply List.map_congr_left
    intro share shareMem
    rw [Share.batch, Share.batch]
    congr 1
    apply List.flatMap_congr
    intro part partMem
    exact same part (listed part
      (List.mem_append_right _ (List.mem_flatMap.mpr ⟨share, shareMem, partMem⟩)))
  rw [viewBatches, viewBatches, mainLines, mainLines, main, own]

namespace Session

variable (session : Session) (inspector : Inspector)

/-- A session that sends its sections elsewhere. -/
def routed (outputs : SectionOutputs) : Session :=
  { session with settings := { session.settings with sectionOutputs := outputs } }

/-- The lines of a section that is rendered alone, after the events that wait. -/
def linesAlone (files : FileSystem) (part : Section) : List String :=
  let polled := (session.pollEvents inspector).value.session
  ((polled.scene inspector files).block part polled.memory).value.lines

theorem linesAlone_routed (outputs : SectionOutputs) (files : FileSystem) (part : Section) :
    (session.routed outputs).linesAlone inspector files part =
      session.linesAlone inspector files part := by
  cases part <;> rfl

theorem linesOf_rendered {files : FileSystem} {tokens : List String} {part : Section}
    (named : part ∈ namedSections session.settings tokens) :
    linesOf (session.rendered inspector files tokens) part =
      session.linesAlone inspector files part :=
  (session.scene inspector files).linesOf_blocks (mem_renderingOrder_iff.mpr named)
    session.memory

theorem result_compose_linesAlone (files : FileSystem) (terminal : Option Path)
    (tokens : List String) :
    (session.compose inspector files terminal tokens).value.result =
      viewBatches session.settings session.palette terminal
        (requestedSections session.settings tokens).value (session.linesAlone inspector files)
        (session.pollEvents inspector).value.session.lifecycle.lines := by
  rw [result_compose, viewBatches_congr]
  intro part listed
  exact session.linesOf_rendered inspector
    (((firstSeen_requestedSections session.settings tokens).mem_iff part).mp listed)

/-- A refresh delivers the batches of its sections, each rendered alone and in the files
that are there before the first delivery. -/
theorem result_refresh_linesAlone (world : World) (tokens : List String) :
    (session.refresh inspector world tokens).value.result =
      (world.deliverAll
        (viewBatches session.settings session.palette world.terminal
          (requestedSections session.settings tokens).value
          (session.linesAlone inspector world.files)
          (session.pollEvents inspector).value.session.lifecycle.lines)
        session.settings.clearScreen).value := by
  rw [← session.result_compose_linesAlone inspector world.files world.terminal tokens]
  rfl

/-- What is remembered after a refresh is a snapshot if the registers are in view, and the
current file if the code is. -/
theorem memory_refresh (world : World) (tokens : List String) :
    (session.refresh inspector world tokens).value.session.memory =
      ⟨if .registers ∈ namedSections session.settings tokens then inspector.snapshot
        else session.memory.snapshot,
      if .code ∈ namedSections session.settings tokens then
        (session.scene inspector world.files).sourcesAfter session.memory.sources
      else session.memory.sources⟩ := by
  let scene := session.scene inspector world.files
  let parts := renderingOrder session.settings (requestedSections session.settings tokens).value
  have once : parts.Nodup :=
    (perm_renderingOrder _ _).nodup_iff.mpr (nodup_requestedSections _ _)
  calc
    (session.refresh inspector world tokens).value.session.memory =
        (scene.blocks parts session.memory).value.2 := rfl
    _ = ⟨(scene.blocks parts session.memory).value.2.snapshot,
          (scene.blocks parts session.memory).value.2.sources⟩ := rfl
    _ = _ := by
        rw [scene.snapshot_blocks, scene.sources_blocks once]
        simp only [parts, mem_renderingOrder_iff]
        rfl

/-- Requests for the same sections, in any order and however often, show the same lines in
each of them and leave the same session, wherever the sections go.  The lines are those of
the section alone, after the events that wait, in the files that are there before the first
delivery. -/
theorem refresh_shows_sections_as_if_alone (world : World) {first second : List String}
    (same : ∀ part, part ∈ namedSections session.settings first ↔
      part ∈ namedSections session.settings second) :
    let polled := (session.pollEvents inspector).value.session
    let alone := fun part =>
      ((polled.scene inspector world.files).block part polled.memory).value.lines
    let lines := fun outputs tokens =>
      linesOf ((session.routed outputs).rendered inspector world.files tokens)
    let turn := fun outputs tokens =>
      ((session.routed outputs).refresh inspector world tokens).value
    (∀ outputs other, ∀ part ∈ namedSections session.settings first,
      lines outputs first part = lines other second part) ∧
    (∀ outputs other,
      (turn outputs first).session.memory.snapshot =
          (turn other second).session.memory.snapshot ∧
        (turn outputs first).session.memory.sources =
          (turn other second).session.memory.sources ∧
        (turn outputs first).session.lifecycle = (turn other second).session.lifecycle) ∧
    (∀ outputs tokens, ∀ part ∈ namedSections session.settings tokens,
      lines outputs tokens part = alone part) ∧
    ∀ outputs tokens,
      (turn outputs tokens).result =
        (world.deliverAll
          (viewBatches (session.routed outputs).settings session.palette world.terminal
            (requestedSections session.settings tokens).value alone polled.lifecycle.lines)
          session.settings.clearScreen).value := by
  intro polled alone lines turn
  have shown : ∀ outputs tokens, ∀ part ∈ namedSections session.settings tokens,
      lines outputs tokens part = alone part := by
    intro outputs tokens part named
    exact ((session.routed outputs).linesOf_rendered inspector named).trans
      (session.linesAlone_routed inspector outputs world.files part)
  have remembered : ∀ outputs other,
      (turn outputs first).session.memory = (turn other second).session.memory := by
    intro outputs other
    calc
      (turn outputs first).session.memory =
          ⟨if .registers ∈ namedSections session.settings first then inspector.snapshot
            else session.memory.snapshot,
          if .code ∈ namedSections session.settings first then
            (session.scene inspector world.files).sourcesAfter session.memory.sources
          else session.memory.sources⟩ :=
        (session.routed outputs).memory_refresh inspector world first
      _ = ⟨if .registers ∈ namedSections session.settings second then inspector.snapshot
            else session.memory.snapshot,
          if .code ∈ namedSections session.settings second then
            (session.scene inspector world.files).sourcesAfter session.memory.sources
          else session.memory.sources⟩ := by
        simp only [same]
      _ = (turn other second).session.memory :=
        ((session.routed other).memory_refresh inspector world second).symm
  constructor
  · intro outputs other part named
    rw [shown outputs first part named, shown other second part ((same part).mp named)]
  constructor
  · intro outputs other
    rw [remembered outputs other]
    exact ⟨rfl, rfl, rfl⟩
  constructor
  · exact shown
  · intro outputs tokens
    have delivered := (session.routed outputs).result_refresh_linesAlone inspector world tokens
    rw [show (session.routed outputs).linesAlone inspector world.files = alone from
      funext (session.linesAlone_routed inspector outputs world.files)] at delivered
    exact delivered

/-- A program that has stopped in the first line of a file. -/
def firstLineScript : Script :=
  { Script.blank with
    registers := [("rip", 16)]
    frames := [(⟨0⟩, ⟨none, .chainEnd, .chainEnd, some ⟨"main.c", 1⟩⟩)]
    selected := some ⟨0⟩ }

/-- Registers that go to the very file that the code section shows: the file is overwritten,
but the section shows it as it was, in whatever order the two are asked for. -/
theorem code_shows_file_that_registers_overwrite :
    let inspector := firstLineScript.inspector
    let files := FileSystem.initial.put ["work", "main.c"] (.file "one\ntwo\n".toUTF8)
    let world : World := ⟨files, .fresh, none⟩
    let session := fresh { Settings.initial with colour := false } plainHighlighter 12
    let outputs := { SectionOutputs.together with registers := .split (.path ⟨"main.c"⟩) }
    let lines := fun tokens =>
      linesOf ((session.routed outputs).rendered inspector world.files tokens)
    let after := ((session.routed outputs).refresh inspector world ["code", "x", "regs", "c"]).value
    (∀ part, part ∈ namedSections session.settings ["r", "c"] ↔
        part ∈ namedSections session.settings ["code", "x", "regs", "c"]) ∧
      lines ["r", "c"] .code = lines ["code", "x", "regs", "c"] .code ∧
      lines ["r", "c"] .code =
        ["[ SOURCE (CODE) ]", "In file: main.c", " ► 1 one", "   2 two"] ∧
      after.result.world.files.read ⟨"main.c"⟩ =
        .ok "[ REGISTERS ]\n RIP  0x10\n".toUTF8 := by
  intro inspector files world session outputs lines after
  have same : ∀ part, part ∈ namedSections session.settings ["r", "c"] ↔
      part ∈ namedSections session.settings ["code", "x", "regs", "c"] := by
    intro part
    cases part <;> decide
  have shown := session.refresh_shows_sections_as_if_alone inspector world same
  constructor
  · exact same
  constructor
  · exact shown.1 outputs outputs .code (by decide)
  constructor
  · decide +kernel
  · decide +kernel

end Session

end StopView
