import StopView.Proofs.Delivery.Alike
import StopView.Proofs.Lifecycle.Colour
import StopView.Proofs.Session.Deliveries
import StopView.Proofs.Session.Settings

/-!
# Sessions with and without colour

Two sessions that differ in the colour setting remember the same, and differ otherwise in the
styles of the lines that tell of the latest event.  They compose batches that differ in styles
only, as long as the source files read the same in both worlds.  Every operation that does not
set the colour keeps them so.
-/

namespace StopView

open Text

/-! ## Files -/

namespace FileSystem

/-- The file at a place, if there is one, has no escapes. -/
def EscapeFreeAt (files : FileSystem) (place : Place) : Prop :=
  ∀ content, files.entryAt place = some (.file content) →
    Text.EscapeFree (Text.decodeLossy content)

theorem exists_of_read_eq_ok {files : FileSystem} {path : Path} {bytes : ByteArray}
    (read : files.read path = .ok bytes) :
    ∃ place, files.find path = .ok place ∧
      (files.entryAt place = some (.file bytes) ∨ bytes = ByteArray.empty) := by
  rw [FileSystem.read] at read
  cases found : files.find path with
  | error cause =>
      rw [found] at read
      cases read
  | ok place =>
      simp only [found, bind, Except.bind] at read
      apply Exists.intro place
      apply And.intro rfl
      split at read
      · rename_i content entry
        cases read
        exact .inl entry
      · cases read
        exact .inr rfl
      · cases read
      · cases read

theorem escapeFree_of_read {files : FileSystem} {path : Path} {bytes : ByteArray}
    (free : ∀ place, files.find path = .ok place → files.EscapeFreeAt place)
    (read : files.read path = .ok bytes) : Text.EscapeFree (Text.decodeLossy bytes) := by
  obtain ⟨place, found, entry | rfl⟩ := exists_of_read_eq_ok read
  · exact free place found bytes entry
  · decide

end FileSystem

/-! ## Scenes -/

namespace Scene

/-- The colour setting does not matter to a section: its palette does. -/
theorem block_withColour (scene : Scene) (colour : Bool) (part : Section) (memory : ViewMemory) :
    { scene with settings := scene.settings.withColour colour }.block part memory =
      scene.block part memory := by
  cases part <;> rfl

variable {scene : Scene} {written : List Place}

/-- The current source file reads the same if it is not among what was written. -/
theorem readsSame_of_alike {files : FileSystem} (alike : FileSystem.Alike written files scene.files)
    (kept : ∀ place, scene.inspector.sourcePlace? scene.files = some place → place ∉ written) :
    scene.ReadsSame files := by
  intro location current
  apply Eq.symm
  apply alike.read_eq
  intro place found
  apply kept place
  change scene.inspector.selectedFrame.toOption.bind scene.inspector.sourceLocation =
    some location at current
  rw [Inspector.sourcePlace?, current]
  exact toOption_eq_some_iff.mpr found

/-- What the cache answers for the current source file, and what it keeps, has no escapes. -/
theorem escapeFree_sourceAnswer {sources : SourceCache} {location : SourceLocation}
    (current : scene.currentLocation? = some location) (inspector : scene.inspector.EscapeFree)
    (silent : scene.highlighter.Quiet) (cached : sources.EscapeFree)
    (clean : ∀ place, scene.inspector.sourcePlace? scene.files = some place →
      scene.files.EscapeFreeAt place) :
    (∀ source, (scene.sourceAnswer sources location).lines = .ok source →
      ∀ line ∈ source, Text.EscapeFree line) ∧
      (scene.sourceAnswer sources location).cache.EscapeFree := by
  have named : Text.EscapeFree location.file := escapeFree_of_currentLocation? inspector current
  apply SourceCache.escapeFree_lines silent named cached
  intro bytes
  apply FileSystem.escapeFree_of_read
  intro place found
  apply clean place
  change scene.inspector.selectedFrame.toOption.bind scene.inspector.sourceLocation =
    some location at current
  rw [Inspector.sourcePlace?, current]
  exact toOption_eq_some_iff.mpr found

theorem escapeFree_sourcesAfter {sources : SourceCache} (inspector : scene.inspector.EscapeFree)
    (silent : scene.highlighter.Quiet) (cached : sources.EscapeFree)
    (clean : ∀ place, scene.inspector.sourcePlace? scene.files = some place →
      scene.files.EscapeFreeAt place) : (scene.sourcesAfter sources).EscapeFree := by
  rw [sourcesAfter, value_sourceWindow]
  cases current : scene.currentLocation? with
  | none => exact cached
  | some location => exact (escapeFree_sourceAnswer current inspector silent cached clean).2

end Scene

/-! ## Sessions -/

namespace Session

/-- Two sessions, the first with colour and the second without, that are the same but for
styles, and the second of which has no escapes. -/
structure SameButStyles (quiet : Prop) (styled bare : Session) : Prop where
  settings : styled.settings = bare.settings.withColour true
  plain : bare.settings.colour = false
  memory : styled.memory = bare.memory
  lifecycle : styled.lifecycle.SameButStyles quiet bare.lifecycle
  channel : styled.channel = bare.channel
  opened : styled.opened = bare.opened
  highlighter : styled.highlighter = bare.highlighter
  width : styled.width = bare.width
  marks : bare.settings.EscapeFree
  waiting : ∀ event ∈ bare.waiting, event.EscapeFree
  sources : quiet → bare.memory.sources.EscapeFree
  silent : quiet → bare.highlighter.Quiet

namespace SameButStyles

variable {quiet : Prop} {styled bare : Session} (same : SameButStyles quiet styled bare)
  {written : List Place} {left right : World} (alike : World.Alike written left right)
  {inspector : Inspector}
  (kept : ∀ place, inspector.sourcePlace? right.files = some place → place ∉ written)

include same

theorem palette : styled.palette = ⟨true, bare.width.columns⟩ := by
  rw [Session.palette, same.settings, same.width]
  rfl

theorem barePalette : bare.palette = ⟨false, bare.width.columns⟩ := by
  rw [Session.palette, same.plain]

theorem bareScene_eq (files : FileSystem) :
    (bare.scene inspector files).inColour false = bare.scene inspector files := by
  simp only [Scene.inColour, scene, same.barePalette]

theorem sameLines_renderRegisters (free : inspector.EscapeFree) (asked : Option (List String)) :
    SameLines quiet (styled.renderRegisters inspector asked).value.result
      (bare.renderRegisters inspector asked).value.result := by
  change SameLines quiet (StopView.renderRegisters inspector styled.settings styled.palette
    styled.memory.snapshot asked).value (StopView.renderRegisters inspector bare.settings
    bare.palette bare.memory.snapshot asked).value
  rw [same.settings, same.palette, same.barePalette, same.memory]
  exact StopView.sameLines_renderRegisters free same.marks bare.memory.snapshot asked

theorem lifecycle_pollEvents (inspector : Inspector) :
    (styled.pollEvents inspector).value.session.lifecycle.SameButStyles quiet
      (bare.pollEvents inspector).value.session.lifecycle := by
  have waiting : styled.waiting = bare.waiting := by
    rw [Session.waiting, Session.waiting, same.channel]
  have recorded := same.lifecycle.recordAll inspector bare.width.columns same.waiting
  change LifecycleRecord.SameButStyles quiet
    (styled.lifecycle.recordAll inspector styled.palette styled.waiting).record
    (bare.lifecycle.recordAll inspector bare.palette bare.waiting).record
  rw [waiting, same.palette, same.barePalette]
  exact recorded

include alike kept

/-- A section is that of the other session in colour. -/
theorem block_eq (part : Section) (memory : ViewMemory) :
    (styled.scene inspector left.files).block part memory =
      ((bare.scene inspector right.files).inColour true).block part memory := by
  let coloured := (bare.scene inspector right.files).inColour true
  have reads : coloured.ReadsSame left.files := Scene.readsSame_of_alike alike.files kept
  have scene : styled.scene inspector left.files =
      { coloured.inFiles left.files with settings := bare.settings.withColour true } := by
    rw [Session.scene, same.settings, same.palette, same.highlighter]
    rfl
  rw [scene]
  exact ((coloured.inFiles left.files).block_withColour true part memory).trans
    (Scene.block_inFiles reads part memory)

variable (free : inspector.EscapeFree)
  (clean : ∀ place, place ∉ written → right.files.EscapeFreeAt place)

include free clean

theorem sameLines_linesAlone (part : Section) :
    SameLines quiet (styled.linesAlone inspector left.files part)
      (bare.linesAlone inspector right.files part) := by
  have texts : (bare.scene inspector right.files).EscapeFree quiet bare.memory.sources := by
    constructor
    · exact free
    · exact same.marks
    · intro always location current
      exact (Scene.escapeFree_sourceAnswer current free (same.silent always)
        (same.sources always) fun place here => clean place (kept place here)).1
  have lines := Scene.sameLines_block texts part
  rw [same.bareScene_eq, ← same.block_eq alike kept] at lines
  change SameLines quiet ((styled.scene inspector left.files).block part styled.memory).value.lines
    ((bare.scene inspector right.files).block part bare.memory).value.lines
  rw [same.memory]
  exact lines

theorem sameBatches_command (command : Command) :
    SameBatches quiet (command.batches styled inspector left)
      (command.batches bare inspector right) := by
  cases command with
  | registers names =>
      exact .cons ⟨rfl, same.sameLines_renderRegisters free (some names)⟩ .nil
  | context tokens =>
      have told := (same.lifecycle_pollEvents inspector).lines
      rw [Command.batches, Command.batches, result_compose_linesAlone, result_compose_linesAlone,
        same.settings, same.palette, same.barePalette, alike.terminal]
      exact sameBatches_viewBatches right.terminal _
        (same.sameLines_linesAlone alike kept free clean) bare.settings told

end SameButStyles

end Session

end StopView
