import StopView.Proofs.Section.Alone
import StopView.Proofs.Section.Painted

/-!
# Sections with and without colour

Colour adds styles to the lines of a section and does nothing else: there are as many lines,
and without their styles they are the same.  What is remembered after a section does not
depend on colour at all.
-/

namespace StopView

open Text

/-! ## Source text -/

/-- A highlighter that adds no escapes. -/
def Highlighter.Quiet (highlighter : Highlighter) : Prop :=
  ∀ text path, EscapeFree text → EscapeFree path.text → EscapeFree (highlighter text path)

/-- The lines that a cache holds have no escapes. -/
def SourceCache.EscapeFree (cache : SourceCache) : Prop :=
  ∀ item ∈ cache.files, ∀ line ∈ item.2, Text.EscapeFree line

namespace SourceCache

variable {cache : SourceCache} {files : FileSystem} {highlighter : Highlighter} {path : Path}

/-- The lines of a text without escapes, highlighted or not. -/
theorem escapeFree_linesOfBytes (quiet : highlighter.Quiet) (named : Text.EscapeFree path.text)
    {bytes : ByteArray} (free : Text.EscapeFree (Text.decodeLossy bytes)) (highlight : Bool) :
    ∀ line ∈ linesOfBytes highlighter path highlight bytes, Text.EscapeFree line := by
  intro line listed
  have shown : Text.EscapeFree (if highlight then highlighter (Text.decodeLossy bytes) path
      else Text.decodeLossy bytes) := by
    split
    · exact quiet _ path free named
    · exact free
  obtain ⟨whole, wholeMem, rfl⟩ := List.mem_map.mp listed
  exact (shown.lines wholeMem).trimEnd

theorem escapeFree_lines (quiet : highlighter.Quiet) (named : Text.EscapeFree path.text)
    (kept : cache.EscapeFree)
    (free : ∀ bytes, files.read path = .ok bytes → Text.EscapeFree (Text.decodeLossy bytes))
    (highlight : Bool) :
    let answer := (cache.lines files highlighter path highlight).value
    (∀ source, answer.lines = .ok source → ∀ line ∈ source, Text.EscapeFree line) ∧
      answer.cache.EscapeFree := by
  intro answer
  change (∀ source, (cache.lines files highlighter path highlight).value.lines = .ok source →
    ∀ line ∈ source, Text.EscapeFree line) ∧
    (cache.lines files highlighter path highlight).value.cache.EscapeFree
  rw [lines]
  cases found : cache.find? path with
  | some known =>
      obtain ⟨item, itemFound, rfl⟩ := Option.map_eq_some_iff.mp found
      constructor
      · rintro source ⟨⟩
        exact kept item (List.mem_of_find?_eq_some itemFound)
      · exact kept
  | none =>
      cases read : files.read path with
      | error cause =>
          constructor
          · intro source answered
            cases answered
          · exact kept
      | ok bytes =>
          have fresh := escapeFree_linesOfBytes quiet named (free bytes read) highlight
          constructor
          · rintro source ⟨⟩
            exact fresh
          · intro item listed
            rcases List.mem_append.mp listed with earlier | last
            · exact kept item earlier
            · rw [List.mem_singleton.mp last]
              exact fresh

end SourceCache

/-! ## Sections -/

namespace Scene

/-- A scene with colour or without. -/
def inColour (scene : Scene) (colour : Bool) : Scene :=
  { scene with palette := ⟨colour, scene.palette.width⟩ }

/-- The cache's answer for the file of a location. -/
def sourceAnswer (scene : Scene) (sources : SourceCache) (location : SourceLocation) :
    CacheAnswer :=
  (sources.lines scene.files scene.highlighter ⟨location.file⟩ scene.settings.syntaxHighlight).value

/-- The texts that a scene is made of have no escapes, the source text only if it is
quiet. -/
structure EscapeFree (quiet : Prop) (scene : Scene) (sources : SourceCache) : Prop where
  inspector : scene.inspector.EscapeFree
  settings : scene.settings.EscapeFree
  source : quiet → ∀ location, scene.currentLocation? = some location →
    ∀ source, (scene.sourceAnswer sources location).lines = .ok source →
      ∀ line ∈ source, Text.EscapeFree line

/-- The source lines around the current one, and the cache afterwards. -/
theorem value_sourceWindow (scene : Scene) (sources : SourceCache) :
    (scene.sourceWindow sources).value =
      match scene.currentLocation? with
      | none => ([], sources)
      | some location =>
          (match (scene.sourceAnswer sources location).lines with
            | .error _ => []
            | .ok source => windowLines scene.settings scene.palette source location.line,
            (scene.sourceAnswer sources location).cache) := by
  rw [sourceWindow]
  cases scene.currentLocation? with
  | none => rfl
  | some location =>
      simp only [Noted.value_bind, sourceAnswer]
      generalize (sources.lines scene.files scene.highlighter ⟨location.file⟩
        scene.settings.syntaxHighlight).value = answer
      rcases answer with ⟨lines, cache⟩
      cases lines <;> rfl

theorem lines_codeBlock (scene : Scene) (memory : ViewMemory) :
    (scene.codeBlock memory).value.lines =
      match scene.currentLocation? with
      | none => scene.pseudocodeLines.value
      | some location =>
          let window := (scene.sourceWindow memory.sources).value.1
          if window.isEmpty then scene.pseudocodeLines.value
          else scene.sourceHeading location ++ window := by
  simp only [codeBlock, Noted.value_bind]
  cases scene.currentLocation? with
  | none => rfl
  | some location =>
      dsimp only
      split <;> rfl

/-- The lines of an answer.  Without an answer there are none. -/
def answeredLines (answer : Except Failure (List String)) : List String :=
  answer.toOption.getD []

/-- What is answered for an address is answered for some address. -/
theorem exists_of_mem_answeredLines {address : Except Failure Address}
    {ask : Address → Except Failure (List String)} {line : String}
    (listed : line ∈ answeredLines (address.bind ask)) :
    ∃ place lines, ask place = .ok lines ∧ line ∈ lines := by
  cases address with
  | error cause => cases listed
  | ok place =>
      change line ∈ answeredLines (ask place) at listed
      cases answered : ask place with
      | error cause =>
          rw [answered] at listed
          cases listed
      | ok lines =>
          rw [answered] at listed
          exact ⟨place, lines, answered, listed⟩

theorem value_disasmLines (scene : Scene) :
    scene.disasmLines.value =
      fillTo (scene.settings.codeLines + 2) (scene.palette.banner "disasm" ::
        answeredLines (scene.inspector.programCounter.bind fun pc =>
          scene.inspector.disassemble pc (scene.settings.codeLines / 2)
            scene.settings.emulate)) := by
  rw [disasmLines]
  dsimp only
  generalize (scene.inspector.programCounter.bind fun pc =>
    scene.inspector.disassemble pc (scene.settings.codeLines / 2) scene.settings.emulate) = answer
  cases answer <;> rfl

theorem value_argsLines (scene : Scene) :
    scene.argsLines.value =
      let arguments :=
        answeredLines (scene.inspector.programCounter.bind scene.inspector.callArguments)
      if arguments.isEmpty then [] else scene.palette.banner "arguments" :: arguments := by
  rw [argsLines]
  generalize scene.inspector.programCounter.bind scene.inspector.callArguments = answer
  cases answer <;> rfl

theorem value_stackLines (scene : Scene) :
    scene.stackLines.value =
      let words := answeredLines (scene.inspector.stackPointer.bind fun top =>
        scene.inspector.stackWindow top scene.settings.stackLines)
      scene.palette.banner "stack" ::
        if scene.settings.stackReverse then words.reverse else words := by
  rw [stackLines]
  dsimp only
  generalize (scene.inspector.stackPointer.bind fun top =>
    scene.inspector.stackWindow top scene.settings.stackLines) = answer
  cases answer with
  | error cause => cases scene.settings.stackReverse <;> rfl
  | ok words => rfl

/-- The current file of an inspector without escapes. -/
theorem escapeFree_of_currentLocation? {scene : Scene} (free : scene.inspector.EscapeFree)
    {location : SourceLocation} (current : scene.currentLocation? = some location) :
    Text.EscapeFree location.file := by
  obtain ⟨frame, _, located⟩ := Option.bind_eq_some_iff.mp current
  exact free.sources frame location located

/-! ## What is remembered -/

section Memory

variable (scene : Scene) (colour : Bool)

theorem sourcesAfter_inColour (sources : SourceCache) :
    (scene.inColour colour).sourcesAfter sources = scene.sourcesAfter sources := by
  have located : (scene.inColour colour).currentLocation? = scene.currentLocation? := rfl
  rw [sourcesAfter, sourcesAfter, value_sourceWindow, value_sourceWindow, located]
  cases scene.currentLocation? <;> rfl

/-- What is remembered after a section does not depend on colour. -/
theorem memory_block_inColour (part : Section) (memory : ViewMemory) :
    ((scene.inColour colour).block part memory).value.memory =
      (scene.block part memory).value.memory := by
  have both : ∀ other : Scene, (other.block part memory).value.memory =
      ⟨if part = .registers then other.inspector.snapshot else memory.snapshot,
        if part = .code then other.sourcesAfter memory.sources else memory.sources⟩ := by
    intro other
    rw [← other.snapshot_block, ← other.sources_block]
  rw [both, both, sourcesAfter_inColour]
  rfl

end Memory

/-! ## Lines -/

theorem sameLines_fillTo {quiet : Prop} {styled bare : List String}
    (same : SameLines quiet styled bare) (height : Nat) :
    SameLines quiet (fillTo height styled) (fillTo height bare) := by
  rw [fillTo, fillTo, same.length_eq]
  apply same.append
  apply SameLines.refl
  intro _ line listed
  rw [List.eq_of_mem_replicate listed]
  exact escapeFree_empty

section Lines

variable {scene : Scene} {quiet : Prop} {memory : ViewMemory}
  (free : scene.EscapeFree quiet memory.sources)

include free

theorem sameLines_sourceWindow :
    SameLines quiet ((scene.inColour true).sourceWindow memory.sources).value.1
      ((scene.inColour false).sourceWindow memory.sources).value.1 := by
  have located : ∀ colour, (scene.inColour colour).currentLocation? = scene.currentLocation? :=
    fun _ => rfl
  have answered : ∀ colour, (scene.inColour colour).sourceAnswer = scene.sourceAnswer :=
    fun _ => rfl
  rw [value_sourceWindow, value_sourceWindow, located, located, answered, answered]
  cases current : scene.currentLocation? with
  | none => exact .nil
  | some location =>
      cases known : (scene.sourceAnswer memory.sources location).lines with
      | error cause =>
          simp only [known]
          exact .nil
      | ok source =>
          simp only [known]
          apply sameLines_windowLines free.settings
          exact fun always => free.source always location current source known

theorem sameLines_pseudocodeLines :
    SameLines quiet (scene.inColour true).pseudocodeLines.value
      (scene.inColour false).pseudocodeLines.value := by
  have asked : ∀ colour, (scene.inColour colour).inspector = scene.inspector := fun _ => rfl
  have settings : ∀ colour, (scene.inColour colour).settings = scene.settings := fun _ => rfl
  simp only [pseudocodeLines, asked, settings]
  cases known : scene.inspector.decompiler with
  | none => exact .nil
  | some decompile =>
      cases scene.inspector.programCounter with
      | error cause => exact .nil
      | ok pc =>
          simp only
          cases answered : decompile pc (scene.settings.sourceLines / 2) with
          | error cause => exact .nil
          | ok answer =>
              cases answer with
              | none => exact .nil
              | some code =>
                  have text := free.inspector.pseudocode decompile known pc _ code answered
                  simp only [Noted.value_pure]
                  split
                  · exact .nil
                  · apply SameLines.cons (.of_styled (styled_banner (by decide)))
                    exact .refl fun _ line listed => text.lines listed

theorem sameLines_codeBlock :
    SameLines quiet ((scene.inColour true).codeBlock memory).value.lines
      ((scene.inColour false).codeBlock memory).value.lines := by
  have located : ∀ colour, (scene.inColour colour).currentLocation? = scene.currentLocation? :=
    fun _ => rfl
  have window := sameLines_sourceWindow free
  have pseudocode := sameLines_pseudocodeLines free
  rw [lines_codeBlock, lines_codeBlock, located, located]
  cases current : scene.currentLocation? with
  | none => exact pseudocode
  | some location =>
      have file : Text.EscapeFree ("In file: " ++ location.file) :=
        EscapeFree.append (by decide) (escapeFree_of_currentLocation? free.inspector current)
      simp only [window.isEmpty_eq]
      split
      · exact pseudocode
      · apply SameLines.append _ window
        exact .cons (.of_styled (styled_banner (by decide))) (.singleton (.refl fun _ => file))

theorem sameLines_disasmLines :
    SameLines quiet (scene.inColour true).disasmLines.value
      (scene.inColour false).disasmLines.value := by
  rw [value_disasmLines, value_disasmLines]
  apply sameLines_fillTo
  apply SameLines.cons (.of_styled (styled_banner (by decide)))
  apply SameLines.refl
  intro _ line listed
  obtain ⟨pc, lines, answered, listedThere⟩ := exists_of_mem_answeredLines listed
  exact free.inspector.disassembly pc _ _ lines answered line listedThere

theorem sameLines_argsLines :
    SameLines quiet (scene.inColour true).argsLines.value
      (scene.inColour false).argsLines.value := by
  have asked : ∀ colour, (scene.inColour colour).inspector = scene.inspector := fun _ => rfl
  rw [value_argsLines, value_argsLines, asked, asked]
  dsimp only
  split
  · exact .nil
  · apply SameLines.cons (.of_styled (styled_banner (by decide)))
    apply SameLines.refl
    intro _ line listed
    obtain ⟨pc, lines, answered, listedThere⟩ := exists_of_mem_answeredLines listed
    exact free.inspector.arguments pc lines answered line listedThere

theorem sameLines_stackLines :
    SameLines quiet (scene.inColour true).stackLines.value
      (scene.inColour false).stackLines.value := by
  rw [value_stackLines, value_stackLines]
  apply SameLines.cons (.of_styled (styled_banner (by decide)))
  apply SameLines.refl
  intro _ line listed
  have word : line ∈ answeredLines (scene.inspector.stackPointer.bind fun top =>
      scene.inspector.stackWindow top scene.settings.stackLines) := by
    change line ∈ (if scene.settings.stackReverse then _ else _) at listed
    split at listed
    · exact List.mem_reverse.mp listed
    · exact listed
  obtain ⟨top, lines, answered, listedThere⟩ := exists_of_mem_answeredLines word
  exact free.inspector.stack top _ lines answered line listedThere

/-- The lines of a section with colour are those without it, and styles. -/
theorem sameLines_block (part : Section) :
    SameLines quiet ((scene.inColour true).block part memory).value.lines
      ((scene.inColour false).block part memory).value.lines := by
  cases part with
  | registers =>
      apply SameLines.cons (.of_styled (styled_banner (by decide)))
      exact sameLines_renderRegisters free.inspector free.settings memory.snapshot none
  | disasm => exact sameLines_disasmLines free
  | args => exact sameLines_argsLines free
  | code => exact sameLines_codeBlock free
  | stack => exact sameLines_stackLines free
  | backtrace => exact sameLines_renderBacktrace free.inspector free.settings backtraceDepth

end Lines

end Scene

end StopView
