import StopView.Backtrace
import StopView.Register.View
import StopView.Source.Cache
import StopView.Source.Window

/-!
# Section blocks

A block is the list of lines of one section.  Rendering never fails: where the
inspector has no answer, the block shrinks to its heading or to nothing, and a warning
tells why.

Rendering may change two things that outlive it, the register snapshot and the source
cache.  Each is changed by one section only.
-/

namespace StopView

/-- What is remembered from one view to the next. -/
structure ViewMemory where
  snapshot : Snapshot
  sources : SourceCache
deriving Repr, DecidableEq

/-- Nothing remembered. -/
def ViewMemory.empty : ViewMemory :=
  ⟨.empty, .empty⟩

/-- Everything that rendering looks at. -/
structure Scene where
  inspector : Inspector
  settings : Settings
  palette : Palette
  files : FileSystem
  highlighter : Highlighter

/-- The lines of a section, and what is remembered after it. -/
structure Block where
  lines : List String
  memory : ViewMemory

namespace Scene

/-- The register section. -/
def registersBlock (scene : Scene) (memory : ViewMemory) : Noted Block := do
  let lines ←
    renderRegisters scene.inspector scene.settings scene.palette memory.snapshot none
  return ⟨scene.palette.banner "registers" :: lines,
    { memory with snapshot := scene.inspector.snapshot }⟩

/-- Lines filled up with empty ones to a height. -/
def fillTo (height : Nat) (lines : List String) : List String :=
  lines ++ List.replicate (height - lines.length) ""

/-- Filling reaches the height and never cuts. -/
@[simp]
theorem length_fillTo (height : Nat) (lines : List String) :
    (fillTo height lines).length = max height lines.length := by
  simp only [fillTo, List.length_append, List.length_replicate]
  omega

/-- The disassembly section.  It keeps its height when few instructions are known. -/
def disasmLines (scene : Scene) : Noted (List String) := do
  let listing :=
    scene.inspector.programCounter.bind fun pc =>
      scene.inspector.disassemble pc (scene.settings.codeLines / 2) scene.settings.emulate
  let lines ←
    match listing with
    | .ok lines => pure lines
    | .error cause => ⟨[], [.disassemblyUnavailable cause]⟩
  return fillTo (scene.settings.codeLines + 2) (scene.palette.banner "disasm" :: lines)

/-- The section of call arguments.  Without arguments it has no heading either. -/
def argsLines (scene : Scene) : Noted (List String) :=
  match scene.inspector.programCounter.bind scene.inspector.callArguments with
  | .ok arguments =>
      pure (if arguments.isEmpty then [] else scene.palette.banner "arguments" :: arguments)
  | .error cause => ⟨[], [.argumentsUnavailable cause]⟩

/-- The stack section. -/
def stackLines (scene : Scene) : Noted (List String) := do
  let words :=
    scene.inspector.stackPointer.bind fun top =>
      scene.inspector.stackWindow top scene.settings.stackLines
  let lines ←
    match words with
    | .ok words => pure (if scene.settings.stackReverse then words.reverse else words)
    | .error cause => ⟨[], [.stackUnavailable cause]⟩
  return scene.palette.banner "stack" :: lines

/-- The place in the source text of the selected frame. -/
def currentLocation? (scene : Scene) : Option SourceLocation :=
  scene.inspector.selectedFrame.toOption.bind scene.inspector.sourceLocation

/-- The source lines around the current one, without a heading, and the cache
afterwards. -/
def sourceWindow (scene : Scene) (sources : SourceCache) :
    Noted (List String × SourceCache) :=
  match scene.currentLocation? with
  | none => pure ([], sources)
  | some location => do
      let answer ←
        sources.lines scene.files scene.highlighter ⟨location.file⟩
          scene.settings.syntaxHighlight
      match answer.lines with
      | .error cause => ⟨([], answer.cache), [.sourceUnavailable location.file cause]⟩
      | .ok source =>
          return (windowLines scene.settings scene.palette source location.line, answer.cache)

/-- The pseudocode at the program counter, with its heading. -/
def pseudocodeLines (scene : Scene) : Noted (List String) :=
  match scene.inspector.decompiler, scene.inspector.programCounter with
  | some decompile, .ok pc =>
      match decompile pc (scene.settings.sourceLines / 2) with
      | .ok (some code) =>
          pure
            (if (Text.trimChars code.toList).isEmpty then []
            else scene.palette.banner "Decompiled pseudocode" :: Text.lines code)
      | .ok none => pure []
      | .error cause => ⟨[], [.decompilerFailed pc cause]⟩
  | _, _ => pure []

/-- The headings of a source window. -/
def sourceHeading (scene : Scene) (location : SourceLocation) : List String :=
  [scene.palette.banner "Source (code)", "In file: " ++ location.file]

/-- The code section: source text if there is any, else pseudocode. -/
def codeBlock (scene : Scene) (memory : ViewMemory) : Noted Block := do
  let (window, sources) ← scene.sourceWindow memory.sources
  let memory := { memory with sources }
  match scene.currentLocation? with
  | some location =>
      if window.isEmpty then
        return ⟨← scene.pseudocodeLines, memory⟩
      else
        return ⟨scene.sourceHeading location ++ window, memory⟩
  | none => return ⟨← scene.pseudocodeLines, memory⟩

/-- The block of a section that leaves everything remembered as it is. -/
def plainBlock (memory : ViewMemory) (lines : Noted (List String)) : Noted Block :=
  ⟨⟨lines.value, memory⟩, lines.notices⟩

/-- The block of a section. -/
def block (scene : Scene) (part : Section) (memory : ViewMemory) : Noted Block :=
  match part with
  | .registers => scene.registersBlock memory
  | .disasm => plainBlock memory scene.disasmLines
  | .args => plainBlock memory scene.argsLines
  | .code => scene.codeBlock memory
  | .stack => plainBlock memory scene.stackLines
  | .backtrace =>
      plainBlock memory
        (renderBacktrace scene.inspector scene.settings scene.palette backtraceDepth true)

/-- The blocks of several sections, each rendered after those before it, and what is
remembered in the end. -/
def blocks (scene : Scene) : List Section → ViewMemory → Noted (List (List String) × ViewMemory)
  | [], memory => pure ([], memory)
  | part :: rest, memory => do
      let first ← scene.block part memory
      let (others, memory) ← scene.blocks rest first.memory
      return (first.lines :: others, memory)

/-- Every section has one block. -/
@[simp]
theorem length_blocks (scene : Scene) (parts : List Section) (memory : ViewMemory) :
    (scene.blocks parts memory).value.1.length = parts.length := by
  induction parts generalizing memory with
  | nil => simp [blocks]
  | cons part rest ih => simp [blocks, ih]

end Scene

end StopView
