import StopView.Destination
import StopView.Section

/-!
# Settings

Everything that a user can change about the view: what is shown, how much of it, how
it is marked, and where it goes.
-/

namespace StopView

/-- Where each section's lines go. -/
structure SectionOutputs where
  registers : SectionOutput
  disasm : SectionOutput
  args : SectionOutput
  code : SectionOutput
  stack : SectionOutput
  backtrace : SectionOutput
deriving Repr, DecidableEq

namespace SectionOutputs

/-- Every section in the main batch. -/
def together : SectionOutputs :=
  ⟨.noSplit, .noSplit, .noSplit, .noSplit, .noSplit, .noSplit⟩

/-- Where one section's lines go. -/
def get (outputs : SectionOutputs) : Section → SectionOutput
  | .registers => outputs.registers
  | .disasm => outputs.disasm
  | .args => outputs.args
  | .code => outputs.code
  | .stack => outputs.stack
  | .backtrace => outputs.backtrace

/-- Send one section's lines elsewhere. -/
def set (outputs : SectionOutputs) (part : Section) (output : SectionOutput) : SectionOutputs :=
  match part with
  | .registers => { outputs with registers := output }
  | .disasm => { outputs with disasm := output }
  | .args => { outputs with args := output }
  | .code => { outputs with code := output }
  | .stack => { outputs with stack := output }
  | .backtrace => { outputs with backtrace := output }

/-- Only the section that is set changes. -/
theorem get_set (outputs : SectionOutputs) (part other : Section) (output : SectionOutput) :
    (outputs.set part output).get other = if other = part then output else outputs.get other := by
  cases part <;> cases other <;> rfl

end SectionOutputs

/-- The settings of the view. -/
structure Settings where
  clearScreen : Bool
  output : Destination
  sectionOutputs : SectionOutputs
  stackReverse : Bool
  sections : List Section
  showFlags : Bool
  showReturnAddress : Bool
  codeLines : Nat
  sourceLines : Nat
  stackLines : Nat
  highlightSource : Bool
  syntaxHighlight : Bool
  emulate : Bool
  codeMarker : String
  backtraceMarker : String
  frameLabel : String
  changedMarker : String
  colour : Bool
deriving Repr, DecidableEq

namespace Settings

/-- The settings of a view that nobody has changed. -/
def initial : Settings where
  clearScreen := false
  output := .primary
  sectionOutputs := .together
  stackReverse := false
  sections := [.registers, .disasm, .code, .stack, .backtrace]
  showFlags := false
  showReturnAddress := false
  codeLines := 10
  sourceLines := 10
  stackLines := 8
  highlightSource := true
  syntaxHighlight := true
  emulate := true
  codeMarker := "►"
  backtraceMarker := "►"
  frameLabel := "f "
  changedMarker := "*"
  colour := true

/-- Where the lines of a key's section go.  A key without a section is never split. -/
def outputFor (settings : Settings) : SectionKey → SectionOutput
  | .known part => settings.sectionOutputs.get part
  | .unknown _ => .noSplit

/-- Send the lines of a key's section elsewhere.  A key without a section changes
nothing. -/
def setOutputFor (settings : Settings) (key : SectionKey) (output : SectionOutput) : Settings :=
  match key with
  | .known part => { settings with sectionOutputs := settings.sectionOutputs.set part output }
  | .unknown _ => settings

end Settings

end StopView
