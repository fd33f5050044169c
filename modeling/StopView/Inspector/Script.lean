import StopView.Inspector

/-!
# Scripted inspectors

A script holds an inspected program as tables: registers, words of memory, symbols,
frames, and ready answers for everything else.  Its inspector looks the answers up.
-/

namespace StopView

/-- A link from one frame to the next: to another frame, to nowhere, or broken. -/
inductive FrameLink where
  | frame (target : FrameId)
  | chainEnd
  | broken
deriving Repr, DecidableEq

/-- What a script knows of one frame. -/
structure ScriptFrame where
  pc : Option Address
  older : FrameLink
  newer : FrameLink
  source : Option SourceLocation
deriving Repr, DecidableEq

/-- A ready answer in lines: fixed lines, a failure, or the question itself. -/
inductive LinesAnswer where
  | lines (lines : List String)
  | failing
  | echoing
deriving Repr, DecidableEq

/-- What a script's decompiler answers. -/
inductive CodeAnswer where
  | nothing
  | failing
  | echoing
  | code (text : String)
deriving Repr, DecidableEq

/-- What a script knows of the address that caused a fault. -/
inductive FaultAnswer where
  | unknown
  | failing
  | address (address : Address)
deriving Repr, DecidableEq

/-- An inspected program as tables. -/
structure Script where
  alive : Bool
  layout : RegisterLayout
  flags : Option (List FlagRegister)
  known : Option (List String)
  registers : List (String × UInt64)
  unreadable : List String
  memory : List (Address × UInt64)
  symbols : List (Address × String)
  frames : List (FrameId × ScriptFrame)
  selected : Option FrameId
  fault : FaultAnswer
  extensions : List String
  disassembly : LinesAnswer
  arguments : LinesAnswer
  stack : LinesAnswer
  decompiler : Option CodeAnswer
deriving Repr, DecidableEq

namespace Script

/-- A program that is alive and of which nothing else is known. -/
def blank : Script where
  alive := true
  layout := .x86
  flags := none
  known := none
  registers := []
  unreadable := []
  memory := []
  symbols := []
  frames := []
  selected := none
  fault := .unknown
  extensions := []
  disassembly := .lines []
  arguments := .lines []
  stack := .lines []
  decompiler := none

/-- Give the fixed lines, fail, or give the question back. -/
def answer (answer : LinesAnswer) (reason : String) (echo : List String) :
    Except Failure (List String) :=
  match answer with
  | .lines lines => .ok lines
  | .failing => .error (.backend reason)
  | .echoing => .ok echo

/-- Where a link leads. -/
def followLink : FrameLink → Except Failure (Option FrameId)
  | .frame target => .ok (some target)
  | .chainEnd => .ok none
  | .broken => .error (.backend "unwind failed")

/-- The link of a frame.  A frame that the script does not know is an end. -/
def link (script : Script) (side : ScriptFrame → FrameLink) (frame : FrameId) : FrameLink :=
  ((script.frames.lookup frame).map side).getD .chainEnd

/-- The value of a register. -/
def registerValue (script : Script) (name : String) : Except Failure UInt64 :=
  if script.unreadable.contains name then
    .error (.backend ("cannot read " ++ name))
  else
    match script.registers.lookup name with
    | some value => .ok value
    | none => .error (.unknownRegister name)

/-- The program counter of a frame. -/
def framePc (script : Script) (frame : FrameId) : Except Failure Address :=
  match (script.frames.lookup frame).bind ScriptFrame.pc with
  | some pc => .ok pc
  | none => .error (.backend ("no frame " ++ frame.text))

/-- A word of memory. -/
def readWord (script : Script) (address : Address) : Except Failure UInt64 :=
  match script.memory.lookup address with
  | some word => .ok word
  | none => .error (.backend ("cannot access memory at " ++ address.text))

/-- The address that caused a fault. -/
def faultAddress (script : Script) : Except Failure (Option Address) :=
  match script.fault with
  | .unknown => .ok none
  | .failing => .error (.backend "no siginfo")
  | .address address => .ok (some address)

/-- Truth values as they are written in answers. -/
def truthText (value : Bool) : String :=
  if value then "true" else "false"

/-- The instructions around an address. -/
def disassemble (script : Script) (address : Address) (count : Nat) (emulate : Bool) :
    Except Failure (List String) :=
  answer script.disassembly "cannot disassemble"
    ["disasm " ++ address.text ++ " lines=" ++ toString count ++ " emulate=" ++
      truthText emulate]

/-- The first stack words at an address. -/
def stackWindow (script : Script) (address : Address) (count : Nat) :
    Except Failure (List String) :=
  match script.stack with
  | .lines lines => .ok (lines.take count)
  | other =>
      answer other "cannot read stack" ["stack " ++ address.text, "count=" ++ toString count]

/-- The pseudocode at an address. -/
def decompile (code : CodeAnswer) (address : Address) (count : Nat) :
    Except Failure (Option String) :=
  match code with
  | .nothing => .ok none
  | .failing => .error (.backend "decompiler crashed")
  | .echoing => .ok (some ("decompile " ++ address.text ++ " lines=" ++ toString count))
  | .code text => .ok (some text)

/-- The inspector that answers from a script. -/
def inspector (script : Script) : Inspector where
  alive := script.alive
  layout := script.layout
  flagRegisters := script.flags.getD script.layout.flags
  knownRegisters :=
    script.known.getD (script.layout.readable (script.flags.getD script.layout.flags))
  registerValue := script.registerValue
  selectedFrame :=
    match script.selected with
    | some frame => .ok frame
    | none => .error (.backend "no stack")
  framePc := script.framePc
  olderFrame := fun frame => followLink (script.link ScriptFrame.older frame)
  newerFrame := fun frame => followLink (script.link ScriptFrame.newer frame)
  rawSymbol := fun address => script.symbols.lookup address
  sourceLocation := fun frame => (script.frames.lookup frame).bind ScriptFrame.source
  readWord := script.readWord
  faultAddress := script.faultAddress
  hasExtension := fun name => script.extensions.contains name
  disassemble := script.disassemble
  callArguments := fun address =>
    answer script.arguments "cannot read arguments" ["args " ++ address.text]
  stackWindow := script.stackWindow
  decompiler := script.decompiler.map decompile

end Script

end StopView
