import StopView.Failure
import StopView.Register.Layout

/-!
# Inspectors

An inspector answers questions about the inspected program.  It is a record of
answers: what can be asked, and for every question the answer or the reason why there
is none.  The view never changes an inspector, and it takes a failed answer for a
missing item.

The address of the current instruction and that of the top of the stack are held by two
registers, but an inspector may know them from elsewhere.
-/

namespace StopView

/-- The answers about an inspected program. -/
structure Inspector where
  alive : Bool
  layout : RegisterLayout
  flagRegisters : List FlagRegister
  knownRegisters : List String
  registerValue : String → Except Failure UInt64
  programCounter : Except Failure Address := (registerValue layout.pc).map Address.mk
  stackPointer : Except Failure Address := (registerValue layout.stack).map Address.mk
  selectedFrame : Except Failure FrameId
  framePc : FrameId → Except Failure Address
  olderFrame : FrameId → Except Failure (Option FrameId)
  newerFrame : FrameId → Except Failure (Option FrameId)
  rawSymbol : Address → Option String
  sourceLocation : FrameId → Option SourceLocation
  readWord : Address → Except Failure UInt64
  faultAddress : Except Failure (Option Address)
  hasExtension : String → Bool
  disassemble : Address → Nat → Bool → Except Failure (List String)
  callArguments : Address → Except Failure (List String)
  stackWindow : Address → Nat → Except Failure (List String)
  decompiler : Option (Address → Nat → Except Failure (Option String))

end StopView
