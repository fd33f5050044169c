import StopView.Hex

/-!
# Addresses and frames

An address is one machine word.  It is a type of its own, so that it is not mixed
up with a register value or a count.  A frame is known only by the number that the
inspector gave it.
-/

namespace StopView

/-- An address in the inspected program. -/
structure Address where
  word : UInt64
deriving Repr, DecidableEq

namespace Address

/-- The short form, as in messages. -/
def text (address : Address) : String :=
  hex address.word.toNat

/-- The form of fixed width, as in columns. -/
def padded (address : Address) : String :=
  hexPadded 16 address.word.toNat

end Address

/-- A handle for one frame of the call chain. -/
structure FrameId where
  number : UInt64
deriving Repr, DecidableEq

/-- A frame as it is named in text. -/
def FrameId.text (frame : FrameId) : String :=
  "#" ++ toString frame.number.toNat

/-- A place in the source text: a file and a line, counted from one. -/
structure SourceLocation where
  file : String
  line : Nat
deriving Repr, DecidableEq

end StopView
