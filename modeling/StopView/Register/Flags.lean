import StopView.Hex
import StopView.Palette
import StopView.Register.Layout
import StopView.Text.Lower

/-!
# Flag registers

A flag register is shown as its value and the names of its bits: in upper case when
the bit is set, in lower case when it is clear, and underlined when the value before
had the bit the other way.
-/

namespace StopView

/-- Whether a bit of a word is set. -/
def bitSet (word : UInt64) (position : Nat) : Bool :=
  word.toNat.testBit position

/-- Whether a bit differs from the last value, if there is one. -/
def bitFlipped (value : UInt64) (last : Option UInt64) (position : Nat) : Bool :=
  match last with
  | some last => bitSet last position != bitSet value position
  | none => false

/-- One bit of a flag register as it is shown. -/
def flagToken (palette : Palette) (value : UInt64) (last : Option UInt64) (bit : FlagBit) :
    String :=
  let name :=
    if bitSet value bit.position then palette.paint .flagSet (Text.upper bit.name)
    else palette.paint .flagUnset (Text.lower bit.name)
  if bitFlipped value last bit.position then palette.paint .flagChanged name else name

/-- A flag register as it is shown. -/
def describeFlags (palette : Palette) (value : UInt64) (register : FlagRegister)
    (last : Option UInt64) : String :=
  let shown := palette.paint .flagValue (hex value.toNat)
  if register.bits.isEmpty then
    shown
  else
    shown ++ " [ " ++ " ".intercalate (register.bits.map (flagToken palette value last)) ++ " ]"

end StopView
