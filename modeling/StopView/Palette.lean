import StopView.Text.Column
import StopView.Text.Upper

/-!
# Palette

Every part of the view has a role, and every role has one style: at most one colour
and at most one kind of emphasis.  A palette without colour leaves text as it is; with
colour, text is put between the codes that switch its style on and the code that
switches it off again.

The palette also knows the width of the view, which banners fill.
-/

namespace StopView

/-- The colours of the view, all of them bright. -/
inductive Colour where
  | darkGrey
  | red
  | green
  | yellow
  | blue
  | magenta
  | cyan
  | white
deriving Repr, DecidableEq

/-- A colour's number in the table of 256 colours. -/
def Colour.code : Colour → Nat
  | .darkGrey => 8
  | .red => 9
  | .green => 10
  | .yellow => 11
  | .blue => 12
  | .magenta => 13
  | .cyan => 14
  | .white => 15

/-- The kinds of emphasis. -/
inductive Emphasis where
  | bold
  | underlined
deriving Repr, DecidableEq

/-- An emphasis's number. -/
def Emphasis.code : Emphasis → Nat
  | .bold => 1
  | .underlined => 4

/-- How a text looks. -/
structure Style where
  colour : Option Colour
  emphasis : Option Emphasis
deriving Repr, DecidableEq

/-- A sequence that changes how the text after it looks. -/
def graphicCode (parameters : String) : String :=
  "\x1b[" ++ parameters ++ "m"

namespace Style

/-- The codes that switch a style on: colour first, then emphasis. -/
def opening (style : Style) : String :=
  (match style.colour with
    | some colour => graphicCode ("38;5;" ++ toString colour.code)
    | none => "") ++
  (match style.emphasis with
    | some emphasis => graphicCode (toString emphasis.code)
    | none => "")

/-- The code that switches a style off.  An emphasis is only switched off together
with everything else. -/
def closing (style : Style) : String :=
  match style.emphasis with
  | some _ => graphicCode "0"
  | none => graphicCode "39"

/-- A text in a style. -/
def apply (style : Style) (text : String) : String :=
  style.opening ++ text ++ style.closing

end Style

/-- The parts of the view that have a look of their own. -/
inductive Role where
  | rule
  | title
  | stackMemory
  | heapMemory
  | codeMemory
  | dataMemory
  | writableCode
  | register
  | registerChanged
  | flagValue
  | flagSet
  | flagUnset
  | flagChanged
  | pointer
  | symbol
  | codeMarker
  | currentLine
  | backtraceMarker
  | frameLabel
  | frameAddress
  | exitMessage
  | signalMessage
  | breakpointMessage
deriving Repr, DecidableEq

/-- A style of one colour. -/
def coloured (colour : Colour) : Style :=
  ⟨some colour, none⟩

/-- A bold style of one colour. -/
def boldColoured (colour : Colour) : Style :=
  ⟨some colour, some .bold⟩

/-- The look of each part. -/
def Role.style : Role → Style
  | .rule => coloured .blue
  | .title => ⟨none, some .bold⟩
  | .stackMemory => coloured .yellow
  | .heapMemory => coloured .blue
  | .codeMemory => coloured .red
  | .dataMemory => coloured .magenta
  | .writableCode => ⟨none, some .underlined⟩
  | .register => ⟨none, some .bold⟩
  | .registerChanged => coloured .red
  | .flagValue => coloured .white
  | .flagSet => boldColoured .green
  | .flagUnset => coloured .darkGrey
  | .flagChanged => ⟨none, some .underlined⟩
  | .pointer => coloured .cyan
  | .symbol => coloured .yellow
  | .codeMarker => boldColoured .green
  | .currentLine => boldColoured .yellow
  | .backtraceMarker => boldColoured .green
  | .frameLabel => coloured .darkGrey
  | .frameAddress => coloured .cyan
  | .exitMessage => coloured .red
  | .signalMessage => boldColoured .red
  | .breakpointMessage => coloured .yellow

/-- How wide headings are: of a width that was settled once, or as wide as the terminal, which may
not tell. -/
inductive BannerWidth where
  | fixed (columns : Nat)
  | ofTerminal (answer : Option Nat)
deriving Repr, DecidableEq

namespace BannerWidth

instance : Coe Nat BannerWidth :=
  ⟨.fixed⟩

instance (columns : Nat) : OfNat BannerWidth columns :=
  ⟨.fixed columns⟩

/-- The width where the terminal does not tell. -/
def usual : Nat := 80

/-- How many columns headings fill. -/
def columns : BannerWidth → Nat
  | .fixed columns => max columns 1
  | .ofTerminal answer => max (answer.getD usual) 1

/-- The width once the terminal answers otherwise. -/
def resized (width : BannerWidth) (answer : Option Nat) : BannerWidth :=
  match width with
  | .fixed columns => .fixed columns
  | .ofTerminal _ => .ofTerminal answer

end BannerWidth

/-- Whether the view has colour, and how wide it is. -/
structure Palette where
  colour : Bool
  width : Nat
deriving Repr, DecidableEq

namespace Palette

/-- A text as a part of the view. -/
def paint (palette : Palette) (role : Role) (text : String) : String :=
  if palette.colour then role.style.apply text else text

@[simp]
theorem paint_plain (width : Nat) (role : Role) (text : String) :
    (Palette.mk false width).paint role text = text :=
  rfl

/-- A horizontal rule. -/
def rule (palette : Palette) (length : Nat) : String :=
  palette.paint .rule (Text.repeated length '─')

/-- A section's heading: its title in the middle of a rule.  Without a title it is a
plain rule.  When the rule cannot be split evenly, its right part is longer. -/
def banner (palette : Palette) (title : String) : String :=
  if Text.upper title = "" then
    palette.rule palette.width
  else
    let label := "[ " ++ Text.upper title ++ " ]"
    let fill := palette.width - label.length
    palette.rule (fill / 2) ++ palette.paint .title label ++ palette.rule (fill - fill / 2)

/-- The line that explains the colours of the view. -/
def legend (palette : Palette) : String :=
  "LEGEND: " ++ " | ".intercalate
    [palette.paint .stackMemory "STACK", palette.paint .heapMemory "HEAP",
      palette.paint .codeMemory "CODE", palette.paint .dataMemory "DATA",
      palette.paint .writableCode "RWX", "RODATA"]

end Palette

end StopView
