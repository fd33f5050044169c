import StopView.Address
import StopView.Palette
import StopView.Settings

/-!
# Source windows

A window shows the lines around the current one: half of the wanted number before it
and as many after it, as far as the file reaches.  Every line is numbered; the current
one is marked.
-/

namespace StopView

/-- A range of lines, counted from zero, without its end. -/
structure WindowBounds where
  start : Nat
  stop : Nat
deriving Repr, DecidableEq

/-- The lines around a line of a file.  Lines are counted from one, and line zero is
taken for the first. -/
def windowBounds (line total wanted : Nat) : WindowBounds :=
  let current := line - 1
  let stop := min (current + wanted / 2 + 1) total
  ⟨min (current - wanted / 2) stop, stop⟩

/-- A window is a range of the file's lines. -/
theorem windowBounds_le (line total wanted : Nat) :
    (windowBounds line total wanted).start ≤ (windowBounds line total wanted).stop ∧
      (windowBounds line total wanted).stop ≤ total := by
  simp only [windowBounds]
  omega

/-- A line number in a column. -/
def numberColumn (width number : Nat) : String :=
  Text.padLeft width ' ' (toString number)

/-- One line of a window. -/
def windowLine (settings : Settings) (palette : Palette) (width current number : Nat)
    (code : String) : String :=
  let marker :=
    if number = current then palette.paint .codeMarker settings.codeMarker
    else Text.blankLike settings.codeMarker
  let line := " " ++ marker ++ " " ++ numberColumn width number ++ " " ++ code
  if number = current ∧ settings.highlightSource then palette.paint .currentLine line else line

/-- The lines of a file's window around a line. -/
def windowLines (settings : Settings) (palette : Palette) (source : List String)
    (line : Nat) : List String :=
  let bounds := windowBounds line source.length settings.sourceLines
  let width := (toString bounds.stop).length
  ((source.take bounds.stop).drop bounds.start).mapIdx fun offset code =>
    windowLine settings palette width line (bounds.start + offset + 1) code

end StopView
