/-!
# Columns

Columns are counted in code points.  Text that is already wide enough is not cut.
-/

namespace StopView.Text

/-- A row of equal characters. -/
def repeated (count : Nat) (c : Char) : String :=
  String.ofList (List.replicate count c)

/-- As many spaces as a text has code points. -/
def blankLike (text : String) : String :=
  repeated text.length ' '

/-- A text followed by spaces up to a width. -/
def padRight (width : Nat) (text : String) : String :=
  text ++ repeated (width - text.length) ' '

/-- A text preceded by a filling character up to a width. -/
def padLeft (width : Nat) (fill : Char) (text : String) : String :=
  repeated (width - text.length) fill ++ text

@[simp]
theorem length_repeated (count : Nat) (c : Char) : (repeated count c).length = count := by
  simp [repeated]

@[simp]
theorem length_blankLike (text : String) : (blankLike text).length = text.length := by
  simp [blankLike]

/-- Padding reaches the width and never cuts. -/
theorem length_padRight (width : Nat) (text : String) :
    (padRight width text).length = max width text.length := by
  simp [padRight]
  omega

/-- Padding reaches the width and never cuts. -/
theorem length_padLeft (width : Nat) (fill : Char) (text : String) :
    (padLeft width fill text).length = max width text.length := by
  simp [padLeft]
  omega

end StopView.Text
