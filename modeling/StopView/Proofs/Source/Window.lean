import Mathlib.Data.List.Basic
import Mathlib.Data.List.Count
import StopView.Source.Window

/-!
# What a window shows

The lines of a window are the lines of the file that are within reach of the current one,
in their order.  In front of each stands the same number of characters, so that the source
text of all of them begins in one column, and only in front of the current one stands the
marker.
-/

namespace StopView

/-- Whether a line of a file, counted from zero, is at most half of the wanted number of
lines away from the current one, which is counted from one.  Line zero is taken for the
first. -/
def InReach (line wanted index : Nat) : Prop :=
  ((index : Int) - (max line 1 - 1 : Nat)).natAbs ≤ wanted / 2

instance (line wanted index : Nat) : Decidable (InReach line wanted index) :=
  inferInstanceAs (Decidable (_ ≤ _))

/-! ## The range of lines -/

section Bounds

variable (line total wanted : Nat)

/-- The lines of a window are those of the file that are within reach. -/
theorem mem_windowBounds_iff (index : Nat) :
    (windowBounds line total wanted).start ≤ index ∧
        index < (windowBounds line total wanted).stop ↔
      index < total ∧ InReach line wanted index := by
  simp only [windowBounds, InReach]
  omega

theorem windowBounds_empty_iff :
    (windowBounds line total wanted).start = (windowBounds line total wanted).stop ↔
      total + wanted / 2 < line ∨ total = 0 := by
  simp only [windowBounds]
  omega

end Bounds

/-! ## The lines of the file that are shown -/

theorem eq_take_append_drop_append {α : Type} (items : List α) {start stop : Nat}
    (ordered : start ≤ stop) :
    items = items.take start ++ ((items.take stop).drop start ++ items.drop stop) := by
  have first : (items.take stop).take start = items.take start := by
    rw [List.take_take, Nat.min_eq_left ordered]
  rw [← List.append_assoc, ← first, List.take_append_drop, List.take_append_drop]

/-- Between two places of a list stand the items that are numbered with these places. -/
theorem zipIdx_drop_take {α : Type} (items : List α) {start stop : Nat} (ordered : start ≤ stop)
    (inside : stop ≤ items.length) :
    ((items.take stop).drop start).zipIdx start =
      items.zipIdx.filter fun item => start ≤ item.2 ∧ item.2 < stop := by
  have before : (items.take start).length = start := by
    rw [List.length_take]
    omega
  have within : ((items.take stop).drop start).length = stop - start := by
    rw [List.length_drop, List.length_take]
    omega
  conv_rhs => rw [eq_take_append_drop_append items ordered, List.zipIdx_append,
    List.zipIdx_append, before, within, List.filter_append, List.filter_append]
  -- Only the middle one of the three parts has its numbers in the range.
  have noneBefore : (items.take start).zipIdx.filter
      (fun item => decide (start ≤ item.2 ∧ item.2 < stop)) = [] := by
    rw [List.filter_eq_nil_iff]
    rintro ⟨item, place⟩ listed
    obtain ⟨-, upper, -⟩ := List.mem_zipIdx listed
    simp only [decide_eq_true_eq]
    omega
  have noneBehind : ((items.drop stop).zipIdx (0 + start + (stop - start))).filter
      (fun item => decide (start ≤ item.2 ∧ item.2 < stop)) = [] := by
    rw [List.filter_eq_nil_iff]
    rintro ⟨item, place⟩ listed
    obtain ⟨lower, -, -⟩ := List.mem_zipIdx listed
    simp only [decide_eq_true_eq]
    omega
  have allWithin : (((items.take stop).drop start).zipIdx (0 + start)).filter
      (fun item => decide (start ≤ item.2 ∧ item.2 < stop)) =
        ((items.take stop).drop start).zipIdx start := by
    rw [Nat.zero_add, List.filter_eq_self]
    rintro ⟨item, place⟩ listed
    obtain ⟨lower, upper, -⟩ := List.mem_zipIdx listed
    simp only [decide_eq_true_eq]
    omega
  rw [noneBefore, noneBehind, allWithin, List.nil_append, List.append_nil]

/-- The lines of a file that are within reach, numbered from zero. -/
def linesInReach (source : List String) (line wanted : Nat) : List (String × Nat) :=
  source.zipIdx.filter fun item => InReach line wanted item.2

/-- A window has one line for each line of the file that is within reach. -/
theorem windowLines_eq_map (settings : Settings) (palette : Palette) (source : List String)
    (line : Nat) :
    windowLines settings palette source line =
      (linesInReach source line settings.sourceLines).map fun item =>
        windowLine settings palette
          (toString (windowBounds line source.length settings.sourceLines).stop).length
          line (item.2 + 1) item.1 := by
  obtain ⟨ordered, inside⟩ := windowBounds_le line source.length settings.sourceLines
  have shown : linesInReach source line settings.sourceLines =
      ((source.take (windowBounds line source.length settings.sourceLines).stop).drop
        (windowBounds line source.length settings.sourceLines).start).zipIdx
          (windowBounds line source.length settings.sourceLines).start := by
    rw [zipIdx_drop_take source ordered inside, linesInReach]
    apply List.filter_congr
    rintro ⟨text, place⟩ listed
    obtain ⟨-, upper, -⟩ := List.mem_zipIdx listed
    apply decide_eq_decide.mpr
    rw [mem_windowBounds_iff]
    constructor
    · intro near
      exact ⟨by omega, near⟩
    · exact And.right
  rw [windowLines, shown, List.zipIdx_eq_map_add, List.map_map, List.mapIdx_eq_zipIdx_map]
  rfl

/-! ## Columns -/

theorem length_toString_le {small large : Nat} (ordered : small ≤ large) :
    (toString small).length ≤ (toString large).length := by
  rw [Nat.toString_eq_ofList_toDigits, Nat.toString_eq_ofList_toDigits, String.length_ofList,
    String.length_ofList]
  have bounded : large < 10 ^ (Nat.toDigits 10 large).length :=
    (Nat.length_toDigits_le_iff (by decide) Nat.length_toDigits_pos).mp (Nat.le_refl _)
  exact (Nat.length_toDigits_le_iff (by decide) Nat.length_toDigits_pos).mpr
    (Nat.lt_of_le_of_lt ordered bounded)

/-- What stands in front of the source text in a line of a window without colour. -/
def windowHead (settings : Settings) (width line index : Nat) : String :=
  " " ++ (if index + 1 = line then settings.codeMarker else Text.blankLike settings.codeMarker) ++
    " " ++ numberColumn width (index + 1) ++ " "

theorem windowLine_plain (settings : Settings) (columns width line index : Nat) (code : String) :
    windowLine settings ⟨false, columns⟩ width line (index + 1) code =
      windowHead settings width line index ++ code := by
  simp only [windowLine, windowHead, Palette.paint_plain, ite_self]

theorem windowLines_plain (settings : Settings) (columns : Nat) (source : List String)
    (line : Nat) :
    windowLines settings ⟨false, columns⟩ source line =
      (linesInReach source line settings.sourceLines).map fun item =>
        windowHead settings
          (toString (windowBounds line source.length settings.sourceLines).stop).length
          line item.2 ++ item.1 := by
  rw [windowLines_eq_map]
  simp only [windowLine_plain]

theorem length_number_le {source : List String} {line wanted : Nat} {item : String × Nat}
    (listed : item ∈ linesInReach source line wanted) :
    (toString (item.2 + 1)).length ≤
      (toString (windowBounds line source.length wanted).stop).length := by
  obtain ⟨numbered, near⟩ := List.mem_filter.mp listed
  obtain ⟨-, bound, -⟩ := List.mem_zipIdx numbered
  have inside := (mem_windowBounds_iff line source.length wanted item.2).mpr
    ⟨by omega, of_decide_eq_true near⟩
  exact length_toString_le inside.2

theorem length_windowHead (settings : Settings) {width line index : Nat}
    (fits : (toString (index + 1)).length ≤ width) :
    (windowHead settings width line index).length = settings.codeMarker.length + width + 3 := by
  have marker : (if index + 1 = line then settings.codeMarker
      else Text.blankLike settings.codeMarker).length = settings.codeMarker.length := by
    split
    · rfl
    · exact Text.length_blankLike _
  have number : (numberColumn width (index + 1)).length = width := by
    rw [numberColumn, Text.length_padLeft]
    omega
  rw [windowHead, String.length_append, String.length_append, String.length_append,
    String.length_append, marker, number]
  simp only [show " ".length = 1 from rfl]
  omega

/-! ## The marker -/

/-- Whether a line of a window has the marker in the column of the markers. -/
def ShowsMarker (settings : Settings) (text : String) : Prop :=
  (text.toList.drop 1).take settings.codeMarker.length = settings.codeMarker.toList

instance (settings : Settings) (text : String) : Decidable (ShowsMarker settings text) :=
  inferInstanceAs (Decidable (_ = _))

/-- The marker is seen in front of the current line, or everywhere if it is blank. -/
theorem showsMarker_windowHead_iff (settings : Settings) (width line index : Nat)
    (code : String) :
    ShowsMarker settings (windowHead settings width line index ++ code) ↔
      index + 1 = line ∨ Text.blankLike settings.codeMarker = settings.codeMarker := by
  have shown : ShowsMarker settings (windowHead settings width line index ++ code) ↔
      (if index + 1 = line then settings.codeMarker
        else Text.blankLike settings.codeMarker) = settings.codeMarker := by
    generalize marked : (if index + 1 = line then settings.codeMarker
      else Text.blankLike settings.codeMarker) = marker
    have long : marker.toList.length = settings.codeMarker.length := by
      rw [← marked, String.length_toList]
      split
      · rfl
      · exact Text.length_blankLike _
    rw [ShowsMarker, windowHead, marked]
    simp only [String.toList_append, show " ".toList = [' '] from rfl, List.nil_append,
      List.cons_append, List.append_assoc, List.drop_succ_cons, List.drop_zero]
    rw [List.take_left' long, String.toList_inj]
  rw [shown]
  by_cases current : index + 1 = line
  · simp only [current, if_true, true_or]
  · simp only [current, if_false, false_or]

/-- The current line is within reach once if the file has it. -/
theorem countP_current_linesInReach (source : List String) (line wanted : Nat) :
    ((linesInReach source line wanted).countP fun item => item.2 + 1 = line) =
      if 1 ≤ line ∧ line ≤ source.length then 1 else 0 := by
  have near : ∀ item : String × Nat,
      (decide (item.2 + 1 = line) && decide (InReach line wanted item.2)) =
        (item.2 + 1 == line) := by
    rintro ⟨text, place⟩
    by_cases current : place + 1 = line
    · have reached : InReach line wanted place := by
        rw [InReach]
        omega
      simp [current, reached]
    · simp [current]
  calc
    ((linesInReach source line wanted).countP fun item => item.2 + 1 = line) =
        source.zipIdx.countP fun item => item.2 + 1 == line := by
      rw [linesInReach, List.countP_filter]
      simp only [near]
    _ = ((source.zipIdx.map Prod.snd).map (· + 1)).count line := by
      rw [List.count_eq_countP, List.countP_map, List.countP_map]
      rfl
    _ = (List.range' 1 source.length).count line := by
      rw [List.zipIdx_map_snd, ← List.range'_succ_left]
    _ = _ := by
      rw [(List.nodup_range' 1).count]
      simp only [List.mem_range'_1, Nat.add_comm 1, Nat.lt_succ_iff]

/-- The marker is seen once if the file has the current line, and else never.  A blank marker
looks as its absence does. -/
theorem countP_showsMarker (settings : Settings) (columns : Nat) (source : List String)
    (line : Nat) :
    (windowLines settings ⟨false, columns⟩ source line).countP (ShowsMarker settings ·) =
      if Text.blankLike settings.codeMarker = settings.codeMarker then
        (windowLines settings ⟨false, columns⟩ source line).length
      else if 1 ≤ line ∧ line ≤ source.length then 1 else 0 := by
  rw [windowLines_plain, List.countP_map, List.length_map]
  simp only [Function.comp_def, showsMarker_windowHead_iff]
  by_cases blank : Text.blankLike settings.codeMarker = settings.codeMarker
  · simp only [blank, or_true, decide_true, if_true, List.countP_true]
  · simp only [blank, or_false, if_false]
    exact countP_current_linesInReach source line settings.sourceLines

/-! ## The main result -/

/-- A window without colour.  Its range is that of the file's lines that are at most half of
the wanted number away from the current one, and it is empty only for an empty file or a line
too far behind the end.  There is one line for each of them, in order: its text as it is,
behind a head with its number, which is equally long in all lines.  The marker is in the head
of the current line and of no other, so one that is not blank is seen once if the file has
that line, and else never.  All numbers are exact, whatever their size. -/
theorem window_shows_lines_in_reach (settings : Settings) (columns : Nat)
    (source : List String) (line : Nat) :
    let wanted := settings.sourceLines
    let total := source.length
    let bounds := windowBounds line total wanted
    let digits := (toString bounds.stop).length
    let shown := windowLines settings ⟨false, columns⟩ source line
    (bounds.start ≤ bounds.stop ∧ bounds.stop ≤ total) ∧
      (∀ index, bounds.start ≤ index ∧ index < bounds.stop ↔
        index < total ∧ ((index : Int) - (max line 1 - 1 : Nat)).natAbs ≤ wanted / 2) ∧
      (bounds.start = bounds.stop ↔ total + wanted / 2 < line ∨ total = 0) ∧
      shown = (linesInReach source line wanted).map (fun item =>
        " " ++ (if item.2 + 1 = line then settings.codeMarker
          else Text.blankLike settings.codeMarker) ++
          " " ++ Text.padLeft digits ' ' (toString (item.2 + 1)) ++ " " ++ item.1) ∧
      (∀ item ∈ linesInReach source line wanted,
        (" " ++ (if item.2 + 1 = line then settings.codeMarker
          else Text.blankLike settings.codeMarker) ++
          " " ++ Text.padLeft digits ' ' (toString (item.2 + 1)) ++ " ").length =
            settings.codeMarker.length + digits + 3) ∧
      ((linesInReach source line wanted).countP fun item => item.2 + 1 = line) =
        (if 1 ≤ line ∧ line ≤ total then 1 else 0) ∧
      shown.countP (ShowsMarker settings ·) =
        if Text.blankLike settings.codeMarker = settings.codeMarker then shown.length
        else if 1 ≤ line ∧ line ≤ total then 1 else 0 := by
  intro wanted total bounds digits shown
  constructor
  · exact windowBounds_le line total wanted
  constructor
  · exact mem_windowBounds_iff line total wanted
  constructor
  · exact windowBounds_empty_iff line total wanted
  constructor
  · exact windowLines_plain settings columns source line
  constructor
  · rintro ⟨text, index⟩ listed
    exact length_windowHead settings (length_number_le listed)
  constructor
  · exact countP_current_linesInReach source line wanted
  · exact countP_showsMarker settings columns source line

example :
    windowLines { Settings.initial with sourceLines := 2 } ⟨false, 20⟩
      ["a", "b", "c", "d", "e", "f", "g", "h", "i", "j", "k"] 10 =
        ["    9 i", " ► 10 j", "   11 k"] := by
  decide +kernel

end StopView
