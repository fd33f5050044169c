import StopView.Proofs.Text.Trim
import StopView.Proofs.Text.Words
import StopView.Text.Utf8
import StopView.World

/-!
# Lines that are joined and cut again

Lines are joined with a line feed behind each and cut at line feeds.  Cutting takes a carriage
return in front of a line feed for a part of the line's end, so that what comes back differs from
what was joined, but not when both are trimmed at their ends.
-/

namespace StopView.Text

theorem trimEndChars_dropReturn (line : List Char) :
    trimEndChars (dropReturn line) = trimEndChars line := by
  rw [dropReturn]
  split
  · rename_i ends
    have blank : ∀ c ∈ ['\r'], isBlank c = true := List.all_eq_true.mp (by decide)
    conv_rhs => rw [← List.dropLast_append_getLast? '\r' ends]
    exact (trimEndChars_append_of_blank line.dropLast blank).symm
  · rfl

/-- The first of several lines ends at the first line feed. -/
theorem lineChars_append_lineFeed {line : List Char} (oneLine : '\n' ∉ line)
    (rest : List Char) : lineChars (line ++ '\n' :: rest) = dropReturn line :: lineChars rest := by
  have kept : ∀ c ∈ line, (c == '\n') = false := by
    intro c listed
    apply beq_false_of_ne
    rintro rfl
    exact oneLine listed
  have parted : pieces (· == '\n') (line ++ '\n' :: rest) = line :: pieces (· == '\n') rest := by
    simp only [pieces_eq_splitOnP]
    rw [List.splitOnP_append_cons line rest (by decide), List.splitOnP_eq_singleton kept]
    rfl
  rw [lineChars, lineChars, parted]
  -- There is a piece behind the line feed, though it may be empty.
  cases behind : pieces (· == '\n') rest with
  | nil => exact absurd behind (pieces_ne_nil _ rest)
  | cons next others => rfl

/-- Lines come back from being joined as they were, a carriage return at their ends apart. -/
theorem lines_joinLines {joined : List String} (oneLine : ∀ line ∈ joined, '\n' ∉ line.toList) :
    lines (joinLines joined) = joined.map fun line => .ofList (dropReturn line.toList) := by
  induction joined with
  | nil => rfl
  | cons line rest ih =>
      obtain ⟨first, others⟩ := List.forall_mem_cons.mp oneLine
      have chars : (joinLines (line :: rest)).toList =
          line.toList ++ '\n' :: (joinLines rest).toList := by
        rw [joinLines_cons, String.toList_append, String.toList_append, List.append_assoc]
        rfl
      rw [List.map_cons, ← ih others, lines, chars, lineChars_append_lineFeed first, List.map_cons]
      rfl

/-- Trimmed at their ends, the lines that come back are those that were joined. -/
theorem map_trimEnd_lines_joinLines {joined : List String}
    (oneLine : ∀ line ∈ joined, '\n' ∉ line.toList) :
    (lines (joinLines joined)).map trimEnd = joined.map trimEnd := by
  rw [lines_joinLines oneLine, List.map_map]
  apply List.map_congr_left
  intro line listed
  rw [Function.comp_apply, trimEnd, trimEnd, String.toList_ofList, trimEndChars_dropReturn]

theorem trimEnd_trimEnd (text : String) : trimEnd (trimEnd text) = trimEnd text := by
  rw [trimEnd, toList_trimEnd, trimEndChars_trimEndChars, trimEnd]

theorem decodeLossy_toUTF8 (text : String) : decodeLossy text.toUTF8 = text := by
  have decoded : String.fromUTF8? text.toUTF8 = some text := by
    simp only [String.fromUTF8?, String.toUTF8_eq_toByteArray, dif_pos text.isValidUTF8]
    rfl
  rw [decodeLossy, decoded]

end StopView.Text
