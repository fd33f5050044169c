import StopView.Proofs.Delivery.Calls
import StopView.Proofs.Source.Kept
import StopView.Proofs.Text.Lines

/-!
# Delivered files as source files

A batch is written as text and a source file is read as lines.  What is delivered to a file and
read as source comes back line by line, trimmed at the ends, and from then on unchanged.
-/

namespace StopView

/-- A path opens a file for writing, one that is there or a new one, and no device. -/
def FileSystem.OpensFile (files : FileSystem) (path : Path) : Prop :=
  ∃ place, files.writePlace path = .ok place ∧
    ∀ device, files.entryAt place ≠ some (.device device)

theorem FileSystem.SameTree.opensFile_iff {before after : FileSystem}
    (same : SameTree before after) {path : Path} :
    after.OpensFile path ↔ before.OpensFile path := by
  simp only [OpensFile, same.writePlace_eq_ok_iff, ne_eq, same.device]

namespace World

variable {world : World} {path : Path}

theorem deliver_path_again {lines others : List String} {clear again : Bool}
    (done : (world.deliver (.path path) lines clear).2 = .ok ())
    (many : others.isEmpty = lines.isEmpty) :
    ((world.deliver (.path path) lines clear).1.deliver (.path path) others again).2 = .ok () := by
  have same := world.sameTree_deliver (.path path) lines clear
  have moods : (world.deliver (.path path) lines clear).1.files.moods = world.files.moods :=
    world.files.moods_overwrite path (joinLines lines).toUTF8
  rw [deliver, deliverPath_eq_ok_iff, FileSystem.overwrite_eq_ok_iff] at done ⊢
  obtain ⟨place, opens, takes⟩ := done
  refine ⟨place, same.openPlace_eq_ok_iff.mpr opens, ?_⟩
  rwa [same.takesAll_iff moods, isEmpty_toUTF8_joinLines, many, ← isEmpty_toUTF8_joinLines]

theorem read_deliver (opens : world.files.OpensFile path) {lines : List String} {clear : Bool}
    (done : (world.deliver (.path path) lines clear).2 = .ok ()) :
    (world.deliver (.path path) lines clear).1.files.read path = .ok (joinLines lines).toUTF8 := by
  obtain ⟨place, opened, file⟩ := opens
  rw [deliver, deliverPath_eq_ok_iff] at done
  obtain ⟨found, opensFound, _⟩ := FileSystem.overwrite_eq_ok_iff.mp done
  have same : found = place :=
    Except.ok.inj ((FileSystem.openPlace_eq_ok_iff.mp opensFound).2.symm.trans opened)
  subst same
  exact FileSystem.read_overwrite opensFound file done

/-- The lines of a file, read through a cache that has nothing yet and without highlighting. -/
def readLines (world : World) (highlighter : Highlighter) (path : Path) :
    Except Failure (List String) :=
  (SourceCache.empty.lines world.files highlighter path false).value.lines

/-- Lines that were delivered to a file are read back from it, trimmed at their ends. -/
theorem readLines_deliver (opens : world.files.OpensFile path) {lines : List String}
    (oneLine : ∀ line ∈ lines, '\n' ∉ line.toList) {clear : Bool}
    (done : (world.deliver (.path path) lines clear).2 = .ok ()) (highlighter : Highlighter) :
    (world.deliver (.path path) lines clear).1.readLines highlighter path =
      .ok (lines.map Text.trimEnd) := by
  have found : SourceCache.empty.find? path = none := rfl
  have kept : SourceCache.linesOfBytes highlighter path false (joinLines lines).toUTF8 =
      lines.map Text.trimEnd := by
    rw [← Text.map_trimEnd_lines_joinLines oneLine, SourceCache.linesOfBytes,
      Text.decodeLossy_toUTF8]
    rfl
  rw [readLines, SourceCache.lines, found, read_deliver opens done, ← kept]

/-- Lines without line feeds that were delivered to a file are read back from it as they were
delivered, but for the blanks at their ends.  What is read can be delivered to the file again, and
is then read back unchanged. -/
theorem delivered_lines_are_read_back (world : World) (path : Path)
    (opens : world.files.OpensFile path) (lines : List String)
    (oneLine : ∀ line ∈ lines, '\n' ∉ line.toList) (clear : Bool)
    (done : (world.deliver (.path path) lines clear).2 = .ok ()) (highlighter : Highlighter) :
    let first := (world.deliver (.path path) lines clear).1
    let read := lines.map Text.trimEnd
    first.readLines highlighter path = .ok read ∧
      ∀ clearAgain,
        let second := first.deliver (.path path) read clearAgain
        second.2 = .ok () ∧ second.1.readLines highlighter path = .ok read := by
  intro first read
  refine ⟨readLines_deliver opens oneLine done highlighter, ?_⟩
  intro clearAgain second
  have same := world.sameTree_deliver (.path path) lines clear
  have opensAgain : first.files.OpensFile path := same.opensFile_iff.mpr opens
  have doneAgain : second.2 = .ok () := deliver_path_again done List.isEmpty_map
  have stillOneLine : ∀ line ∈ read, '\n' ∉ line.toList := by
    intro line listed
    obtain ⟨whole, wholeMem, rfl⟩ := List.mem_map.mp listed
    rw [Text.toList_trimEnd]
    exact fun there => oneLine whole wholeMem (Text.trimEndChars_subset whole.toList there)
  have unchanged : read.map Text.trimEnd = read := by
    rw [List.map_map]
    exact List.map_congr_left fun line _ => Text.trimEnd_trimEnd line
  have readAgain := readLines_deliver opensAgain stillOneLine doneAgain highlighter
  rw [unchanged] at readAgain
  exact ⟨doneAgain, readAgain⟩

/-- Carriage returns and blanks of all kinds go from the ends of lines, empty lines and the blanks
inside and in front stay. -/
theorem blanks_at_ends_are_not_read_back :
    let world : World := ⟨.initial, .fresh, none⟩
    let path : Path := ⟨"pane"⟩
    let lines := ["", "a\r", " b c \u3000", "\u00e9\u2003\r\r", "\t"]
    let first := (world.deliver (.path path) lines false).1
    let read := ["", "a", " b c", "\u00e9", ""]
    world.files.OpensFile path ∧ (world.deliver (.path path) lines false).2 = .ok () ∧
      first.readLines plainHighlighter path = .ok read ∧
      (first.deliver (.path path) read false).1.readLines plainHighlighter path = .ok read := by
  intro world path lines first read
  have opens : world.files.OpensFile path := ⟨["work", "pane"], by decide, nofun⟩
  have done : (world.deliver (.path path) lines false).2 = .ok () := by decide +kernel
  have oneLine : ∀ line ∈ lines, '\n' ∉ line.toList := by decide
  have trimmed : lines.map Text.trimEnd = read := by decide
  have both := delivered_lines_are_read_back world path opens lines oneLine false done
    plainHighlighter
  rw [trimmed] at both
  exact ⟨opens, done, both.1, (both.2 false).2⟩

end World

end StopView
