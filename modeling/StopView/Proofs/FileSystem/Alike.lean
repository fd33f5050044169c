import StopView.Proofs.FileSystem.ReadBack

/-!
# Files that differ where something was written

Two file systems are alike if they have the same entries, except that at some places their
files may hold different bytes.  Where a path leads does not depend on what files hold, so
paths lead to the same places in both.  A file elsewhere reads the same, and whether something
can be written depends at most on whether it is empty.
-/

namespace StopView

/-- An entry without what its file holds. -/
def Entry.emptied : Entry → Entry
  | .file _ => .file ByteArray.empty
  | .directory => .directory
  | .device which => .device which

/-- Whether a file takes everything depends at most on whether that is anything. -/
theorem FileMood.outcome_congr (mood : FileMood) {content other : ByteArray}
    (empty : content.isEmpty = other.isEmpty) : mood.outcome content = mood.outcome other := by
  cases mood with
  | accepting => rfl
  | refusing taken cause => rw [outcome, outcome, empty]

namespace FileSystem

/-- The same entries in both file systems, but for what the files at some places hold. -/
structure Alike (written : List Place) (left right : FileSystem) : Prop where
  home : left.home = right.home
  moods : left.moods = right.moods
  shape : ∀ place,
    (left.entryAt place).map Entry.emptied = (right.entryAt place).map Entry.emptied
  elsewhere : ∀ place, place ∉ written → left.entryAt place = right.entryAt place

namespace Alike

variable {written : List Place} {left right : FileSystem}

theorem refl (written : List Place) (files : FileSystem) : Alike written files files :=
  ⟨rfl, rfl, fun _ => rfl, fun _ _ => rfl⟩

/-- What becomes of a place that is filled depends on what kind of entry is there. -/
theorem fill_eq (files : FileSystem) (place : Place) (content : ByteArray) :
    files.fill place content =
      match (files.entryAt place).map Entry.emptied with
      | some (.device .null) => (files, .ok ())
      | some (.device .full) => (files, FileMood.outcome (.refusing 0 (.os .noSpace)) content)
      | _ =>
          (files.put place (.file ((files.moods place).kept content)),
            (files.moods place).outcome content) := by
  rw [fill]
  rcases files.entryAt place with _ | entry
  · rfl
  · cases entry with
    | directory => rfl
    | file old => rfl
    | device which => cases which <;> rfl

variable (alike : Alike written left right)

include alike

/-! ## Where paths lead -/

theorem isSome_entryAt (place : Place) :
    (left.entryAt place).isSome = (right.entryAt place).isSome := by
  have shape := congrArg Option.isSome (alike.shape place)
  rwa [Option.isSome_map, Option.isSome_map] at shape

theorem isDirectory_entryAt (place : Place) :
    (left.entryAt place).any Entry.isDirectory = (right.entryAt place).any Entry.isDirectory := by
  have emptied : ∀ entry : Option Entry,
      entry.any Entry.isDirectory = (entry.map Entry.emptied).any Entry.isDirectory := by
    rintro (_ | _ | _ | _) <;> rfl
  rw [emptied, alike.shape place, ← emptied]

theorem requireDirectory_eq (place : Place) :
    left.requireDirectory place = right.requireDirectory place := by
  have decided : ∀ files : FileSystem, files.requireDirectory place =
      if (files.entryAt place).any Entry.isDirectory then .ok () else .error .notDirectory := by
    intro files
    rw [requireDirectory]
    rcases files.entryAt place with _ | _ | _ | _ <;> rfl
  rw [decided, decided, alike.isDirectory_entryAt]

theorem enter_eq (place : Place) (name : String) :
    left.enter place name = right.enter place name := by
  rw [enter, enter, alike.requireDirectory_eq, alike.isSome_entryAt]

theorem walk_eq (place : Place) (names : List String) :
    left.walk place names = right.walk place names := by
  have enter : left.enter = right.enter := funext fun place => funext (alike.enter_eq place)
  rw [walk, walk, enter]

theorem start_eq (path : Path) : left.start path = right.start path := by
  rw [start, start, alike.home]

theorem find_eq (path : Path) : left.find path = right.find path := by
  have follow : left.follow path = right.follow path := by
    simp only [follow, alike.start_eq, alike.walk_eq, alike.requireDirectory_eq]
  rw [find, find, follow]

theorem openPlace_eq (path : Path) : left.openPlace path = right.openPlace path := by
  have newPlace : left.newPlace? path = right.newPlace? path := by
    simp only [newPlace?, alike.start_eq, alike.walk_eq, alike.requireDirectory_eq]
  simp only [openPlace, writePlace, newPlace, alike.isDirectory_entryAt]

/-! ## Reading and writing -/

theorem read_eq {path : Path} (kept : ∀ place, right.find path = .ok place → place ∉ written) :
    left.read path = right.read path := by
  rw [read, read, alike.find_eq]
  cases found : right.find path with
  | error cause => rfl
  | ok place => simp only [bind, Except.bind, alike.elsewhere place (kept place found)]

/-- Files that are put at one of the places keep the others alike. -/
theorem put {place : Place} (below : place ≠ []) (listed : place ∈ written)
    (content other : ByteArray) :
    Alike written (left.put place (.file content)) (right.put place (.file other)) where
  home := alike.home
  moods := alike.moods
  shape there := by
    rw [entryAt_put left below, entryAt_put right below]
    split
    · rfl
    · exact alike.shape there
  elsewhere there unlisted := by
    have apart : there ≠ place := fun same => unlisted (same ▸ listed)
    rw [entryAt_put left below, entryAt_put right below, if_neg apart, if_neg apart]
    exact alike.elsewhere there unlisted

/-- Writing to one of the places works in both or fails for the same reason, and leaves
them alike, if both contents are empty or neither is. -/
theorem overwrite {path : Path} {content other : ByteArray}
    (listed : ∀ place, right.writePlace path = .ok place → place ∈ written)
    (empty : content.isEmpty = other.isEmpty) :
    (left.overwrite path content).2 = (right.overwrite path other).2 ∧
      Alike written (left.overwrite path content).1 (right.overwrite path other).1 := by
  have sameOpens := alike.openPlace_eq path
  cases opens : right.openPlace path with
  | error cause =>
      rw [overwrite_of_error opens, overwrite_of_error (sameOpens.trans opens)]
      exact ⟨rfl, alike⟩
  | ok place =>
      obtain ⟨_, opened⟩ := openPlace_eq_ok_iff.mp opens
      rw [overwrite_of_openPlace opens, overwrite_of_openPlace (sameOpens.trans opens), fill_eq,
        fill_eq, alike.shape place, alike.moods]
      split
      · exact ⟨rfl, alike⟩
      · exact ⟨FileMood.outcome_congr (.refusing 0 (.os .noSpace)) empty, alike⟩
      · exact ⟨(right.moods place).outcome_congr empty,
          alike.put (ne_nil_of_writePlace opened) (listed place opened) _ _⟩

end Alike

end FileSystem

end StopView
