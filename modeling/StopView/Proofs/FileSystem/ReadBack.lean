import Mathlib.Data.List.Basic
import StopView.FileSystem

/-!
# Reading back what was written

A path that opens for writing leads to one place.  Writing puts a file there and leaves
every other place, all directories and all devices as they are, so that afterwards every
path that opens for writing leads where it led before.  What was written is read back
until something else is written to the same place.

A file that refuses some of what is written to it holds the part in front of that, and
nothing of what it held before.
-/

namespace StopView

namespace FileMood

variable {mood : FileMood} {content : ByteArray}

theorem kept_of_outcome (done : mood.outcome content = .ok ()) : mood.kept content = content := by
  cases mood with
  | accepting => rfl
  | refusing taken cause =>
      by_cases nothing : content.isEmpty = true
      · have size : content.size = 0 := beq_iff_eq.mp nothing
        rw [ByteArray.size_eq_zero_iff.mp size, kept]
        exact ByteArray.extract_eq_empty_iff.mpr (Nat.min_le_right _ _)
      · rw [outcome, if_neg nothing] at done
        contradiction

theorem outcome_eq_ok_iff :
    mood.outcome content = .ok () ↔ content.isEmpty = true ∨ mood = .accepting := by
  cases mood with
  | accepting => simp [outcome]
  | refusing taken cause => simp [outcome]

/-- A file that does not take everything keeps a part in front of what it refuses. -/
theorem exists_refused (failed : mood.outcome content ≠ .ok ()) :
    ∃ taken cause refused, mood = .refusing taken cause ∧ (mood.kept content).size ≤ taken ∧
      refused ≠ ByteArray.empty ∧ mood.kept content ++ refused = content := by
  cases mood with
  | accepting => exact absurd rfl failed
  | refusing taken cause =>
      have size : content.size ≠ 0 := fun nothing =>
        failed (outcome_eq_ok_iff.mpr (.inl (beq_iff_eq.mpr nothing)))
      let split := min taken (content.size - 1)
      have short : split < content.size := by omega
      refine ⟨taken, cause, content.extract split content.size, rfl, ?_, ?_, ?_⟩
      · change (content.extract 0 split).size ≤ taken
        rw [ByteArray.size_extract]
        omega
      · rw [Ne, ByteArray.extract_eq_empty_iff, Nat.min_self]
        exact Nat.not_le_of_lt short
      · change content.extract 0 split ++ content.extract split content.size = content
        rw [ByteArray.extract_append_extract, Nat.zero_min, Nat.max_eq_right (Nat.le_of_lt short),
          ByteArray.extract_zero_size]

end FileMood

namespace FileSystem

variable {files : FileSystem}

/-! ## Entries -/

theorem lookup_filter_ne (entries : List (Place × Entry)) {place other : Place}
    (apart : other ≠ place) :
    (entries.filter fun item => item.1 ≠ place).lookup other = entries.lookup other := by
  induction entries with
  | nil => rfl
  | cons item rest ih =>
      by_cases removed : item.1 = place
      · have passed : (other == item.1) = false := by
          rw [removed]
          exact beq_false_of_ne apart
        rw [List.filter_cons_of_neg (by simp [removed]), ih, List.lookup_cons, passed]
      · rw [List.filter_cons_of_pos (by simp [removed]), List.lookup_cons, List.lookup_cons, ih]

theorem lookup_filter_self (entries : List (Place × Entry)) (place : Place) :
    (entries.filter fun item => item.1 ≠ place).lookup place = none := by
  apply List.lookup_eq_none_iff.mpr
  intro item listed
  have kept : item.1 ≠ place := of_decide_eq_true (List.mem_filter.mp listed).2
  exact bne_iff_ne.mpr kept.symm

theorem entryAt_put (files : FileSystem) {place : Place} (below : place ≠ []) (entry : Entry)
    (other : Place) :
    (files.put place entry).entryAt other =
      if other = place then some entry else files.entryAt other := by
  by_cases same : other = place
  · subst same
    rw [if_pos rfl, entryAt, if_neg below, put, List.lookup_append, lookup_filter_self]
    simp
  · rw [if_neg same]
    by_cases root : other = []
    · rw [entryAt, entryAt, if_pos root, if_pos root]
    · rw [entryAt, entryAt, if_neg root, if_neg root, put, List.lookup_append,
        lookup_filter_ne _ same]
      have passed : (other == place) = false := beq_false_of_ne same
      rw [List.lookup_cons, passed]
      simp

/-! ## Where paths lead -/

theorem requireDirectory_eq_ok_iff {place : Place} :
    files.requireDirectory place = .ok () ↔ files.entryAt place = some .directory := by
  rw [requireDirectory]
  split <;> simp_all

/-- A name leads on from a directory only: to itself, up, or to an entry below. -/
theorem enter_eq_ok_iff {place next : Place} {name : String} :
    files.enter place name = .ok next ↔
      files.entryAt place = some .directory ∧
        (if name = "." then next = place
        else if name = ".." then next = place.dropLast
        else name.utf8ByteSize ≤ longestName ∧ (files.entryAt (place ++ [name])).isSome ∧
          next = place ++ [name]) := by
  rw [enter]
  cases checked : files.requireDirectory place with
  | error cause =>
      have absent : files.entryAt place ≠ some .directory := by
        intro present
        rw [requireDirectory_eq_ok_iff.mpr present] at checked
        contradiction
      constructor
      · intro entered
        contradiction
      · intro entered
        exact absurd entered.1 absent
  | ok checkedUnit =>
      have present : files.entryAt place = some .directory :=
        requireDirectory_eq_ok_iff.mp checked
      simp only [present, true_and]
      change (if name = "." then .ok place
        else if name = ".." then .ok place.dropLast
        else if longestName < name.utf8ByteSize then .error OsError.nameTooLong
        else if (files.entryAt (place ++ [name])).isSome then .ok (place ++ [name])
        else .error OsError.notFound : Except OsError Place) = .ok next ↔ _
      by_cases here : name = "."
      · simp [here, eq_comm]
      by_cases up : name = ".."
      · simp [up, eq_comm]
      by_cases long : longestName < name.utf8ByteSize
      · simp [here, up, long, Nat.not_le.mpr long]
      by_cases found : (files.entryAt (place ++ [name])).isSome
      · simp [here, up, long, found, Nat.not_lt.mp long, eq_comm]
      · simp [here, up, long, found]

/-- Names lead from a place to a directory. -/
def Reaches (files : FileSystem) (place : Place) (names : List String) (parent : Place) : Prop :=
  files.walk place names = .ok parent ∧ files.entryAt parent = some .directory

theorem reaches_nil_iff {place parent : Place} :
    files.Reaches place [] parent ↔ parent = place ∧ files.entryAt place = some .directory := by
  constructor
  · rintro ⟨walked, directory⟩
    have same : place = parent := Except.ok.inj walked
    subst same
    exact ⟨rfl, directory⟩
  · rintro ⟨rfl, directory⟩
    exact ⟨rfl, directory⟩

theorem reaches_cons_iff {place parent : Place} {name : String} {rest : List String} :
    files.Reaches place (name :: rest) parent ↔
      ∃ next, files.enter place name = .ok next ∧ files.Reaches next rest parent := by
  have walk_cons : files.walk place (name :: rest) =
      (files.enter place name).bind fun next => files.walk next rest := rfl
  rw [Reaches, walk_cons]
  cases entered : files.enter place name with
  | error cause => simp [Except.bind]
  | ok next => simp [Except.bind, Reaches]

/-- What leads to a directory starts from one. -/
theorem Reaches.directory {place parent : Place} {names : List String}
    (reaches : files.Reaches place names parent) : files.entryAt place = some .directory := by
  cases names with
  | nil => exact (reaches_nil_iff.mp reaches).2
  | cons name rest =>
      obtain ⟨next, entered, _⟩ := reaches_cons_iff.mp reaches
      exact (enter_eq_ok_iff.mp entered).1

/-- A path leads to a new place if the names before its last one lead to a directory and
the last one is a name. -/
theorem newPlace?_eq_ok_some_iff {path : Path} {place : Place} :
    files.newPlace? path = .ok (some place) ↔
      ∃ parent name, path.names.getLast? = some name ∧
        files.Reaches (files.start path) path.names.dropLast parent ∧
        name ≠ "." ∧ name ≠ ".." ∧ place = parent ++ [name] := by
  rw [newPlace?]
  cases last : path.names.getLast? with
  | none => simp [pure, Except.pure]
  | some name =>
      cases walked : files.walk (files.start path) path.names.dropLast with
      | error cause => simp [Reaches, walked, bind, Except.bind]
      | ok parent =>
          cases checked : files.requireDirectory parent with
          | error cause =>
              have absent : files.entryAt parent ≠ some .directory := by
                intro present
                rw [requireDirectory_eq_ok_iff.mpr present] at checked
                contradiction
              simp [Reaches, walked, checked, absent, bind, Except.bind]
          | ok checkedUnit =>
              have present : files.entryAt parent = some .directory :=
                requireDirectory_eq_ok_iff.mp checked
              by_cases dots : name = "." ∨ name = ".."
              · have noName : ¬(name ≠ "." ∧ name ≠ "..") := by
                  rintro ⟨notHere, notUp⟩
                  rcases dots with here | up
                  · exact notHere here
                  · exact notUp up
                simp [Reaches, walked, checked, dots, bind, Except.bind, pure, Except.pure]
                intro _ notHere notUp
                exact absurd ⟨notHere, notUp⟩ noName
              · obtain ⟨notHere, notUp⟩ := not_or.mp dots
                simp [Reaches, walked, checked, present, notHere, notUp, bind, Except.bind, pure,
                  Except.pure, eq_comm]

theorem writePlace_eq_ok_iff {path : Path} {place : Place} :
    files.writePlace path = .ok place ↔
      files.newPlace? path = .ok (some place) ∧ path.endsInSlash = false ∧
        requireShortName place = .ok () ∧ files.entryAt place ≠ some .directory := by
  rw [writePlace]
  cases files.newPlace? path with
  | error cause => simp [bind, Except.bind]
  | ok found =>
      cases found with
      | none => simp [bind, Except.bind, throw, throwThe, MonadExceptOf.throw]
      | some there =>
          have isDirectory_iff : (files.entryAt there).any Entry.isDirectory = true ↔
              files.entryAt there = some .directory := by
            cases files.entryAt there with
            | none => simp
            | some entry => cases entry <;> simp [Entry.isDirectory]
          simp only [bind, Except.bind, pure, Except.pure, throw, throwThe, MonadExceptOf.throw,
            isDirectory_iff]
          cases slash : path.endsInSlash with
          | true => simp
          | false =>
              simp only [Bool.false_eq_true, if_false, true_and]
              cases short : requireShortName there with
              | error cause =>
                  simp only [reduceCtorEq, false_iff, not_and]
                  intro found refused
                  cases found
                  rw [short] at refused
                  contradiction
              | ok checkedUnit =>
                  by_cases directory : files.entryAt there = some .directory
                  · rw [if_pos (isDirectory_iff.mpr directory)]
                    simp only [reduceCtorEq, false_iff, not_and]
                    intro found _ free
                    cases found
                    exact free directory
                  · rw [if_neg (mt isDirectory_iff.mp directory)]
                    constructor
                    · intro opened
                      cases opened
                      exact ⟨rfl, short, directory⟩
                    · rintro ⟨found, _, _⟩
                      cases found
                      rfl

/-! ## What writing leaves alone -/

/-- The same directories and devices, and the same working directory. -/
structure SameTree (before after : FileSystem) : Prop where
  home : after.home = before.home
  directory : ∀ place,
    after.entryAt place = some .directory ↔ before.entryAt place = some .directory
  device : ∀ place device,
    after.entryAt place = some (.device device) ↔ before.entryAt place = some (.device device)

namespace SameTree

variable {before middle after : FileSystem}

theorem refl (files : FileSystem) : SameTree files files :=
  ⟨rfl, fun _ => Iff.rfl, fun _ _ => Iff.rfl⟩

theorem symm (same : SameTree before after) : SameTree after before :=
  ⟨same.home.symm, fun place => (same.directory place).symm,
    fun place device => (same.device place device).symm⟩

theorem trans (first : SameTree before middle) (second : SameTree middle after) :
    SameTree before after :=
  ⟨second.home.trans first.home,
    fun place => (second.directory place).trans (first.directory place),
    fun place device => (second.device place device).trans (first.device place device)⟩

theorem enter (same : SameTree before after) {place next : Place} {name : String}
    (entered : before.enter place name = .ok next)
    (directory : before.entryAt next = some .directory) : after.enter place name = .ok next := by
  obtain ⟨start, led⟩ := enter_eq_ok_iff.mp entered
  apply enter_eq_ok_iff.mpr
  constructor
  · exact (same.directory place).mpr start
  · by_cases here : name = "."
    · rw [if_pos here] at led ⊢
      exact led
    · rw [if_neg here] at led ⊢
      by_cases up : name = ".."
      · rw [if_pos up] at led ⊢
        exact led
      · rw [if_neg up] at led ⊢
        obtain ⟨short, _, rfl⟩ := led
        have present := (same.directory (place ++ [name])).mpr directory
        exact ⟨short, by rw [present]; rfl, rfl⟩

theorem reaches (same : SameTree before after) {place parent : Place} {names : List String}
    (found : before.Reaches place names parent) : after.Reaches place names parent := by
  induction names generalizing place with
  | nil =>
      obtain ⟨here, directory⟩ := reaches_nil_iff.mp found
      exact reaches_nil_iff.mpr ⟨here, (same.directory place).mpr directory⟩
  | cons name rest ih =>
      obtain ⟨next, entered, further⟩ := reaches_cons_iff.mp found
      exact reaches_cons_iff.mpr ⟨next, same.enter entered further.directory, ih further⟩

theorem newPlace? (same : SameTree before after) {path : Path} {place : Place}
    (found : before.newPlace? path = .ok (some place)) :
    after.newPlace? path = .ok (some place) := by
  obtain ⟨parent, name, last, found, notHere, notUp, placeEq⟩ :=
    newPlace?_eq_ok_some_iff.mp found
  have start : after.start path = before.start path := by
    rw [FileSystem.start, FileSystem.start, same.home]
  apply newPlace?_eq_ok_some_iff.mpr
  rw [start]
  exact ⟨parent, name, last, same.reaches found, notHere, notUp, placeEq⟩

theorem writePlace_eq_ok_iff (same : SameTree before after) {path : Path} {place : Place} :
    after.writePlace path = .ok place ↔ before.writePlace path = .ok place := by
  have opened : ∀ {first second : FileSystem}, SameTree first second →
      first.writePlace path = .ok place → second.writePlace path = .ok place := by
    intro first second same opens
    obtain ⟨found, slash, short, free⟩ := FileSystem.writePlace_eq_ok_iff.mp opens
    apply FileSystem.writePlace_eq_ok_iff.mpr
    exact ⟨same.newPlace? found, slash, short, mt (same.directory place).mp free⟩
  exact ⟨opened same.symm, opened same⟩

end SameTree

theorem sameTree_put {place : Place} (below : place ≠ [])
    (free : files.entryAt place ≠ some .directory)
    (kept : ∀ device, files.entryAt place ≠ some (.device device)) (content : ByteArray) :
    SameTree files (files.put place (.file content)) where
  home := rfl
  directory other := by
    rw [entryAt_put files below]
    by_cases here : other = place
    · rw [if_pos here, here]
      simp [free]
    · rw [if_neg here]
  device other device := by
    rw [entryAt_put files below]
    by_cases here : other = place
    · rw [if_pos here, here]
      simp [kept]
    · rw [if_neg here]

/-! ## Writing and reading -/

theorem ne_nil_of_writePlace {path : Path} {place : Place}
    (opens : files.writePlace path = .ok place) : place ≠ [] := by
  obtain ⟨found, _⟩ := writePlace_eq_ok_iff.mp opens
  obtain ⟨parent, name, _, _, _, _, rfl⟩ := newPlace?_eq_ok_some_iff.mp found
  simp

/-- A place's last name is not longer than names may be. -/
theorem shortName_of_requireShortName {parent : Place} {name : String}
    (short : requireShortName (parent ++ [name]) = .ok ()) : name.utf8ByteSize ≤ longestName := by
  rw [requireShortName, List.getLast?_concat, Option.getD_some] at short
  by_contra long
  rw [if_pos (Nat.not_le.mp long)] at short
  contradiction

theorem openPlace_eq_ok_iff {path : Path} {place : Place} :
    files.openPlace path = .ok place ↔
      checkText path = .ok () ∧ files.writePlace path = .ok place := by
  rw [openPlace]
  cases checkText path with
  | error failure => simp [bind, Except.bind]
  | ok checked =>
      cases files.writePlace path with
      | error cause => simp [bind, Except.bind, Except.mapError]
      | ok found => simp [bind, Except.bind, Except.mapError]

theorem SameTree.openPlace_eq_ok_iff {before after : FileSystem} (same : SameTree before after)
    {path : Path} {place : Place} :
    after.openPlace path = .ok place ↔ before.openPlace path = .ok place := by
  rw [FileSystem.openPlace_eq_ok_iff, FileSystem.openPlace_eq_ok_iff, same.writePlace_eq_ok_iff]

/-- What is at a place takes everything that is written to it: it is the device for that, or a
file that accepts. -/
def TakesAll (files : FileSystem) (place : Place) : Prop :=
  files.entryAt place = some (.device .null) ∨
    (∀ device, files.entryAt place ≠ some (.device device)) ∧ files.moods place = .accepting

theorem SameTree.takesAll_iff {before after : FileSystem} (same : SameTree before after)
    (moods : after.moods = before.moods) {place : Place} :
    after.TakesAll place ↔ before.TakesAll place := by
  simp only [TakesAll, ne_eq, same.device, moods]

/-- Filling a device leaves everything as it is, and filling a file puts there what the file
keeps. -/
theorem fill_cases (files : FileSystem) (place : Place) (content : ByteArray) :
    (∃ device, files.entryAt place = some (.device device)) ∧
        (files.fill place content).1 = files ∨
      (∀ device, files.entryAt place ≠ some (.device device)) ∧
        files.fill place content =
          (files.put place (.file ((files.moods place).kept content)),
            (files.moods place).outcome content) := by
  rw [fill]
  cases files.entryAt place with
  | none => exact .inr ⟨nofun, rfl⟩
  | some entry =>
      cases entry with
      | directory => exact .inr ⟨nofun, rfl⟩
      | file old => exact .inr ⟨nofun, rfl⟩
      | device device => exact .inl ⟨⟨device, rfl⟩, by cases device <;> rfl⟩

theorem fill_eq_ok_iff {place : Place} {content : ByteArray} :
    (files.fill place content).2 = .ok () ↔ content.isEmpty = true ∨ files.TakesAll place := by
  rw [fill, TakesAll]
  cases files.entryAt place with
  | none => simp [FileMood.outcome_eq_ok_iff]
  | some entry =>
      cases entry with
      | directory => simp [FileMood.outcome_eq_ok_iff]
      | file old => simp [FileMood.outcome_eq_ok_iff]
      | device device => cases device <;> simp [FileMood.outcome_eq_ok_iff]

variable {path : Path} {content : ByteArray}

theorem overwrite_of_openPlace {place : Place} (opens : files.openPlace path = .ok place) :
    files.overwrite path content = files.fill place content := by
  rw [overwrite, opens]

theorem overwrite_of_error {cause : IoFailure} (fails : files.openPlace path = .error cause) :
    files.overwrite path content = (files, .error cause) := by
  rw [overwrite, fails]

theorem moods_overwrite (files : FileSystem) (path : Path) (content : ByteArray) :
    (files.overwrite path content).1.moods = files.moods := by
  cases opens : files.openPlace path with
  | error cause => rw [overwrite_of_error opens]
  | ok place =>
      rw [overwrite_of_openPlace opens]
      rcases files.fill_cases place content with ⟨_, same⟩ | ⟨_, filled⟩
      · rw [same]
      · rw [filled]
        rfl

theorem sameTree_overwrite (files : FileSystem) (path : Path) (content : ByteArray) :
    SameTree files (files.overwrite path content).1 := by
  cases opens : files.openPlace path with
  | error cause =>
      rw [overwrite_of_error opens]
      exact SameTree.refl _
  | ok place =>
      obtain ⟨_, opened⟩ := openPlace_eq_ok_iff.mp opens
      rw [overwrite_of_openPlace opens]
      rcases files.fill_cases place content with ⟨_, same⟩ | ⟨kept, filled⟩
      · rw [same]
        exact SameTree.refl _
      · rw [filled]
        exact sameTree_put (ne_nil_of_writePlace opened) (writePlace_eq_ok_iff.mp opened).2.2.2
          kept _

theorem entryAt_overwrite_of_ne {other : Place} (elsewhere : files.openPlace path ≠ .ok other) :
    (files.overwrite path content).1.entryAt other = files.entryAt other := by
  cases opens : files.openPlace path with
  | error cause => rw [overwrite_of_error opens]
  | ok place =>
      obtain ⟨_, opened⟩ := openPlace_eq_ok_iff.mp opens
      rw [overwrite_of_openPlace opens]
      rcases files.fill_cases place content with ⟨_, same⟩ | ⟨_, filled⟩
      · rw [same]
      · rw [filled, entryAt_put files (ne_nil_of_writePlace opened), if_neg]
        rintro rfl
        exact elsewhere opens

section File

variable {place : Place} (opens : files.openPlace path = .ok place)
  (kept : ∀ device, files.entryAt place ≠ some (.device device))

include opens kept

theorem overwrite_of_file :
    files.overwrite path content =
      (files.put place (.file ((files.moods place).kept content)),
        (files.moods place).outcome content) := by
  rw [overwrite_of_openPlace opens]
  rcases files.fill_cases place content with ⟨⟨device, found⟩, _⟩ | ⟨_, filled⟩
  · exact absurd found (kept device)
  · exact filled

/-- Writing puts what the file keeps in its place. -/
theorem entryAt_overwrite :
    (files.overwrite path content).1.entryAt place =
      some (.file ((files.moods place).kept content)) := by
  obtain ⟨_, opened⟩ := openPlace_eq_ok_iff.mp opens
  rw [overwrite_of_file opens kept, entryAt_put files (ne_nil_of_writePlace opened), if_pos rfl]

theorem outcome_overwrite :
    (files.overwrite path content).2 = (files.moods place).outcome content := by
  rw [overwrite_of_file opens kept]

end File

/-- All of some bytes can be written to a path if it opens a place that takes everything, or if
there are no bytes. -/
theorem overwrite_eq_ok_iff :
    (files.overwrite path content).2 = .ok () ↔
      ∃ place, files.openPlace path = .ok place ∧
        (content.isEmpty = true ∨ files.TakesAll place) := by
  cases opens : files.openPlace path with
  | error cause => simp [overwrite_of_error opens]
  | ok place =>
      rw [overwrite_of_openPlace opens, fill_eq_ok_iff]
      simp

/-- A path that opens a place for writing leads there once something is there. -/
theorem follow_of_writePlace {path : Path} {place : Place}
    (opens : files.writePlace path = .ok place) (present : (files.entryAt place).isSome) :
    files.follow path = .ok place := by
  obtain ⟨found, slash, short, _⟩ := writePlace_eq_ok_iff.mp opens
  obtain ⟨parent, name, last, ⟨walked, directory⟩, notHere, notUp, rfl⟩ :=
    newPlace?_eq_ok_some_iff.mp found
  have entered : files.enter parent name = .ok (parent ++ [name]) := by
    apply enter_eq_ok_iff.mpr
    rw [if_neg notHere, if_neg notUp]
    exact ⟨directory, shortName_of_requireShortName short, present, rfl⟩
  have names : path.names = path.names.dropLast ++ [name] :=
    (List.dropLast_append_getLast? name last).symm
  have reached : files.walk (files.start path) path.names = .ok (parent ++ [name]) := by
    rw [names, walk, List.foldlM_append]
    change (files.walk (files.start path) path.names.dropLast).bind
      (fun next => [name].foldlM files.enter next) = _
    rw [walked]
    change (files.enter parent name).bind .ok = _
    rw [entered]
    rfl
  rw [follow, reached, slash]
  rfl

/-- A path that opens a place for writing is read from that place. -/
theorem read_of_writePlace {path : Path} {place : Place} {content : ByteArray}
    (checked : checkText path = .ok ()) (opens : files.writePlace path = .ok place)
    (holds : files.entryAt place = some (.file content)) : files.read path = .ok content := by
  have followed := follow_of_writePlace opens (by rw [holds]; rfl)
  have found : files.find path = .ok place := by
    rw [find, checked, followed]
    rfl
  rw [read, found]
  simp only [bind, Except.bind, holds]
  rfl

/-- What was written in full is read back. -/
theorem read_overwrite {place : Place} (opens : files.openPlace path = .ok place)
    (kept : ∀ device, files.entryAt place ≠ some (.device device))
    (done : (files.overwrite path content).2 = .ok ()) :
    (files.overwrite path content).1.read path = .ok content := by
  obtain ⟨checked, opened⟩ := openPlace_eq_ok_iff.mp opens
  have holds : (files.overwrite path content).1.entryAt place =
      some (.file ((files.moods place).kept content)) := entryAt_overwrite opens kept
  rw [outcome_overwrite opens kept] at done
  rw [FileMood.kept_of_outcome done] at holds
  exact read_of_writePlace checked
    ((files.sameTree_overwrite path content).writePlace_eq_ok_iff.mpr opened) holds

end FileSystem

end StopView
