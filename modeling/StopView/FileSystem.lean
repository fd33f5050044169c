import StopView.Failure

/-!
# Files

A file system is a list of places, each with the entry found there, and the
directory that relative paths start from.  A place is the list of names from the
root.  A path is followed name by name: every name but the last must lead to a
directory.

Opening a path for writing creates the file or empties it, and refuses a path that
can only name a directory.  Opening for reading follows the whole path.

A file that has been opened and emptied may still refuse what is written to it.  It then
keeps what it took before.
-/

namespace StopView

/-- The names that lead from the root to an entry. -/
abbrev Place := List String

/-- The devices: one takes everything, the other has no space. -/
inductive Device where
  | null
  | full
deriving Repr, DecidableEq

/-- What is found at a place. -/
inductive Entry where
  | directory
  | file (content : ByteArray)
  | device (device : Device)

/-- Whether an entry is a directory. -/
def Entry.isDirectory : Entry → Bool
  | .directory => true
  | _ => false

/-- How a file treats what is written to it: it takes everything, or some bytes and then
refuses the others. -/
inductive FileMood where
  | accepting
  | refusing (taken : Nat) (cause : IoFailure)
deriving Repr, DecidableEq

namespace FileMood

/-- What a file keeps of some bytes.  One that refuses any refuses at least the last. -/
def kept (mood : FileMood) (content : ByteArray) : ByteArray :=
  match mood with
  | .accepting => content
  | .refusing taken _ => content.extract 0 (min taken (content.size - 1))

/-- Whether a file takes all of some bytes.  Of no bytes there are none to refuse. -/
def outcome (mood : FileMood) (content : ByteArray) : Except IoFailure Unit :=
  match mood with
  | .accepting => .ok ()
  | .refusing _ cause => if content.isEmpty then .ok () else .error cause

end FileMood

/-- The entries of a file system, the directory that relative paths start from, and how the
files at all places treat what is written to them. -/
structure FileSystem where
  entries : List (Place × Entry)
  home : Place
  moods : Place → FileMood

namespace FileSystem

/-- The longest name and the longest path, in bytes. -/
def longestName : Nat := 255
def longestPath : Nat := 4095

/-- A file system with an empty directory to work in. -/
def initial : FileSystem where
  entries :=
    [(["dev"], .directory), (["dev", "null"], .device .null), (["dev", "full"], .device .full),
      (["work"], .directory)]
  home := ["work"]
  moods _ := .accepting

/-- The entry at a place.  The root is always a directory. -/
def entryAt (files : FileSystem) (place : Place) : Option Entry :=
  if place = [] then some .directory else files.entries.lookup place

/-- Put an entry at a place, over any that is there. -/
def put (files : FileSystem) (place : Place) (entry : Entry) : FileSystem :=
  { files with
    entries := (files.entries.filter fun item => item.1 ≠ place) ++ [(place, entry)] }

/-- Remove the entry at a place. -/
def erase (files : FileSystem) (place : Place) : FileSystem :=
  { files with entries := files.entries.filter fun item => item.1 ≠ place }

/-- Where a path starts. -/
def start (files : FileSystem) (path : Path) : Place :=
  if path.isRooted then [] else files.home

/-- Refuse a place that is no directory. -/
def requireDirectory (files : FileSystem) (place : Place) : Except OsError Unit :=
  match files.entryAt place with
  | some .directory => .ok ()
  | _ => .error .notDirectory

/-- Follow one name from a place. -/
def enter (files : FileSystem) (place : Place) (name : String) : Except OsError Place := do
  files.requireDirectory place
  if name = "." then return place
  else if name = ".." then return place.dropLast
  else if longestName < name.utf8ByteSize then throw .nameTooLong
  else if (files.entryAt (place ++ [name])).isSome then return place ++ [name]
  else throw .notFound

/-- Follow names from a place. -/
def walk (files : FileSystem) (place : Place) (names : List String) : Except OsError Place :=
  names.foldlM files.enter place

/-- Refuse texts that are no paths. -/
def checkText (path : Path) : Except IoFailure Unit :=
  if path.text.toList.contains '\x00' then .error .nulInPath
  else if path.text = "" then .error (.os .notFound)
  else if longestPath < path.text.utf8ByteSize then .error (.os .nameTooLong)
  else .ok ()

/-- The place that an existing path leads to, its slash at the end being a promise of
a directory. -/
def follow (files : FileSystem) (path : Path) : Except OsError Place := do
  let place ← files.walk (files.start path) path.names
  if path.endsInSlash then files.requireDirectory place
  return place

/-- The place that an existing path leads to. -/
def find (files : FileSystem) (path : Path) : Except IoFailure Place := do
  checkText path
  (files.follow path).mapError .os

/-- The entry that a path leads to, if there is one. -/
def entry? (files : FileSystem) (path : Path) : Option Entry :=
  match files.find path with
  | .ok place => files.entryAt place
  | .error _ => none

/-- The bytes of the file that a path leads to. -/
def read (files : FileSystem) (path : Path) : Except IoFailure ByteArray := do
  let place ← files.find path
  match files.entryAt place with
  | some (.file content) => return content
  | some (.device _) => return ByteArray.empty
  | some .directory => throw (.os .isDirectory)
  | none => throw (.os .notFound)

/-- The place of a new entry: its last name is free or taken, and everything before
it is a directory.  A path whose last step is no name has no such place. -/
def newPlace? (files : FileSystem) (path : Path) : Except OsError (Option Place) := do
  match path.names.getLast? with
  | none => return none
  | some name =>
      let parent ← files.walk (files.start path) path.names.dropLast
      files.requireDirectory parent
      if name = "." || name = ".." then return none else return some (parent ++ [name])

/-- Refuse a place whose last name is too long. -/
def requireShortName (place : Place) : Except OsError Unit :=
  if longestName < (place.getLast?.getD "").utf8ByteSize then .error .nameTooLong else .ok ()

/-- The place of the file that a path opens for writing.  A slash at its end is refused
before its last name is looked at. -/
def writePlace (files : FileSystem) (path : Path) : Except OsError Place := do
  match ← files.newPlace? path with
  | none => throw .isDirectory
  | some place =>
      if path.endsInSlash then throw .isDirectory
      requireShortName place
      if (files.entryAt place).any Entry.isDirectory then throw .isDirectory
      return place

/-- Open a path for writing. -/
def openPlace (files : FileSystem) (path : Path) : Except IoFailure Place := do
  checkText path
  (files.writePlace path).mapError .os

/-- Empty the file at a place and write bytes to it, or write them to the device there. -/
def fill (files : FileSystem) (place : Place) (content : ByteArray) :
    FileSystem × Except IoFailure Unit :=
  match files.entryAt place with
  | some (.device .null) => (files, .ok ())
  | some (.device .full) => (files, FileMood.outcome (.refusing 0 (.os .noSpace)) content)
  | _ =>
      (files.put place (.file ((files.moods place).kept content)),
        (files.moods place).outcome content)

/-- Write bytes to a path's file, and tell whether it could be opened and took all of them. -/
def overwrite (files : FileSystem) (path : Path) (content : ByteArray) :
    FileSystem × Except IoFailure Unit :=
  match files.openPlace path with
  | .error cause => (files, .error cause)
  | .ok place => files.fill place content

/-- Make a path's file hold exactly these bytes. -/
def write (files : FileSystem) (path : Path) (content : ByteArray) :
    Except IoFailure FileSystem :=
  let (after, outcome) := files.overwrite path content
  outcome.map fun _ => after

/-- The place of the directory that a path makes. -/
def directoryPlace (files : FileSystem) (path : Path) : Except OsError Place := do
  match ← files.newPlace? path with
  | none => throw .alreadyExists
  | some place =>
      requireShortName place
      if (files.entryAt place).isSome then throw .alreadyExists
      return place

/-- Make one directory. -/
def makeDirectory (files : FileSystem) (path : Path) : Except IoFailure FileSystem := do
  checkText path
  let place ← (files.directoryPlace path).mapError .os
  return files.put place .directory

/-- Make a directory, or leave alone one that is already there. -/
def ensureDirectory (files : FileSystem) (path : Path) : Except IoFailure FileSystem :=
  match files.makeDirectory path with
  | .ok made => .ok made
  | .error failure =>
      if (files.entry? path).any Entry.isDirectory then .ok files else .error failure

/-- Make a directory.  If what is above it is not there, make that first and then try
again. -/
def ensureBelow (files : FileSystem) (path : Path)
    (above : FileSystem → Except IoFailure FileSystem) : Except IoFailure FileSystem :=
  match files.ensureDirectory path with
  | .error (.os .notFound) => do
      let made ← above files
      made.ensureDirectory path
  | outcome => outcome

/-- Make a directory and those above it, whose components are given from the last to
the first. -/
def makeDirectoriesFrom (files : FileSystem) : List Component → Except IoFailure FileSystem
  | [] => .ok files
  | last :: above =>
      files.ensureBelow (Path.ofComponents (last :: above).reverse) fun files =>
        files.makeDirectoriesFrom above

/-- Make a directory and those above it.  The path itself is taken as it is spelled, so
that a dot at its end needs the directory in front of it. -/
def makeDirectories (files : FileSystem) (path : Path) : Except IoFailure FileSystem :=
  match path.components.reverse with
  | [] => .ok files
  | _ :: above => files.ensureBelow path fun files => files.makeDirectoriesFrom above

/-- The files below the working directory with their names from there, in the order of
these names. -/
def filesAtHome (files : FileSystem) : List (String × Place) :=
  let below := files.entries.filterMap fun (place, entry) =>
    match entry with
    | .file _ =>
        if files.home.isPrefixOf place then
          some ("/".intercalate (place.drop files.home.length), place)
        else
          none
    | _ => none
  below.mergeSort fun left right => decide (left.1 ≤ right.1)

/-- Remove a path's file.  Directories stay. -/
def remove (files : FileSystem) (path : Path) : FileSystem :=
  match files.find path with
  | .ok place =>
      match files.entryAt place with
      | some .directory => files
      | _ => files.erase place
  | .error _ => files

end FileSystem

end StopView
