import StopView.Destination
import StopView.FileSystem

/-!
# The world outside

Lines leave through the primary stream or into files.  The stream may accept what it is
given, refuse it, take none of it, or take it and refuse to flush.  It keeps what it
has stored and counts how often it was written to and flushed.

A batch is written in one piece.  Only the primary stream is ever cleared first, and a
batch without any text does not touch it.  A file that refuses a batch keeps the part that
it took.
-/

namespace StopView

/-- How the primary stream treats what it is given. -/
inductive StreamMood where
  | accepting
  | refusing
  | takingNothing
  | refusingFlush
deriving Repr, DecidableEq

/-- The primary stream: its mood, what it has stored, and how often it was used. -/
structure PrimaryStream where
  mood : StreamMood
  stored : String
  writes : Nat
  flushes : Nat
deriving Repr, DecidableEq

namespace PrimaryStream

/-- A stream that nobody has used. -/
def fresh : PrimaryStream :=
  ⟨.accepting, "", 0, 0⟩

/-- A stream after a text was written to it, and whether that worked. -/
def write (stream : PrimaryStream) (text : String) : PrimaryStream × Except IoFailure Unit :=
  let used := { stream with writes := stream.writes + 1 }
  match stream.mood with
  | .accepting =>
      ({ used with stored := stream.stored ++ text, flushes := stream.flushes + 1 }, .ok ())
  | .refusing => (used, .error .streamClosed)
  | .takingNothing => (used, .error .nothingTaken)
  | .refusingFlush =>
      ({ used with stored := stream.stored ++ text, flushes := stream.flushes + 1 },
        .error .flushRefused)

end PrimaryStream

/-- The outside of a session: its files, its primary stream, and the terminal that this
stream is attached to. -/
structure World where
  files : FileSystem
  primary : PrimaryStream
  terminal : Option Path

/-- The codes that move to the first place of the screen and clear what follows. -/
def clearCode : String :=
  "\x1b[1;1H\x1b[J"

/-- Lines as they are written, each with its end. -/
def joinLines (lines : List String) : String :=
  String.join (lines.map fun line => line ++ "\n")

@[simp]
theorem joinLines_nil : joinLines [] = "" :=
  rfl

@[simp]
theorem joinLines_cons (line : String) (lines : List String) :
    joinLines (line :: lines) = line ++ "\n" ++ joinLines lines := by
  simp [joinLines, String.join_cons]

@[simp]
theorem joinLines_append (first second : List String) :
    joinLines (first ++ second) = joinLines first ++ joinLines second := by
  simp [joinLines, String.join_append]

/-- The text of a batch for the primary stream. -/
def primaryText (lines : List String) (clear : Bool) : String :=
  (if clear then clearCode else "") ++ joinLines lines

namespace World

/-- Write lines to the primary stream. -/
def deliverPrimary (world : World) (lines : List String) (clear : Bool) :
    World × Except Failure Unit :=
  let text := primaryText lines clear
  if text = "" then
    (world, .ok ())
  else
    let (primary, outcome) := world.primary.write text
    ({ world with primary }, outcome.mapError .io)

/-- Write lines to a file. -/
def deliverPath (world : World) (path : Path) (lines : List String) :
    World × Except Failure Unit :=
  let (files, outcome) := world.files.overwrite path (joinLines lines).toUTF8
  ({ world with files }, outcome.mapError (.delivery path))

/-- Write lines to a destination. -/
def deliver (world : World) (destination : Destination) (lines : List String)
    (clear : Bool) : World × Except Failure Unit :=
  match destination with
  | .primary => world.deliverPrimary lines clear
  | .path path => world.deliverPath path lines

end World

end StopView
