import StopView.FileSystem
import StopView.Logging.Filter
import StopView.Logging.Format
import StopView.Text.Quoted

/-!
# Where log lines go

A process chooses its sinks once.  The console and a file beside it follow the
environment; a file of its own serves hosts whose console carries the view itself.
A later choice is refused, though the file that it asked for has been made by then.

A sink receives the events that its filter lets through and writes each as an entry
in its form.  Files are always written without colour.  In text meant for reading, the
characters that could give orders to a terminal are written by their numbers.
-/

namespace StopView

/-- What the environment says about logging, as far as it says anything: the filter,
the format of the console, a file beside the console, and the wish for no colour. -/
structure LogEnvironment where
  filter : Option String
  format : Option String
  file : Option String
  noColour : Option String
deriving Repr, DecidableEq

namespace LogEnvironment

/-- The filter of the environment, or one for a default level where there is none
that can be read. -/
def filterOr (environment : LogEnvironment) (level : LogLevel) : Filter :=
  (environment.filter.bind Filter.parse?).getD (Filter.ofLevel level)

/-- The format of the environment, or the pretty one where there is none that can be
read. -/
def formatOrPretty (environment : LogEnvironment) : LogFormat :=
  match environment.format.map LogFormat.parse with
  | some (.ok format) => format
  | _ => .pretty

/-- Whether the environment asks for no colour: any text but the empty one does. -/
def isPlain (environment : LogEnvironment) : Bool :=
  !(environment.noColour.getD "").isEmpty

end LogEnvironment

/-- How an entry looks. -/
inductive EntryForm where
  | json
  | plain
  | coloured
deriving Repr, DecidableEq

namespace EntryForm

/-- The form of a format on the console. -/
def onConsole (format : LogFormat) (isPlain : Bool) : EntryForm :=
  match format with
  | .json => .json
  | .pretty => if isPlain then .plain else .coloured

/-- The form of a format in a file. -/
def inFile : LogFormat → EntryForm
  | .json => .json
  | .pretty => .plain

/-- The controls of ASCII that can give orders to a terminal, as they are written. -/
def writtenControls : List (Char × String) :=
  [('\x1b', "\\x1b"), ('\x07', "\\x07"), ('\x08', "\\x08"), ('\x0c', "\\x0c"),
   ('\x7f', "\\x7f")]

/-- A character of a message as it is written in text meant for reading. -/
def writtenChar (c : Char) : List Char :=
  match writtenControls.lookup c with
  | some text => text.toList
  | none => if 0x80 ≤ c.toNat && c.toNat ≤ 0x9f then Text.numberForm c else [c]

/-- A message as it is written in a form. -/
def message (form : EntryForm) (text : String) : String :=
  match form with
  | .json => text
  | .plain | .coloured => String.ofList (text.toList.flatMap writtenChar)

end EntryForm

/-- An event as a sink has written it. -/
structure LogEntry where
  form : EntryForm
  event : LogEvent
deriving Repr, DecidableEq

/-- What takes a sink's lines. -/
inductive SinkOutput where
  | console
  | file (place : Place)
deriving Repr, DecidableEq

/-- A receiver of events. -/
structure Sink where
  output : SinkOutput
  form : EntryForm
  filter : Filter
deriving Repr, DecidableEq

/-- The entries that a sink makes of events. -/
def Sink.entries (sink : Sink) (events : List LogEvent) : List LogEntry :=
  (events.filter sink.filter.admits).map fun event =>
    ⟨sink.form, { event with message := sink.form.message event.message }⟩

/-- The logging of a process: the files around it, and its sinks once they are
chosen. -/
structure Logging where
  files : FileSystem
  sinks : Option (List Sink)

namespace Logging

/-- A process that has not chosen its sinks. -/
def unset (files : FileSystem) : Logging :=
  ⟨files, none⟩

/-- Choose the sinks, unless they were chosen before. -/
def choose (logging : Logging) (sinks : List Sink) : Logging × Except LoggingFailure Unit :=
  match logging.sinks with
  | none => ({ logging with sinks := some sinks }, .ok ())
  | some _ => (logging, .error .alreadyChosen)

/-- Make sure that a path's file is there, without touching what it holds. -/
def openFile (files : FileSystem) (path : Path) : Except IoFailure (FileSystem × Place) := do
  let place ← files.openPlace path
  match files.entryAt place with
  | some _ => return (files, place)
  | none => return (files.put place (.file ByteArray.empty), place)

/-- Make sure that a path's file is there, together with the directories above it. -/
def openFileBelow (files : FileSystem) (path : Path) : Except IoFailure (FileSystem × Place) :=
  match openFile files path with
  | .ok opened => .ok opened
  | .error failure =>
      match path.parent? with
      | none => .error failure
      | some directory => do openFile (← files.makeDirectories directory) path

/-- The path of the file beside the console on one day: the day follows its name. -/
def dailyPath (path : Path) (day : String) : Path :=
  let name :=
    match path.fileName? with
    | some name => name ++ "." ++ day
    | none => day
  (path.parent?.getD ⟨"."⟩).join ⟨name⟩

/-- Log to the console, and to a file beside it if the environment names one. -/
def toConsole (logging : Logging) (environment : LogEnvironment) (day : String)
    (level : LogLevel) (format : LogFormat) : Logging × Except LoggingFailure Unit :=
  let filter := environment.filterOr level
  let console : Sink :=
    ⟨.console, EntryForm.onConsole format environment.isPlain, filter⟩
  match environment.file with
  | none => logging.choose [console]
  | some file =>
      match openFileBelow logging.files (dailyPath ⟨file⟩ day) with
      | .error cause => (logging, .error (.file cause))
      | .ok (files, place) =>
          { logging with files }.choose [console, ⟨.file place, .plain, filter⟩]

/-- Log as the environment says, and only warnings and errors where it says nothing. -/
def fromEnvironment (logging : Logging) (environment : LogEnvironment) (day : String) :
    Logging × Except LoggingFailure Unit :=
  logging.toConsole environment day .warn environment.formatOrPretty

/-- The name of the file of its own on one day. -/
def dayFile (day : String) : Path :=
  ⟨day ++ "-vantage.log"⟩

/-- Log to a file of its own in a directory, and name that file.  A level that is given
stands above the environment. -/
def toDirectory (logging : Logging) (environment : LogEnvironment) (day : String)
    (directory : Path) (level : Option LogLevel) (format : LogFormat) :
    Logging × Except LoggingFailure Path :=
  match logging.files.makeDirectories directory with
  | .error cause => (logging, .error (.file cause))
  | .ok made =>
      let path := directory.join (dayFile day)
      match openFileBelow made path with
      | .error cause => ({ logging with files := made }, .error (.file cause))
      | .ok (files, place) =>
          let filter :=
            match level with
            | some level => Filter.ofLevel level
            | none => environment.filterOr .info
          let chosen :=
            { logging with files }.choose [⟨.file place, EntryForm.inFile format, filter⟩]
          (chosen.1, chosen.2.map fun _ => path)

/-- The entries that events leave at an output. -/
def entriesAt (logging : Logging) (output : SinkOutput) (events : List LogEvent) :
    List LogEntry :=
  ((logging.sinks.getD []).filter fun sink => sink.output = output).flatMap fun sink =>
    sink.entries events

/-- The entries that events leave on the console. -/
def consoleEntries (logging : Logging) (events : List LogEvent) : List LogEntry :=
  logging.entriesAt .console events

/-- The entries that events leave in each file of the working directory, in the order
of the files' names. -/
def fileEntries (logging : Logging) (events : List LogEvent) :
    List (String × List LogEntry) :=
  logging.files.filesAtHome.map fun (name, place) =>
    (name, logging.entriesAt (.file place) events)

end Logging

end StopView
