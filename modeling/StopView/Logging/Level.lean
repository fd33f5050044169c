import StopView.Logging.Failure
import StopView.Text.Lower

/-!
# Levels of log events

The five levels are ordered by how much detail they carry.  A level is read from its
words without regard to the case of letters; blanks around a word are not dropped.
-/

namespace StopView

/-- How important a log event is. -/
inductive LogLevel where
  | error
  | warn
  | info
  | debug
  | trace
deriving Repr, DecidableEq

namespace LogLevel

/-- How much detail a level carries. -/
def detail : LogLevel → Nat
  | .error => 1
  | .warn => 2
  | .info => 3
  | .debug => 4
  | .trace => 5

/-- The name of a level. -/
def name : LogLevel → String
  | .error => "ERROR"
  | .warn => "WARN"
  | .info => "INFO"
  | .debug => "DEBUG"
  | .trace => "TRACE"

/-- The words for levels. -/
def words : List (String × LogLevel) :=
  [("error", .error), ("err", .error), ("warn", .warn), ("warning", .warn), ("info", .info),
   ("debug", .debug), ("dbg", .debug), ("trace", .trace)]

/-- Read a level. -/
def parse (text : String) : Except LoggingFailure LogLevel :=
  match words.lookup (Text.lower text) with
  | some level => .ok level
  | none => .error (.unknownLevel text)

end LogLevel

end StopView
