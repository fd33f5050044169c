import StopView.Logging.Failure
import StopView.Text.Lower

/-!
# Formats of log lines

Lines are written for people or as one JSON object each.  A format is read from its
words without regard to the case of letters; blanks around a word are not dropped.
-/

namespace StopView

/-- How log lines are written. -/
inductive LogFormat where
  | pretty
  | json
deriving Repr, DecidableEq

namespace LogFormat

/-- The words for formats. -/
def words : List (String × LogFormat) :=
  [("pretty", .pretty), ("dev", .pretty), ("text", .pretty), ("json", .json), ("prod", .json)]

/-- Read a format. -/
def parse (text : String) : Except LoggingFailure LogFormat :=
  match words.lookup (Text.lower text) with
  | some format => .ok format
  | none => .error (.unknownFormat text)

end LogFormat

end StopView
