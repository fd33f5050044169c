import StopView.Address
import StopView.OsError
import StopView.Path

/-!
# What can go wrong

A failure names its cause; its message is a function of the cause.  Failures to read
or write keep the failure underneath: an error of the operating system, a path that
no file can have, or a stream that does not take what it is given.
-/

namespace StopView

/-- Why reading or writing failed. -/
inductive IoFailure where
  | os (error : OsError)
  | nulInPath
  | streamClosed
  | nothingTaken
  | flushRefused
deriving Repr, DecidableEq

/-- The text of a failure to read or write. -/
def IoFailure.message : IoFailure → String
  | .os error => error.message
  | .nulInPath => "file name contained an unexpected NUL byte"
  | .streamClosed => "stream closed"
  | .nothingTaken => "failed to write whole buffer"
  | .flushRefused => "flush refused"

/-- Why an operation failed. -/
inductive Failure where
  | configuration (setting reason : String)
  | unknownRegister (name : String)
  | symbolNotFound (address : Address)
  | sourceUnavailable (detail : String)
  | delivery (destination : Path) (cause : IoFailure)
  | backend (detail : String)
  | notRunning
  | invalidArgument (usage : String)
  | io (cause : IoFailure)
deriving Repr, DecidableEq

/-- The text of a failure. -/
def Failure.message : Failure → String
  | .configuration setting reason => "Invalid configuration for " ++ setting ++ ": " ++ reason
  | .unknownRegister name => "Unknown register: " ++ name
  | .symbolNotFound address => "No symbol for address " ++ address.text
  | .sourceUnavailable detail => "Source unavailable: " ++ detail
  | .delivery destination cause =>
      "Failed to write context to " ++ destination.text ++ ": " ++ cause.message
  | .backend detail => "Backend error: " ++ detail
  | .notRunning => "The program is not being run"
  | .invalidArgument usage => "Invalid argument: " ++ usage
  | .io cause => "IO error: " ++ cause.message

end StopView
