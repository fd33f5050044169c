import StopView.Failure

/-!
# What can go wrong with logging

Words for formats and levels may be unknown, the sinks of a process may have been
chosen already, and a file or directory may not be had.
-/

namespace StopView

/-- Why logging could not be set up. -/
inductive LoggingFailure where
  | unknownFormat (text : String)
  | unknownLevel (text : String)
  | alreadyChosen
  | file (cause : IoFailure)
deriving Repr, DecidableEq

/-- The text of a failure to set up logging. -/
def LoggingFailure.message : LoggingFailure → String
  | .unknownFormat text => "Unknown log format: " ++ text ++ ". Use 'pretty' or 'json'"
  | .unknownLevel text =>
      "Unknown log level: " ++ text ++ ". Use 'error', 'warn', 'info', 'debug', or 'trace'"
  | .alreadyChosen =>
      "Failed to initialize logging: a global default trace dispatcher has already been set"
  | .file cause => "File logging error: " ++ cause.message

end StopView
