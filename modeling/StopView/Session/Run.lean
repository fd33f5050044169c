import StopView.Command
import StopView.Session

/-!
# Running commands

A command is first read, then refused if no program is being run, and only then
carried out.  The command for the view makes it; the command for registers writes the
register view to the primary stream.
-/

namespace StopView.Session

/-- Carry out a command. -/
def perform (session : Session) (inspector : Inspector) (world : World) :
    Command → Noted (Turn Delivery)
  | .context sections => session.refresh inspector world sections
  | .registers names => do
      let rendered ← session.renderRegisters inspector (some names)
      let delivery ← writePrimary world rendered.result
      return ⟨rendered.session, rendered.checks, delivery⟩

/-- Read a command and carry it out. -/
def runCommand (session : Session) (inspector : Inspector) (world : World)
    (words : List String) : Noted (Except Failure (Turn Delivery)) :=
  match Command.parse words with
  | .error failure => pure (.error failure)
  | .ok command =>
      if inspector.alive then do
        Noted.note .commandRun
        return .ok (← session.perform inspector world command)
      else
        pure (.error .notRunning)

end StopView.Session
