import StopView.Session.Run

/-!
# Runs of a session

A run is a list of operations, each with the inspector that answers while it is carried
out: between two operations the inspected program may have become another one.  What
else happens outside is an operation of its own: the terminal is resized, or any world is
put in place of the one before.

Every operation has an outcome.  Operations that cannot be refused and report nothing
have the outcome `done`.
-/

namespace StopView

/-- What can happen to a session. -/
inductive Operation where
  | refresh (tokens : List String)
  | command (words : List String)
  | renderRegisters (asked : Option (List String))
  | writePrimary (lines : List String)
  | report (event : LifecycleEvent)
  | subscribe
  | send (channel : Nat) (event : LifecycleEvent)
  | start
  | finish
  | set (name value : String)
  | setSections (value : String)
  | setOutput (key : SectionKey) (output : SectionOutput)
  | resize (answer : Option Nat)
  | outside (world : World)

/-- What an operation answers. -/
inductive Outcome where
  | done
  | delivered (report : Report)
  | refused (cause : Failure)
  | lines (lines : List String)
  | sent (taken : Bool)
deriving Repr, DecidableEq

/-- A session, the world around it, and how often the inspector's extensions were asked
for. -/
structure Situation where
  session : Session
  world : World
  checks : Nat

namespace Situation

/-- The situation after a turn of the session. -/
def afterTurn {α : Type} (situation : Situation) (turn : Turn α) : Situation :=
  { situation with session := turn.session, checks := situation.checks + turn.checks }

/-- The situation after a delivery, and its report. -/
def afterDelivery (situation : Situation) (delivery : Delivery) : Situation × Outcome :=
  ({ situation with world := delivery.world }, .delivered delivery.report)

/-- The situation after a change of the settings that was read or refused. -/
def afterChange (situation : Situation) (change : Except Failure Change) :
    Situation × Outcome :=
  ({ situation with session := situation.session.applyRead change },
    match change with
    | .ok _ => .done
    | .error cause => .refused cause)

/-- Carry out an operation. -/
def perform (situation : Situation) (inspector : Inspector) :
    Operation → Noted (Situation × Outcome)
  | .refresh tokens => do
      let turn ← situation.session.refresh inspector situation.world tokens
      return (situation.afterTurn turn).afterDelivery turn.result
  | .command words => do
      match ← situation.session.runCommand inspector situation.world words with
      | .ok turn => return (situation.afterTurn turn).afterDelivery turn.result
      | .error cause => return (situation, .refused cause)
  | .renderRegisters asked => do
      let turn ← situation.session.renderRegisters inspector asked
      return (situation.afterTurn turn, .lines turn.result)
  | .writePrimary lines => do
      return situation.afterDelivery (← Session.writePrimary situation.world lines)
  | .report event => do
      let turn ← situation.session.onEvent inspector event
      return (situation.afterTurn turn, .done)
  | .subscribe => pure ({ situation with session := situation.session.subscribe }, .done)
  | .send channel event =>
      let (session, taken) := situation.session.send channel event
      pure ({ situation with session }, .sent taken)
  | .start => do
      return ({ situation with session := ← situation.session.start }, .done)
  | .finish => do
      return ({ situation with session := ← situation.session.finish }, .done)
  | .set name value => do
      return situation.afterChange (← Change.ofText name value)
  | .setSections value => do
      return situation.afterChange (← Change.ofSections value)
  | .setOutput key output =>
      let settings := situation.session.settings.setOutputFor key output
      pure ({ situation with session := { situation.session with settings } }, .done)
  | .resize answer => pure ({ situation with session := situation.session.resize answer }, .done)
  | .outside world => pure ({ situation with world }, .done)

/-- Carry out operations, one after the other. -/
def run (situation : Situation) :
    List (Inspector × Operation) → Noted (Situation × List Outcome)
  | [] => pure (situation, [])
  | (inspector, operation) :: rest => do
      let (situation, first) ← situation.perform inspector operation
      let (situation, others) ← situation.run rest
      return (situation, first :: others)

@[simp]
theorem run_nil (situation : Situation) : situation.run [] = pure (situation, []) :=
  rfl

/-- A run of two parts is the second part after the first. -/
theorem value_run_append (situation : Situation) (first second : List (Inspector × Operation)) :
    (situation.run (first ++ second)).value =
      let before := (situation.run first).value
      let after := (before.1.run second).value
      (after.1, before.2 ++ after.2) := by
  induction first generalizing situation with
  | nil => simp
  | cons step rest ih => simp [run, ih]

end Situation

end StopView
