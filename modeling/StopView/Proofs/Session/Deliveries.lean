import StopView.Proofs.Delivery
import StopView.Proofs.Session.Order

/-!
# What a run delivers

Every operation hands some batches to the router: a view its batches, a command for registers
or lines for the primary stream one batch, everything else none.  What an operation does to
the world is what these deliveries do, unless it replaces the world.  Along a run there are
the places that deliveries open for writing and the places of the source files that are shown.
-/

namespace StopView

/-! ## Places -/

theorem toOption_eq_some_iff {ε α : Type} {answer : Except ε α} {value : α} :
    answer.toOption = some value ↔ answer = .ok value := by
  cases answer <;> simp [Except.toOption]

/-- The place that a batch opens for writing. -/
def Batch.target? (batch : Batch) (files : FileSystem) : Option Place :=
  match batch.destination with
  | .primary => none
  | .path path => (files.writePlace path).toOption

theorem Batch.target?_eq_some_iff {batch : Batch} {files : FileSystem} {place : Place} :
    batch.target? files = some place ↔ batch.Opens files place := by
  rw [Batch.target?, Batch.Opens]
  cases batch.destination with
  | primary => simp
  | path path => simp [toOption_eq_some_iff]

/-- The place of the source file that is current for an inspector. -/
def Inspector.sourcePlace? (inspector : Inspector) (files : FileSystem) : Option Place :=
  (inspector.selectedFrame.toOption.bind inspector.sourceLocation).bind fun location =>
    (files.find ⟨location.file⟩).toOption

/-! ## Batches of one operation -/

/-- The batches that a command hands to the router. -/
def Command.batches (session : Session) (inspector : Inspector) (world : World) :
    Command → List Batch
  | .context tokens => (session.compose inspector world.files world.terminal tokens).value.result
  | .registers names =>
      [⟨.primary, (session.renderRegisters inspector (some names)).value.result⟩]

/-- Whether a command clears the screen first. -/
def Command.clears (settings : Settings) : Command → Bool
  | .context _ => settings.clearScreen
  | .registers _ => false

theorem Session.result_perform (session : Session) (inspector : Inspector) (world : World)
    (command : Command) :
    (session.perform inspector world command).value.result =
      (world.deliverAll (command.batches session inspector world)
        (command.clears session.settings)).value := by
  cases command <;> rfl

/-- The command that an operation carries out, if any. -/
def Operation.command? (inspector : Inspector) : Operation → Option Command
  | .refresh tokens => some (.context tokens)
  | .command words => (Command.accept inspector words).toOption
  | _ => none

namespace Situation

variable (situation : Situation) (inspector : Inspector)

/-- The batches that an operation hands to the router. -/
def batches : Operation → List Batch
  | .writePrimary lines => [⟨.primary, lines⟩]
  | operation =>
      match operation.command? inspector with
      | some command => command.batches situation.session inspector situation.world
      | none => []

/-- Whether an operation clears the screen first. -/
def clears (operation : Operation) : Bool :=
  match operation.command? inspector with
  | some command => command.clears situation.session.settings
  | none => false

/-- An operation delivers its batches and does nothing else to the world, unless it replaces
the world. -/
theorem world_perform (operation : Operation) :
    (situation.perform inspector operation).value.1.world =
      match operation with
      | .outside world => world
      | operation =>
          (situation.world.deliverAll (situation.batches inspector operation)
            (situation.clears inspector operation)).value.world := by
  cases operation with
  | command words =>
      cases read : Command.accept inspector words with
      | error cause =>
          simp only [situation.perform_command_of_error inspector read, batches,
            Operation.command?, read]
          rfl
      | ok command =>
          simp only [situation.perform_command_of_ok inspector read, batches, clears,
            Operation.command?, read]
          exact congrArg Delivery.world
            (situation.session.result_perform inspector situation.world command)
  | send channel event => rfl
  | _ => rfl

/-- What an operation answers: the report of its deliveries, if it is one that delivers. -/
theorem outcome_perform (operation : Operation) :
    let report := (situation.world.deliverAll (situation.batches inspector operation)
      (situation.clears inspector operation)).value.report
    let changed : Except Failure Change → Outcome := fun
      | .ok _ => .done
      | .error cause => .refused cause
    (situation.perform inspector operation).value.2 =
      match operation with
      | .refresh _ | .writePrimary _ => .delivered report
      | .command words =>
          match Command.accept inspector words with
          | .ok _ => .delivered report
          | .error cause => .refused cause
      | .renderRegisters asked =>
          .lines (situation.session.renderRegisters inspector asked).value.result
      | .set name value => changed (Change.ofText name value).value
      | .setSections value => changed (Change.ofSections value).value
      | .send channel _ =>
          .sent (situation.session.channel.any fun current => current.number = channel)
      | _ => .done := by
  intro report changed
  cases operation with
  | command words =>
      cases read : Command.accept inspector words with
      | error cause =>
          simp only [situation.perform_command_of_error inspector read, read]
      | ok command =>
          rw [situation.perform_command_of_ok inspector read]
          have result := situation.session.result_perform inspector situation.world command
          simp only [report, batches, clears, Operation.command?, read, Except.toOption, ← result]
          rfl
  | send channel event =>
      simp only [perform, Session.send, Noted.value_pure]
      cases situation.session.channel with
      | none => rfl
      | some current =>
          by_cases same : current.number = channel
          · simp [same]
          · simp [same]
  | _ => rfl

/-- A command other than a view leaves the source cache, and so does every operation that is
no command, unless it starts or ends a session. -/
theorem sources_perform (operation : Operation) :
    (situation.perform inspector operation).value.1.session.memory.sources =
      match operation with
      | .start | .finish => .empty
      | operation =>
          match operation.command? inspector with
          | some (.context tokens) =>
              if .code ∈ Session.namedSections situation.session.settings tokens then
                (situation.session.scene inspector situation.world.files).sourcesAfter
                  situation.session.memory.sources
              else situation.session.memory.sources
          | _ => situation.session.memory.sources := by
  have refreshed : ∀ tokens,
      (situation.perform inspector (.refresh tokens)).value.1.session.memory.sources =
        if .code ∈ Session.namedSections situation.session.settings tokens then
          (situation.session.scene inspector situation.world.files).sourcesAfter
            situation.session.memory.sources
        else situation.session.memory.sources := fun tokens =>
    congrArg ViewMemory.sources (situation.session.memory_refresh inspector situation.world tokens)
  cases operation with
  | refresh tokens => exact refreshed tokens
  | command words =>
      rw [session_perform_command]
      rcases Command.accept_cases inspector words with
        ⟨tokens, read⟩ | ⟨names, read⟩ | ⟨cause, read⟩
      · simp only [read, Operation.command?]
        exact refreshed tokens
      · simp only [read, Operation.command?]
        rfl
      · simp only [read, Operation.command?]
        rfl
  | send channel event => rw [session_perform_send]; rfl
  | _ => rfl

/-- The highlighter is settled when a session is made. -/
theorem highlighter_perform (operation : Operation) :
    (situation.perform inspector operation).value.1.session.highlighter =
      situation.session.highlighter := by
  cases operation with
  | command words =>
      rw [session_perform_command]
      split <;> rfl
  | send channel event => rw [session_perform_send]
  | _ => rfl

theorem highlighter_run (steps : List (Inspector × Operation)) :
    (situation.run steps).value.1.session.highlighter = situation.session.highlighter :=
  run_keeps (fun now => now.session.highlighter = situation.session.highlighter)
    (fun step _ now same => (now.highlighter_perform step.1 step.2).trans same) rfl

/-! ## Along a run -/

/-- The batches that the operations of a run hand to the router. -/
def deliveries (situation : Situation) : List (Inspector × Operation) → List (List Batch)
  | [] => []
  | (inspector, operation) :: rest =>
      situation.batches inspector operation ::
        (situation.perform inspector operation).value.1.deliveries rest

/-- The places that the deliveries of a run open for writing. -/
def targets (situation : Situation) : List (Inspector × Operation) → List Place
  | [] => []
  | (inspector, operation) :: rest =>
      (situation.batches inspector operation).filterMap (·.target? situation.world.files) ++
        (situation.perform inspector operation).value.1.targets rest

/-- The places of the source files that are current during a run. -/
def sources (situation : Situation) : List (Inspector × Operation) → List Place
  | [] => []
  | (inspector, operation) :: rest =>
      (inspector.sourcePlace? situation.world.files).toList ++
        (situation.perform inspector operation).value.1.sources rest

end Situation

end StopView
