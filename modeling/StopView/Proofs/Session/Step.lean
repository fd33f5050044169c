import StopView.Proofs.Section.Alone
import StopView.Session.Operation

/-!
# One operation

What an operation leaves of a session, for each part of the session on its own.  A
command that is accepted is one of two other operations, and one that is refused changes
nothing.  The settings change by the operations that set something and by no others, and
the register snapshot by those that view registers, start or end.
-/

namespace StopView

/-- The command that some words are carried out as, or why none is. -/
def Command.accept (inspector : Inspector) (words : List String) : Except Failure Command :=
  match Command.parse words with
  | .error cause => .error cause
  | .ok command => if inspector.alive then .ok command else .error .notRunning

/-- A command is one for the view, one for registers, or refused. -/
theorem Command.accept_cases (inspector : Inspector) (words : List String) :
    (∃ tokens, Command.accept inspector words = .ok (.context tokens)) ∨
      (∃ names, Command.accept inspector words = .ok (.registers names)) ∨
      ∃ cause, Command.accept inspector words = .error cause := by
  cases Command.accept inspector words with
  | error cause => exact .inr (.inr ⟨cause, rfl⟩)
  | ok command =>
      cases command with
      | context tokens => exact .inl ⟨tokens, rfl⟩
      | registers names => exact .inr (.inl ⟨names, rfl⟩)

/-! ## Sessions after views -/

namespace Session

variable (session : Session) (inspector : Inspector)

theorem mem_renderingOrder_iff {settings : Settings} {tokens : List String} {part : Section} :
    part ∈ renderingOrder settings (requestedSections settings tokens).value ↔
      part ∈ namedSections settings tokens :=
  (perm_renderingOrder _ _).mem_iff.trans
    ((firstSeen_requestedSections settings tokens).mem_iff part)

theorem linesOf_rendered_registers {files : FileSystem} {tokens : List String}
    (named : .registers ∈ namedSections session.settings tokens) :
    linesOf (session.rendered inspector files tokens) .registers =
      session.palette.banner "registers" ::
        (StopView.renderRegisters inspector session.settings session.palette
          session.memory.snapshot none).value :=
  (session.scene inspector files).linesOf_blocks (mem_renderingOrder_iff.mpr named)
    session.memory

end Session

/-! ## Situations after operations -/

namespace Operation

/-- The settings after an operation. -/
def settingsAfter (settings : Settings) : Operation → Settings
  | .set name value => settings.applyRead (Change.ofText name value).value
  | .setSections value => settings.applyRead (Change.ofSections value).value
  | .setOutput key output => settings.setOutputFor key output
  | _ => settings

/-- The width after an operation. -/
def widthAfter (width : BannerWidth) : Operation → BannerWidth
  | .resize answer => width.resized answer
  | _ => width

/-- Whether an operation views registers. -/
def viewsRegisters (settings : Settings) (inspector : Inspector) : Operation → Bool
  | .refresh tokens => .registers ∈ Session.namedSections settings tokens
  | .command words =>
      match Command.accept inspector words with
      | .ok (.context tokens) => .registers ∈ Session.namedSections settings tokens
      | .ok (.registers _) => true
      | .error _ => false
  | .renderRegisters _ => true
  | _ => false

/-- Whether an operation records the events that wait. -/
def polls (inspector : Inspector) : Operation → Bool
  | .refresh _ | .report _ => true
  | .command words =>
      match Command.accept inspector words with
      | .ok (.context _) => true
      | .ok (.registers _) | .error _ => false
  | _ => false

end Operation

namespace Situation

variable (situation : Situation) (inspector : Inspector)

/-- A command is refused and nothing is done, or it is noticed and performed. -/
theorem perform_command (words : List String) :
    situation.perform inspector (.command words) =
      match Command.accept inspector words with
      | .error cause => pure (situation, .refused cause)
      | .ok command =>
          let turn := situation.session.perform inspector situation.world command
          ⟨(situation.afterTurn turn.value).afterDelivery turn.value.result,
            .commandRun :: turn.notices⟩ := by
  simp only [perform, Session.runCommand, Command.accept]
  cases Command.parse words with
  | error failure => rfl
  | ok command =>
      cases inspector.alive with
      | false => rfl
      | true =>
          dsimp only [bind, pure, Noted.note]
          simp only [List.append_nil, if_true]
          rfl

theorem perform_command_of_error {words : List String} {cause : Failure}
    (refused : Command.accept inspector words = .error cause) :
    (situation.perform inspector (.command words)).value = (situation, .refused cause) := by
  rw [perform_command, refused]
  rfl

theorem perform_command_of_ok {words : List String} {command : Command}
    (accepted : Command.accept inspector words = .ok command) :
    (situation.perform inspector (.command words)).value =
      let turn := (situation.session.perform inspector situation.world command).value
      (situation.afterTurn turn).afterDelivery turn.result := by
  rw [perform_command, accepted]

theorem perform_command_of_context {words tokens : List String}
    (accepted : Command.accept inspector words = .ok (.context tokens)) :
    (situation.perform inspector (.command words)).value =
      (situation.perform inspector (.refresh tokens)).value :=
  situation.perform_command_of_ok inspector accepted

theorem perform_command_of_registers {words names : List String}
    (accepted : Command.accept inspector words = .ok (.registers names)) :
    (situation.perform inspector (.command words)).value =
      let turn := (situation.session.renderRegisters inspector (some names)).value
      (situation.afterTurn turn).afterDelivery
        (Session.writePrimary situation.world turn.result).value :=
  situation.perform_command_of_ok inspector accepted

/-- The session after a command is that after a refresh, that after a register view, or
the one before. -/
theorem session_perform_command (words : List String) :
    (situation.perform inspector (.command words)).value.1.session =
      match Command.accept inspector words with
      | .ok (.context tokens) => (situation.perform inspector (.refresh tokens)).value.1.session
      | .ok (.registers names) =>
          (situation.perform inspector (.renderRegisters (some names))).value.1.session
      | .error _ => situation.session := by
  cases read : Command.accept inspector words with
  | error cause => rw [perform_command_of_error situation inspector read]
  | ok command =>
      cases command with
      | context tokens => rw [perform_command_of_context situation inspector read]
      | registers names =>
          rw [perform_command_of_registers situation inspector read]
          rfl

theorem session_perform_send (channel : Nat) (event : LifecycleEvent) :
    (situation.perform inspector (.send channel event)).value.1.session =
      { situation.session with
        channel := situation.session.channel.map fun current =>
          if current.number = channel then { current with waiting := current.waiting ++ [event] }
          else current } := by
  rcases situation with ⟨session, world, checks⟩
  rcases session with ⟨settings, memory, lifecycle, channel?, opened, highlighter, width⟩
  simp only [perform, Session.send, Noted.value_pure]
  cases channel? with
  | none => rfl
  | some current =>
      by_cases same : current.number = channel
      · simp [same]
      · simp [same]

theorem settings_perform (operation : Operation) :
    (situation.perform inspector operation).value.1.session.settings =
      operation.settingsAfter situation.session.settings := by
  cases operation with
  | command words =>
      rw [session_perform_command]
      split <;> rfl
  | send channel event => rw [session_perform_send]; rfl
  | _ => rfl

theorem width_perform (operation : Operation) :
    (situation.perform inspector operation).value.1.session.width =
      operation.widthAfter situation.session.width := by
  cases operation with
  | command words =>
      rw [session_perform_command]
      split <;> rfl
  | send channel event => rw [session_perform_send]; rfl
  | _ => rfl

theorem snapshot_perform_refresh (tokens : List String) :
    (situation.perform inspector (.refresh tokens)).value.1.session.memory.snapshot =
      if .registers ∈ Session.namedSections situation.session.settings tokens then
        inspector.snapshot
      else situation.session.memory.snapshot := by
  calc
    (situation.perform inspector (.refresh tokens)).value.1.session.memory.snapshot =
        ((situation.session.scene inspector situation.world.files).blocks
          (Session.renderingOrder situation.session.settings
            (Session.requestedSections situation.session.settings tokens).value)
          situation.session.memory).value.2.snapshot := rfl
    _ = _ := by
        rw [Scene.snapshot_blocks]
        simp only [Session.mem_renderingOrder_iff]
        rfl

/-- A snapshot is taken by the operations that view registers, and forgotten by those
that start or end. -/
theorem snapshot_perform (operation : Operation) :
    (situation.perform inspector operation).value.1.session.memory.snapshot =
      match operation with
      | .start | .finish => .empty
      | operation =>
          if operation.viewsRegisters situation.session.settings inspector then inspector.snapshot
          else situation.session.memory.snapshot := by
  cases operation with
  | refresh tokens =>
      rw [snapshot_perform_refresh]
      simp [Operation.viewsRegisters]
  | command words =>
      rw [session_perform_command]
      rcases Command.accept_cases inspector words with
        ⟨tokens, read⟩ | ⟨names, read⟩ | ⟨cause, read⟩
      · simp [read, Operation.viewsRegisters, snapshot_perform_refresh]
      · simp only [read, Operation.viewsRegisters, if_true]
        rfl
      · simp [read, Operation.viewsRegisters]
  | send channel event => rw [session_perform_send]; rfl
  | _ => rfl

/-- The record changes by an event that is reported and by events that are polled, and is
emptied when a session starts or ends. -/
theorem lifecycle_perform (operation : Operation) :
    (situation.perform inspector operation).value.1.session.lifecycle =
      match operation with
      | .start | .finish => .empty
      | operation =>
          let session := situation.session
          let polled :=
            (session.lifecycle.recordAll inspector session.palette session.waiting).record
          match operation with
          | .report event => (polled.record inspector session.palette event).record
          | operation => if operation.polls inspector then polled else session.lifecycle := by
  cases operation with
  | command words =>
      rw [session_perform_command]
      rcases Command.accept_cases inspector words with
        ⟨tokens, read⟩ | ⟨names, read⟩ | ⟨cause, read⟩ <;>
        simp only [read, Operation.polls] <;> rfl
  | send channel event => rw [session_perform_send]; rfl
  | _ => rfl

/-- The channel is replaced by a subscription, takes the events that are sent on it, and
is emptied when it is polled. -/
theorem channel_perform (operation : Operation) :
    (situation.perform inspector operation).value.1.session.channel =
      match operation with
      | .subscribe => some ⟨situation.session.opened, []⟩
      | .send channel event =>
          situation.session.channel.map fun current =>
            if current.number = channel then
              { current with waiting := current.waiting ++ [event] }
            else current
      | operation =>
          if operation.polls inspector then
            situation.session.channel.map fun current => { current with waiting := [] }
          else situation.session.channel := by
  cases operation with
  | command words =>
      rw [session_perform_command]
      rcases Command.accept_cases inspector words with
        ⟨tokens, read⟩ | ⟨names, read⟩ | ⟨cause, read⟩ <;>
        simp only [read, Operation.polls] <;> rfl
  | send channel event => rw [session_perform_send]
  | _ => rfl

theorem opened_perform (operation : Operation) :
    (situation.perform inspector operation).value.1.session.opened =
      match operation with
      | .subscribe => situation.session.opened + 1
      | _ => situation.session.opened := by
  cases operation with
  | command words =>
      rw [session_perform_command]
      split <;> rfl
  | send channel event => rw [session_perform_send]
  | _ => rfl

/-- What every operation keeps between a situation and an account of the past holds after
every run. -/
theorem run_preserves {Past : Type} {advance : Past → Inspector × Operation → Past}
    (holds : Past → Situation → Prop) {steps : List (Inspector × Operation)}
    (kept : ∀ step ∈ steps, ∀ past situation, holds past situation →
      holds (advance past step) (perform situation step.1 step.2).value.1)
    {past : Past} {situation : Situation} (now : holds past situation) :
    holds (steps.foldl advance past) (situation.run steps).value.1 := by
  induction steps generalizing past situation with
  | nil => exact now
  | cons step rest ih =>
      have next := kept step List.mem_cons_self past situation now
      exact ih (fun later listed => kept later (List.mem_cons_of_mem step listed)) next

/-- What every operation keeps holds after every run. -/
theorem run_keeps (holds : Situation → Prop) {steps : List (Inspector × Operation)}
    (kept : ∀ step ∈ steps, ∀ situation, holds situation →
      holds (perform situation step.1 step.2).value.1)
    {situation : Situation} (now : holds situation) : holds (situation.run steps).value.1 :=
  @run_preserves Unit (fun past _ => past) (fun _ => holds) steps
    (fun step listed _ => kept step listed) () situation now

/-- What every operation keeps between two situations holds after the same run of both. -/
theorem run_relates (related : Situation → Situation → Prop)
    (kept : ∀ (inspector : Inspector) (operation : Operation) (left right : Situation),
      related left right →
        related (left.perform inspector operation).value.1
          (right.perform inspector operation).value.1)
    (steps : List (Inspector × Operation)) {left right : Situation} (now : related left right) :
    related (left.run steps).value.1 (right.run steps).value.1 := by
  induction steps generalizing left right with
  | nil => exact now
  | cons step rest ih => exact ih (kept step.1 step.2 left right now)

end Situation

end StopView
