import StopView.Inspector.Script
import StopView.Proofs.Lifecycle.Message
import StopView.Proofs.Session.Step
import StopView.Proofs.Session.View

/-!
# Events in the order of their arrival

An event arrives when it is reported or when it is sent on the session's channel.  One
that is sent waits until the next poll, and one that is reported directly makes the
session poll first.  So at every moment the record, together with what waits, is the
record of all events in the order of their arrival: nothing is lost, applied twice or
overtaken.

A channel that has been replaced stays replaced, because numbers are given out once.
-/

namespace StopView

namespace Operation

/-- The event that arrives by an operation while a channel is the current one. -/
def arrival? (number : Option Nat) : Operation → Option LifecycleEvent
  | .report event => some event
  | .send channel event => if some channel = number then some event else none
  | _ => none

/-- An operation that neither starts nor ends anything, leaves the channel in place and
does not switch colours. -/
structure Continues (operation : Operation) : Prop where
  start : operation ≠ .start
  finish : operation ≠ .finish
  subscribe : operation ≠ .subscribe
  colour : ∀ settings, (operation.settingsAfter settings).colour = settings.colour

theorem continues_of_polls {operation : Operation} {inspector : Inspector}
    (polls : operation.polls inspector = true) : operation.Continues where
  start := by
    rintro rfl
    contradiction
  finish := by
    rintro rfl
    contradiction
  subscribe := by
    rintro rfl
    contradiction
  colour settings := by
    cases operation with
    | set name value => contradiction
    | setSections value => contradiction
    | setOutput key output => contradiction
    | _ => rfl

end Operation

/-- The events that arrive by several operations. -/
def arrivals (number : Option Nat) (operations : List Operation) : List LifecycleEvent :=
  operations.filterMap (Operation.arrival? number)

theorem foldl_arrivals (inspector : Inspector) (number : Option Nat)
    (events : List LifecycleEvent) (operations : List Operation) :
    (operations.map fun operation => (inspector, operation)).foldl
        (fun events step => events ++ (step.2.arrival? number).toList) events =
      events ++ arrivals number operations := by
  induction operations generalizing events with
  | nil => exact (List.append_nil events).symm
  | cons operation rest ih =>
      rw [List.map_cons, List.foldl_cons, ih]
      cases arrived : operation.arrival? number with
      | none => simp [arrivals, List.filterMap_cons_none arrived]
      | some event => simp [arrivals, List.filterMap_cons_some arrived]

namespace Session

/-- The number of the current channel. -/
def channelNumber? (session : Session) : Option Nat :=
  session.channel.map EventChannel.number

/-- The record after the events that have arrived, if all of them were recorded. -/
def told (session : Session) (inspector : Inspector) (events : List LifecycleEvent) :
    LifecycleRecord :=
  (session.lifecycle.recordAll inspector session.palette events).record

/-- A session in which some events have arrived since an earlier one: the record, once
what waits is recorded, is that of all of them. -/
structure Arrived (inspector : Inspector) (start : Session) (events : List LifecycleEvent)
    (session : Session) : Prop where
  colour : session.palette.colour = start.palette.colour
  number : session.channelNumber? = start.channelNumber?
  record : session.told inspector session.waiting = start.told inspector events

end Session

namespace Situation

variable {situation : Situation} {inspector : Inspector}

theorem colour_perform {operation : Operation} (continues : operation.Continues) :
    (situation.perform inspector operation).value.1.session.palette.colour =
      situation.session.palette.colour := by
  rw [Session.palette, Session.palette, settings_perform, continues.colour]

/-- A channel stays the current one until it is replaced by a subscription. -/
theorem channelNumber?_perform (situation : Situation) (inspector : Inspector)
    (operation : Operation) :
    (situation.perform inspector operation).value.1.session.channelNumber? =
      match operation with
      | .subscribe => some situation.session.opened
      | _ => situation.session.channelNumber? := by
  rw [Session.channelNumber?, Session.channelNumber?, channel_perform]
  cases operation with
  | subscribe => rfl
  | send channel event =>
      cases situation.session.channel with
      | none => rfl
      | some current =>
          simp only [Option.map_some]
          split <;> rfl
  | _ =>
      dsimp only
      split
      · rw [Option.map_map]
        rfl
      · rfl

theorem channelNumber?_perform_of_continues {operation : Operation}
    (continues : operation.Continues) :
    (situation.perform inspector operation).value.1.session.channelNumber? =
      situation.session.channelNumber? := by
  rw [channelNumber?_perform]
  cases operation with
  | subscribe => exact absurd rfl continues.subscribe
  | _ => rfl

theorem waiting_perform_of_polls {operation : Operation}
    (polls : operation.polls inspector = true) :
    (situation.perform inspector operation).value.1.session.waiting = [] := by
  rw [Session.waiting, channel_perform]
  cases operation with
  | subscribe => contradiction
  | send channel event => contradiction
  | _ =>
      simp only [polls, if_true]
      cases situation.session.channel <;> rfl

/-- What is recorded after a poll: what had waited, and then what is reported. -/
theorem lifecycle_perform_of_polls {operation : Operation} (number : Option Nat)
    (polls : operation.polls inspector = true) :
    (situation.perform inspector operation).value.1.session.lifecycle =
      situation.session.told inspector
        (situation.session.waiting ++ (operation.arrival? number).toList) := by
  rw [lifecycle_perform, Session.told]
  cases operation with
  | start => contradiction
  | finish => contradiction
  | report event =>
      rw [Operation.arrival?, Option.toList_some, LifecycleRecord.record_recordAll_concat]
  | send channel event => contradiction
  | _ =>
      simp [polls, Operation.arrival?]

theorem lifecycle_perform_of_not_polls {operation : Operation} (noStart : operation ≠ .start)
    (noFinish : operation ≠ .finish) (idle : operation.polls inspector = false) :
    (situation.perform inspector operation).value.1.session.lifecycle =
      situation.session.lifecycle := by
  rw [lifecycle_perform]
  cases operation with
  | start => exact absurd rfl noStart
  | finish => exact absurd rfl noFinish
  | report event => contradiction
  | _ => simp [idle]

theorem waiting_perform_of_not_polls {operation : Operation}
    (continues : operation.Continues) (idle : operation.polls inspector = false) :
    (situation.perform inspector operation).value.1.session.waiting =
      situation.session.waiting ++
        (operation.arrival? situation.session.channelNumber?).toList := by
  rw [Session.waiting, channel_perform, Session.waiting, Session.channelNumber?]
  cases operation with
  | subscribe => exact absurd rfl continues.subscribe
  | report event => contradiction
  | send channel event =>
      cases situation.session.channel with
      | none => rfl
      | some current =>
          simp only [Option.map_some, Operation.arrival?, Option.some.injEq]
          by_cases same : current.number = channel
          · rw [if_pos same, if_pos same.symm]
            rfl
          · rw [if_neg same, if_neg (Ne.symm same)]
            exact (List.append_nil _).symm
  | _ => simp [idle, Operation.arrival?]

/-- The account of what has arrived stays right with every operation. -/
theorem arrived_perform {start : Session} {events : List LifecycleEvent}
    (now : Session.Arrived inspector start events situation.session) {operation : Operation}
    (continues : operation.Continues) :
    Session.Arrived inspector start
      (events ++ (operation.arrival? start.channelNumber?).toList)
      (situation.perform inspector operation).value.1.session where
  colour := (colour_perform continues).trans now.colour
  number := (channelNumber?_perform_of_continues continues).trans now.number
  record := by
    have further : situation.session.told inspector
        (situation.session.waiting ++ (operation.arrival? start.channelNumber?).toList) =
        start.told inspector (events ++ (operation.arrival? start.channelNumber?).toList) := by
      have same := now.record
      rw [Session.told, LifecycleRecord.recordAll_congr _ _ now.colour] at same ⊢
      rw [Session.told] at same ⊢
      rw [LifecycleRecord.recordAll_append, LifecycleRecord.recordAll_append]
      simp only [same]
    rw [← further]
    cases polls : operation.polls inspector with
    | true =>
        rw [Session.told, waiting_perform_of_polls polls, LifecycleRecord.recordAll_nil]
        exact lifecycle_perform_of_polls start.channelNumber? polls
    | false =>
        rw [Session.told, lifecycle_perform_of_not_polls continues.start continues.finish polls,
          waiting_perform_of_not_polls continues polls, now.number,
          LifecycleRecord.recordAll_congr _ _ (colour_perform continues)]
        rfl

/-- The account of what has arrived by a whole run. -/
theorem arrived_run (situation : Situation) (inspector : Inspector)
    {operations : List Operation} (continues : ∀ operation ∈ operations, operation.Continues) :
    Session.Arrived inspector situation.session
      (situation.session.waiting ++ arrivals situation.session.channelNumber? operations)
      (situation.run (operations.map fun operation => (inspector, operation))).value.1.session := by
  rw [← foldl_arrivals inspector]
  apply run_preserves fun events now =>
    Session.Arrived inspector situation.session events now.session
  · intro step listed events now arrived
    obtain ⟨operation, operationMem, rfl⟩ := List.mem_map.mp listed
    exact arrived_perform arrived (continues operation operationMem)
  · exact ⟨rfl, rfl, rfl⟩

end Situation

/-! ## Replaced channels -/

/-- Whether an operation sends an event on a channel. -/
def Operation.isSentOn (channel : Nat) : Operation → Bool
  | .send number _ => number == channel
  | _ => false

namespace Session

/-- The current channel has a number that was given out. -/
def Numbered (session : Session) : Prop :=
  ∀ number, session.channelNumber? = some number → number < session.opened

/-- A channel that was opened and is no longer the current one. -/
structure Replaced (channel : Nat) (session : Session) : Prop where
  opened : channel < session.opened
  other : session.channelNumber? ≠ some channel

theorem replaced_subscribe {session : Session} {channel : Nat} (numbered : session.Numbered)
    (current : session.channelNumber? = some channel) : Replaced channel session.subscribe where
  opened := Nat.lt_succ_of_lt (numbered channel current)
  other := by
    intro again
    have same : session.opened = channel := Option.some.inj again
    exact absurd (numbered channel current) (by omega)

end Session

namespace Situation

variable {situation : Situation} {channel : Nat}

theorem numbered_perform (inspector : Inspector) (operation : Operation)
    (numbered : situation.session.Numbered) :
    (situation.perform inspector operation).value.1.session.Numbered := by
  intro number current
  rw [channelNumber?_perform] at current
  rw [opened_perform]
  cases operation with
  | subscribe =>
      have same : situation.session.opened = number := Option.some.inj current
      dsimp only
      omega
  | _ => exact numbered number current

theorem replaced_perform (inspector : Inspector) (operation : Operation)
    (replaced : situation.session.Replaced channel) :
    (situation.perform inspector operation).value.1.session.Replaced channel := by
  constructor
  · rw [opened_perform]
    cases operation with
    | subscribe => exact Nat.lt_succ_of_lt replaced.opened
    | _ => exact replaced.opened
  · rw [channelNumber?_perform]
    cases operation with
    | subscribe =>
        intro again
        have same : situation.session.opened = channel := Option.some.inj again
        exact absurd replaced.opened (by omega)
    | _ => exact replaced.other

/-- The numbers of a session that has run are those that were given out. -/
theorem numbered_run (settings : Settings) (highlighter : Highlighter) (width : BannerWidth)
    (world : World) (checks : Nat) (steps : List (Inspector × Operation)) :
    (run ⟨.fresh settings highlighter width, world, checks⟩ steps).value.1.session.Numbered := by
  apply run_keeps fun now => now.session.Numbered
  · intro step _ now numbered
    exact numbered_perform step.1 step.2 numbered
  · intro number current
    contradiction

theorem perform_send_of_replaced (replaced : situation.session.Replaced channel)
    (inspector : Inspector) (event : LifecycleEvent) :
    (situation.perform inspector (.send channel event)).value = (situation, .sent false) := by
  rcases situation with ⟨session, world, checks⟩
  rcases session with ⟨settings, memory, lifecycle, channel?, opened, highlighter, width⟩
  simp only [perform, Session.send, Noted.value_pure]
  cases channel? with
  | none => rfl
  | some current =>
      have other : current.number ≠ channel := fun same =>
        replaced.other (congrArg some same)
      simp [other]

/-- What is sent on a replaced channel might as well not have been sent. -/
theorem run_filter_of_replaced (replaced : situation.session.Replaced channel)
    (steps : List (Inspector × Operation)) :
    (situation.run (steps.filter fun step => !step.2.isSentOn channel)).value.1 =
      (situation.run steps).value.1 := by
  induction steps generalizing situation with
  | nil => rfl
  | cons step rest ih =>
      rcases step with ⟨inspector, operation⟩
      have goesOn : ∀ {now : Situation}, now = (situation.perform inspector operation).value.1 →
          (situation.run ((inspector, operation) :: rest)).value.1 = (now.run rest).value.1 := by
        rintro now rfl
        rfl
      cases sent : operation.isSentOn channel with
      | false =>
          rw [List.filter_cons_of_pos (by simp [sent])]
          exact ih (replaced_perform inspector operation replaced)
      | true =>
          rw [List.filter_cons_of_neg (by simp [sent]), ih replaced]
          cases operation with
          | send number event =>
              have same : number = channel := beq_iff_eq.mp sent
              subst same
              exact (goesOn (by rw [perform_send_of_replaced replaced])).symm
          | _ => contradiction

/-- Whatever waited on a replaced channel and whatever is still sent on it makes no
difference. -/
theorem run_subscribe_of_replaced {inspector : Inspector}
    (numbered : situation.session.Numbered)
    (current : situation.session.channelNumber? = some channel) (queued : List LifecycleEvent)
    (later : List (Inspector × Operation)) :
    let before := { situation with
      session := { situation.session with channel := some ⟨channel, queued⟩ } }
    ((before.perform inspector .subscribe).value.1.run later).value.1 =
      ((situation.perform inspector .subscribe).value.1.run
        (later.filter fun step => !step.2.isSentOn channel)).value.1 := by
  intro before
  have replaced : (situation.perform inspector .subscribe).value.1.session.Replaced channel :=
    Session.replaced_subscribe numbered current
  exact (run_filter_of_replaced replaced later).symm

/-- Events are applied once each and in the order of their arrival, by every interleaving
of operations that leave the channel in place: after a poll, the record is that of all of
them and nothing waits.  A refresh tells of the latest one, and does so again while no
event arrives.  Once the channel is replaced, nothing that was or is sent on it is
applied. -/
theorem events_apply_once_in_order_of_arrival (settings : Settings) (highlighter : Highlighter)
    (width : BannerWidth) (world : World) (checks : Nat) (before : List (Inspector × Operation))
    (inspector : Inspector) (operations : List Operation)
    (continues : ∀ operation ∈ operations, operation.Continues) :
    let start := (run ⟨.fresh settings highlighter width, world, checks⟩ before).value.1
    let now := (start.run (operations.map fun operation => (inspector, operation))).value.1
    let number := start.session.channelNumber?
    let events := start.session.waiting ++ arrivals number operations
    let record := start.session.told inspector events
    (∀ operation, operation.polls inspector = true →
      let after := (now.perform inspector operation).value.1.session
      after.lifecycle =
          start.session.told inspector (events ++ (operation.arrival? number).toList) ∧
        after.waiting = []) ∧
      (record.lines =
        match events.getLast? with
        | some event =>
            event.message inspector start.session.palette
              (start.session.lifecycle.replays inspector)
        | none => start.session.lifecycle.lines) ∧
      (∀ more, (∀ operation ∈ more, operation.Continues) → arrivals number more = [] →
        let later := (now.run (more.map fun operation => (inspector, operation))).value.1
        ∀ tokens,
          let block := Session.linesOf (later.session.rendered inspector later.world.files tokens)
          let batches := viewBatches later.session.settings later.session.palette
            later.world.terminal (Session.requestedSections later.session.settings tokens).value
            block record.lines
          (later.session.refresh inspector later.world tokens).value.result =
            (later.world.deliverAll batches later.session.settings.clearScreen).value) ∧
      ∀ channel, number = some channel → ∀ queued later,
        let replaced := { now with
          session := { now.session with channel := some ⟨channel, queued⟩ } }
        ((replaced.perform inspector .subscribe).value.1.run later).value.1 =
          ((now.perform inspector .subscribe).value.1.run
            (later.filter fun step => !step.2.isSentOn channel)).value.1 := by
  intro start now number events record
  have arrived : Session.Arrived inspector start.session events now.session :=
    arrived_run start inspector continues
  constructor
  · intro operation polls after
    have next := arrived_perform arrived (Operation.continues_of_polls polls)
    have waiting : after.waiting = [] := waiting_perform_of_polls polls
    have told := next.record
    rw [waiting] at told
    exact ⟨told, waiting⟩
  constructor
  · exact start.session.lifecycle.lines_recordAll inspector start.session.palette events
  constructor
  · intro more moreContinues silent later tokens block batches
    have further : Session.Arrived inspector now.session
        (now.session.waiting ++ arrivals now.session.channelNumber? more) later.session :=
      arrived_run now inspector moreContinues
    rw [arrived.number, silent, List.append_nil] at further
    have polled : (later.session.pollEvents inspector).value.session.lifecycle = record :=
      further.record.trans arrived.record
    have delivered := later.session.result_refresh inspector later.world tokens
    rw [polled] at delivered
    exact delivered
  · intro channel current queued later
    have numbered : now.session.Numbered := by
      apply run_keeps fun now => now.session.Numbered
      · intro step _ now numbered
        exact numbered_perform step.1 step.2 numbered
      · exact numbered_run settings highlighter width world checks before
    exact run_subscribe_of_replaced numbered (arrived.number.trans current) queued later

/-- A fault that waits, an event on a channel that nobody has opened and an exit that is
reported: the exit is told, and that a recording is replayed is remembered. -/
theorem exit_is_told_after_queued_fault :
    let inspector := { Script.blank with extensions := [replayExtension] }.inspector
    let start := (run ⟨.fresh .initial plainHighlighter 12, ⟨.initial, .fresh, none⟩, 0⟩
      [(inspector, .subscribe)]).value.1
    let operations : List Operation :=
      [.send 0 (.stopped (.signal segmentationFault)), .send 1 .continued, .renderRegisters none]
    let now := (start.run (operations.map fun operation => (inspector, operation))).value.1
    let exited : Operation := .report (.exited (some 3))
    (∀ operation ∈ operations, operation.Continues) ∧
      exited.polls inspector = true ∧
      (now.perform inspector exited).value.1.session.lifecycle =
        ⟨[start.session.palette.paint .exitMessage "Exited: 3"], some true⟩ := by
  intro inspector start operations now exited
  have continues : ∀ operation ∈ operations, operation.Continues := by
    intro operation listed
    simp only [operations, List.mem_cons, List.not_mem_nil, or_false] at listed
    rcases listed with rfl | rfl | rfl <;>
      exact ⟨by simp, by simp, by simp, fun _ => rfl⟩
  have applied := events_apply_once_in_order_of_arrival .initial plainHighlighter 12
    ⟨.initial, .fresh, none⟩ 0 [(inspector, .subscribe)] inspector operations continues
  constructor
  · exact continues
  constructor
  · rfl
  · exact (applied.1 exited rfl).1.trans (by decide +kernel)

end Situation

end StopView
