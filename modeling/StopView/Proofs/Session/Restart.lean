import StopView.Proofs.Lifecycle.Arrival
import StopView.Proofs.Session.Deliveries

/-!
# Restarted sessions

A debugging session that starts or ends leaves a session as it would have been built: with the
same settings, highlighter and width, and with the same channels opened and the same events
waiting, but with nothing remembered or recorded.  From there on the two do the same, whatever
comes, and the inspector's extensions are asked for as often.
-/

namespace StopView

/-- The boundaries between debugging sessions. -/
inductive Boundary where
  | start
  | finish
deriving Repr, DecidableEq

/-- The operation at a boundary. -/
def Boundary.operation : Boundary → Operation
  | .start => .start
  | .finish => .finish

namespace Session

/-- The operations that send what waits, on the channel that was opened last. -/
def resending (session : Session) : List Operation :=
  session.waiting.map (.send (session.opened - 1))

/-- The operations that attach the channel of a session to one that was just built: as many
channels are opened, and what waits is sent on the last. -/
def attaching (session : Session) : List Operation :=
  List.replicate session.opened .subscribe ++ session.resending

/-- A session with nothing waiting on its channel. -/
def emptied (session : Session) : Session :=
  { session with channel := session.channel.map fun channel => { channel with waiting := [] } }

/-- The number of the channel that was opened last of so many. -/
def lastNumber? : Nat → Option Nat
  | 0 => none
  | last + 1 => some last

/-- The channel of a session is the one that was opened last. -/
def HasLatest (session : Session) : Prop :=
  session.channelNumber? = lastNumber? session.opened

/-- A session with another channel, which is one of so many. -/
def onChannel (session : Session) (channel : Option EventChannel) (opened : Nat) : Session :=
  { session with channel, opened }

theorem emptied_eq_onChannel (session : Session) :
    session.emptied =
      session.onChannel (session.channelNumber?.map (⟨·, []⟩)) session.opened := by
  rw [emptied, onChannel, channelNumber?, Option.map_map]
  rfl

end Session

namespace Situation

section Kept

variable (situation : Situation) (inspector : Inspector)

/-! ## What stays over a run -/

theorem width_run (steps : List (Inspector × Operation)) {columns : Nat}
    (settled : situation.session.width = .fixed columns) :
    (situation.run steps).value.1.session.width = .fixed columns := by
  apply run_keeps (fun now => now.session.width = .fixed columns) _ settled
  intro step _ now same
  rw [width_perform, same]
  cases step.2 <;> rfl

/-- A subscription opens the last channel, and no other operation opens one or puts one in
place of another. -/
theorem hasLatest_perform (operation : Operation) (latest : situation.session.HasLatest) :
    (situation.perform inspector operation).value.1.session.HasLatest := by
  rw [Session.HasLatest, channelNumber?_perform, opened_perform]
  cases operation with
  | subscribe => rfl
  | _ => exact latest

theorem hasLatest_run (steps : List (Inspector × Operation))
    (latest : situation.session.HasLatest) :
    (situation.run steps).value.1.session.HasLatest :=
  run_keeps (fun now => now.session.HasLatest)
    (fun step _ now latest => now.hasLatest_perform step.1 step.2 latest) latest

/-- A boundary forgets what was remembered and recorded and does nothing else. -/
theorem perform_boundary (boundary : Boundary) :
    (situation.perform inspector boundary.operation).value =
      ({ situation with session := situation.session.reset }, .done) := by
  cases boundary <;> rfl

end Kept

/-! ## Attaching a channel -/

section Attaching

variable (session : Session) (inspector : Inspector) (world : World) (checks : Nat)

theorem run_subscribe (count : Nat) :
    (run ⟨session.onChannel none 0, world, checks⟩
        (List.replicate count (inspector, .subscribe))).value.1 =
      ⟨session.onChannel ((Session.lastNumber? count).map (⟨·, []⟩)) count, world, checks⟩ := by
  induction count with
  | zero => rfl
  | succ last ih =>
      rw [List.replicate_succ', value_run_append]
      dsimp only
      rw [ih]
      rfl

theorem run_send (number opened : Nat) (waiting events : List LifecycleEvent) :
    (run ⟨session.onChannel (some ⟨number, waiting⟩) opened, world, checks⟩
        (events.map fun event => (inspector, .send number event))).value.1 =
      ⟨session.onChannel (some ⟨number, waiting ++ events⟩) opened, world, checks⟩ := by
  induction events generalizing waiting with
  | nil =>
      rw [List.append_nil]
      rfl
  | cons event rest ih =>
      have first :
          (perform ⟨session.onChannel (some ⟨number, waiting⟩) opened, world, checks⟩ inspector
            (.send number event)).value.1 =
          ⟨session.onChannel (some ⟨number, waiting ++ [event]⟩) opened, world, checks⟩ := by
        simp [perform, Session.send, Session.onChannel]
      rw [List.map_cons, run]
      dsimp only [Noted.value_bind, Noted.value_pure]
      rw [first, ih, List.append_assoc]
      rfl

/-- What waits is there again if it is taken away and sent once more. -/
theorem run_resending (latest : session.HasLatest) :
    (run ⟨session.emptied, world, checks⟩
        (session.resending.map fun operation => (inspector, operation))).value.1 =
      ⟨session, world, checks⟩ := by
  rcases session with ⟨settings, memory, lifecycle, channel?, opened, highlighter, width⟩
  cases channel? with
  | none => rfl
  | some channel =>
      cases opened with
      | zero => contradiction
      | succ last =>
          -- Only now is there a channel that events can be sent on, and it is this one.
          have number : channel.number = last := Option.some.inj latest
          subst number
          rw [Session.resending, List.map_map]
          exact run_send ⟨settings, memory, lifecycle, none, 0, highlighter, width⟩ inspector world
            checks channel.number _ [] channel.waiting

/-- A session that was just built and then attached to the channel of another has that
channel, with the same events on it and under the same number. -/
theorem run_attaching {reached : Session} (latest : reached.HasLatest) :
    (run ⟨session.onChannel none 0, world, checks⟩
        (reached.attaching.map fun operation => (inspector, operation))).value.1 =
      ⟨session.onChannel reached.channel reached.opened, world, checks⟩ := by
  let attached := session.onChannel reached.channel reached.opened
  have sent : (run ⟨attached.emptied, world, checks⟩
      (reached.resending.map fun operation => (inspector, operation))).value.1 =
      ⟨attached, world, checks⟩ :=
    run_resending attached inspector world checks latest
  have numbered : attached.channelNumber? = Session.lastNumber? reached.opened := latest
  rw [Session.emptied_eq_onChannel, numbered] at sent
  rw [Session.attaching, List.map_append, List.map_replicate, value_run_append]
  dsimp only
  rw [run_subscribe]
  exact sent

end Attaching

/-! ## Counting otherwise -/

section Charged

variable (situation : Situation) (extra : Nat)

/-- The situation if the inspector's extensions had been asked for more often before. -/
def charged : Situation :=
  { situation with checks := extra + situation.checks }

theorem afterTurn_charged {α : Type} (turn : Turn α) :
    (situation.charged extra).afterTurn turn = (situation.afterTurn turn).charged extra := by
  rw [afterTurn, afterTurn, charged, charged, Nat.add_assoc]

/-- No operation depends on how often the extensions had been asked for. -/
theorem perform_charged (inspector : Inspector) (operation : Operation) :
    (situation.charged extra).perform inspector operation =
      let performed := situation.perform inspector operation
      ⟨(performed.value.1.charged extra, performed.value.2), performed.notices⟩ := by
  have session : (situation.charged extra).session = situation.session := rfl
  have world : (situation.charged extra).world = situation.world := rfl
  cases operation with
  | refresh tokens =>
      simp only [perform, afterTurn_charged]
      rfl
  | command words =>
      simp only [perform, afterTurn_charged, session, world]
      rcases situation.session.runCommand inspector situation.world words with ⟨answer, notices⟩
      cases answer <;> rfl
  | renderRegisters asked =>
      simp only [perform, afterTurn_charged]
      rfl
  | report event =>
      simp only [perform, afterTurn_charged]
      rfl
  | _ => rfl

theorem run_charged (steps : List (Inspector × Operation)) :
    (situation.charged extra).run steps =
      let made := situation.run steps
      ⟨(made.value.1.charged extra, made.value.2), made.notices⟩ := by
  induction steps generalizing situation with
  | nil => rfl
  | cons step rest ih =>
      rcases step with ⟨inspector, operation⟩
      have further := ih (situation.perform inspector operation).value.1
      rw [run, perform_charged]
      dsimp only [bind]
      rw [further]
      rfl

theorem deliveries_charged (steps : List (Inspector × Operation)) :
    (situation.charged extra).deliveries steps = situation.deliveries steps := by
  induction steps generalizing situation with
  | nil => rfl
  | cons step rest ih =>
      rcases step with ⟨inspector, operation⟩
      have further := ih (situation.perform inspector operation).value.1
      rw [deliveries, deliveries, perform_charged, further]
      rfl

end Charged

/-! ## The main result -/

/-- What is left of a session at a boundary: what it was built with, its settings and its
channel. -/
theorem reset_run (settings : Settings) (highlighter : Highlighter) (width : BannerWidth)
    (world : World) (checks : Nat) (before : List (Inspector × Operation)) :
    let reached := (run ⟨.fresh settings highlighter width, world, checks⟩ before).value.1.session
    reached.reset =
      (Session.fresh reached.settings highlighter reached.width).onChannel reached.channel
        reached.opened := by
  intro reached
  have settled : reached.highlighter = highlighter := highlighter_run _ before
  rw [Session.reset, Session.onChannel, Session.fresh, settled]

/-- After a debugging session starts or ends, a session does what one would do that is built
at that moment with the same settings, highlighter and width, in the same world and attached
to the same channel with the same events on it: every operation has the same outcome, whether
it is a report or the lines of registers, hands the same batches to the router, is noticed
alike and asks for extensions as often, and the sessions and worlds are the same in the end.
So nothing that was remembered or recorded before makes a difference.  The width is the one that
was settled at first, or else that of the terminal at that moment. -/
theorem restart_is_fresh_session (settings : Settings) (highlighter : Highlighter)
    (width : BannerWidth) (world : World) (checks : Nat) (before : List (Inspector × Operation))
    (inspector : Inspector) (boundary : Boundary) (later : List (Inspector × Operation)) :
    let reached := (run ⟨.fresh settings highlighter width, world, checks⟩ before).value.1
    let restarted := (reached.perform inspector boundary.operation).value.1
    let built : Situation :=
      ⟨.fresh reached.session.settings highlighter reached.session.width, reached.world, 0⟩
    let attached := (built.run (reached.session.attaching.map fun operation =>
      (inspector, operation))).value.1
    let old := restarted.run later
    let new := attached.run later
    (attached.session.channel = reached.session.channel ∧
      attached.session.opened = reached.session.opened ∧
      attached.world = reached.world ∧
      attached.checks = 0 ∧
      ∀ columns, width = .fixed columns → reached.session.width = width) ∧
    old.value.2 = new.value.2 ∧
    restarted.deliveries later = attached.deliveries later ∧
    old.notices = new.notices ∧
    old.value.1.checks = reached.checks + new.value.1.checks ∧
    old.value.1.session = new.value.1.session ∧
    old.value.1.world = new.value.1.world ∧
    ∀ (memory : ViewMemory) (lifecycle : LifecycleRecord),
      let other : Situation :=
        { reached with session := { reached.session with memory, lifecycle } }
      (other.perform inspector boundary.operation).value.1.run later = old := by
  intro reached restarted built attached old new
  have latest : reached.session.HasLatest := hasLatest_run _ before rfl
  have attachedNow : attached =
      ⟨(Session.fresh reached.session.settings highlighter reached.session.width).onChannel
        reached.session.channel reached.session.opened, reached.world, 0⟩ :=
    run_attaching (.fresh reached.session.settings highlighter reached.session.width) inspector
      reached.world 0 latest
  have same : restarted = attached.charged reached.checks := by
    calc
      restarted = ⟨reached.session.reset, reached.world, reached.checks⟩ :=
        congrArg Prod.fst (reached.perform_boundary inspector boundary)
      _ = attached.charged reached.checks := by
        rw [reset_run settings highlighter width world checks before, attachedNow]
        rfl
  have runs : old = (attached.charged reached.checks).run later := congrArg (run · later) same
  rw [run_charged] at runs
  constructor
  · rw [attachedNow]
    refine ⟨rfl, rfl, rfl, rfl, ?_⟩
    rintro columns rfl
    exact width_run _ before rfl
  constructor
  · rw [runs]
  constructor
  · rw [same, deliveries_charged]
  constructor
  · rw [runs]
  constructor
  · rw [runs]
    rfl
  constructor
  · rw [runs]
    rfl
  constructor
  · rw [runs]
    rfl
  · -- A boundary never looks at what it forgets.
    intro memory lifecycle other
    have forgotten : (other.perform inspector boundary.operation).value.1 = restarted := by
      cases boundary <;> rfl
    rw [forgotten]

end Situation

end StopView
