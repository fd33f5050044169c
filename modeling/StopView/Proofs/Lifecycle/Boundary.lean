import StopView.Proofs.Session.Restart

/-!
# Events across the boundaries of debugging sessions

A debugging session that starts or ends empties the record, but not the channel.  What was
recorded is forgotten; what still waits is recorded by the next poll, as if it had been sent
after the boundary.  Only events that leave no trace in a record cross a boundary unnoticed.
-/

namespace StopView

/-! ## Events without a trace -/

/-- Whether there is nothing to tell of an event. -/
def LifecycleEvent.tellsNothing : LifecycleEvent → Bool
  | .continued | .exited none | .stopped .other | .stopped (.breakpoint []) => true
  | _ => false

theorem LifecycleEvent.message_eq_nil_iff (event : LifecycleEvent) (inspector : Inspector)
    (palette : Palette) (replay : Bool) :
    event.message inspector palette replay = [] ↔ event.tellsNothing = true := by
  cases event with
  | continued => exact iff_of_true rfl rfl
  | exited code =>
      cases code with
      | none => exact iff_of_true rfl rfl
      | some code => simp [message, tellsNothing]
  | stopped kind =>
      cases kind with
      | other => exact iff_of_true rfl rfl
      | signal name => simp [message, tellsNothing]
      | breakpoint locations => cases locations <;> simp [message, tellsNothing]

/-- Events that leave no trace: there is nothing to tell of the last one, and none of them is a
segmentation fault, from which on it is remembered whether a recording is replayed. -/
structure LeavesNoTrace (events : List LifecycleEvent) : Prop where
  last : ∀ event, events.getLast? = some event → event.tellsNothing = true
  noFault : .stopped (.signal segmentationFault) ∉ events

namespace LifecycleRecord

/-- The record stays empty exactly with events that leave no trace. -/
theorem recordAll_empty_eq_empty_iff (inspector : Inspector) (palette : Palette)
    (events : List LifecycleEvent) :
    (empty.recordAll inspector palette events).record = empty ↔ LeavesNoTrace events := by
  have lines := empty.lines_recordAll inspector palette events
  have replay := empty.replay_recordAll inspector palette events
  constructor
  · intro unchanged
    rw [unchanged] at lines replay
    constructor
    · intro event last
      rw [last] at lines
      exact (event.message_eq_nil_iff inspector palette _).mp lines.symm
    · intro fault
      rw [if_pos fault] at replay
      contradiction
  · intro silent
    rw [if_neg silent.noFault] at replay
    have untold : (empty.recordAll inspector palette events).record.lines = [] := by
      rw [lines]
      cases last : events.getLast? with
      | none => rfl
      | some event =>
          exact (event.message_eq_nil_iff inspector palette _).mpr (silent.last event last)
    calc
      (empty.recordAll inspector palette events).record =
          ⟨(empty.recordAll inspector palette events).record.lines,
            (empty.recordAll inspector palette events).record.replay⟩ := rfl
      _ = empty := by rw [untold, replay]; rfl

theorem recordAll_append_of_leavesNoTrace {queued : List LifecycleEvent}
    (silent : LeavesNoTrace queued) (inspector : Inspector) (palette : Palette)
    (events : List LifecycleEvent) :
    (empty.recordAll inspector palette (queued ++ events)).record =
      (empty.recordAll inspector palette events).record := by
  rw [recordAll_append]
  dsimp only
  rw [(recordAll_empty_eq_empty_iff inspector palette queued).mpr silent]

end LifecycleRecord

/-! ## What decides about the record -/

namespace Session

/-- Sessions that agree in all that decides about their records, now and later. -/
structure HearsAs (left right : Session) : Prop where
  settings : left.settings = right.settings
  width : left.width = right.width
  channel : left.channel = right.channel
  opened : left.opened = right.opened
  lifecycle : left.lifecycle = right.lifecycle

/-- A session on whose channel other events wait before its own. -/
def behind (queued : List LifecycleEvent) (session : Session) : Session :=
  { session with
    channel := session.channel.map fun channel =>
      { channel with waiting := queued ++ channel.waiting } }

theorem waiting_emptied (session : Session) : session.emptied.waiting = [] := by
  rw [waiting, emptied]
  cases session.channel <;> rfl

namespace HearsAs

variable {left right : Session}

theorem palette (same : left.HearsAs right) : left.palette = right.palette := by
  rw [Session.palette, Session.palette, same.settings, same.width]

theorem waiting (same : left.HearsAs right) : left.waiting = right.waiting := by
  rw [Session.waiting, Session.waiting, same.channel]

/-- What waits can be taken away and put back. -/
theorem behind_emptied (session : Session) :
    session.HearsAs (session.emptied.behind session.waiting) where
  settings := rfl
  width := rfl
  channel := by
    rw [behind, emptied, Session.waiting]
    cases session.channel with
    | none => rfl
    | some channel => simp
  opened := rfl
  lifecycle := rfl

theorem trans {other : Session} (first : left.HearsAs right) (second : right.HearsAs other) :
    left.HearsAs other where
  settings := first.settings.trans second.settings
  width := first.width.trans second.width
  channel := first.channel.trans second.channel
  opened := first.opened.trans second.opened
  lifecycle := first.lifecycle.trans second.lifecycle

end HearsAs

end Session

namespace Situation

/-- Sessions go on agreeing about their records with every operation, whatever else they
remember and whatever world they are in. -/
theorem hearsAs_perform (inspector : Inspector) (operation : Operation) {left right : Situation}
    (same : left.session.HearsAs right.session) :
    (left.perform inspector operation).value.1.session.HearsAs
      (right.perform inspector operation).value.1.session where
  settings := by rw [settings_perform, settings_perform, same.settings]
  width := by rw [width_perform, width_perform, same.width]
  channel := by rw [channel_perform, channel_perform, same.channel, same.opened]
  opened := by rw [opened_perform, opened_perform, same.opened]
  lifecycle := by
    rw [lifecycle_perform, lifecycle_perform]
    simp only [same.lifecycle, same.palette, same.waiting]

theorem hearsAs_run (steps : List (Inspector × Operation)) {left right : Situation}
    (same : left.session.HearsAs right.session) :
    (left.run steps).value.1.session.HearsAs (right.run steps).value.1.session :=
  run_relates (fun left right => left.session.HearsAs right.session)
    (fun inspector operation _ _ => hearsAs_perform inspector operation) steps same

/-! ## Events that wait from before -/

/-- A session that agrees with another, or did so until events without a trace were put before
those that wait, and nothing has been recorded yet. -/
def Follows (queued : List LifecycleEvent) (left right : Situation) : Prop :=
  left.session.HearsAs right.session ∨
    left.session.HearsAs (right.session.behind queued) ∧ right.session.lifecycle = .empty

/-- A situation in which nothing waits. -/
def emptied (situation : Situation) : Situation :=
  { situation with session := situation.session.emptied }

/-- A situation in which other events wait before those that do. -/
def behind (queued : List LifecycleEvent) (situation : Situation) : Situation :=
  { situation with session := situation.session.behind queued }

theorem lifecycle_perform_of_blank {situation : Situation}
    (blank : situation.session.lifecycle = .empty) {inspector : Inspector} {operation : Operation}
    (idle : operation.polls inspector = false) :
    (situation.perform inspector operation).value.1.session.lifecycle = .empty := by
  rw [lifecycle_perform]
  cases operation with
  | start => rfl
  | finish => rfl
  | report event => contradiction
  | _ => simp [idle, blank]

theorem channel_perform_of_polls (situation : Situation) {inspector : Inspector}
    {operation : Operation} (polls : operation.polls inspector = true) :
    (situation.perform inspector operation).value.1.session.channel =
      situation.session.emptied.channel := by
  rw [channel_perform]
  cases operation with
  | subscribe => contradiction
  | send channel event => contradiction
  | _ => exact if_pos polls

/-- What waits behind other events stays behind them until it is polled or the channel is
replaced. -/
theorem channel_perform_behind (queued : List LifecycleEvent) (situation : Situation)
    {inspector : Inspector} {operation : Operation} (idle : operation.polls inspector = false)
    (stays : operation ≠ .subscribe) :
    ((situation.behind queued).perform inspector operation).value.1.session.channel =
      ((situation.perform inspector operation).value.1.session.behind queued).channel := by
  rw [Session.behind, channel_perform, channel_perform]
  cases operation with
  | subscribe => exact absurd rfl stays
  | send channel event =>
      dsimp only [behind, Session.behind]
      rw [Option.map_map, Option.map_map]
      congr 1
      funext current
      dsimp only [Function.comp]
      by_cases same : current.number = channel
      · rw [if_pos same, if_pos same, List.append_assoc]
      · rw [if_neg same, if_neg same]
  | _ =>
      simp only [idle]
      rfl

theorem told_behind {queued : List LifecycleEvent} (silent : LeavesNoTrace queued)
    {session : Session} (blank : session.lifecycle = .empty) (inspector : Inspector)
    (events : List LifecycleEvent) :
    (session.behind queued).told inspector ((session.behind queued).waiting ++ events) =
      session.told inspector (session.waiting ++ events) := by
  have quiet : (session.behind queued).lifecycle = .empty := blank
  rw [Session.told, Session.told, quiet, blank, Session.waiting, Session.waiting, Session.behind]
  cases session.channel with
  | none => rfl
  | some channel =>
      dsimp only [Option.map_some]
      rw [List.append_assoc]
      exact LifecycleRecord.recordAll_append_of_leavesNoTrace silent inspector _ _

/-- One operation either records the events without a trace, drops them or leaves them
waiting. -/
theorem follows_perform_behind {queued : List LifecycleEvent} (silent : LeavesNoTrace queued)
    (inspector : Inspector) (operation : Operation) (situation : Situation)
    (blank : situation.session.lifecycle = .empty) :
    Follows queued ((situation.behind queued).perform inspector operation).value.1
      (situation.perform inspector operation).value.1 := by
  have settings :
      ((situation.behind queued).perform inspector operation).value.1.session.settings =
        (situation.perform inspector operation).value.1.session.settings := by
    rw [settings_perform, settings_perform]
    rfl
  have width : ((situation.behind queued).perform inspector operation).value.1.session.width =
      (situation.perform inspector operation).value.1.session.width := by
    rw [width_perform, width_perform]
    rfl
  have opened : ((situation.behind queued).perform inspector operation).value.1.session.opened =
      (situation.perform inspector operation).value.1.session.opened := by
    rw [opened_perform, opened_perform]
    rfl
  cases polls : operation.polls inspector with
  | true =>
      -- From the first poll on both sessions agree for good.
      apply Or.inl
      refine ⟨settings, width, ?_, opened, ?_⟩
      · rw [channel_perform_of_polls _ polls, channel_perform_of_polls _ polls]
        dsimp only [behind, Session.behind, Session.emptied]
        rw [Option.map_map]
        rfl
      · rw [lifecycle_perform_of_polls none polls, lifecycle_perform_of_polls none polls]
        exact told_behind silent blank inspector _
  | false =>
      have still := lifecycle_perform_of_blank blank polls
      have blankBehind : (situation.behind queued).session.lifecycle = .empty := blank
      have stillBehind := lifecycle_perform_of_blank blankBehind polls
      by_cases subscribes : operation = .subscribe
      · -- A new channel starts empty, so what waited on the old one is gone in both.
        subst subscribes
        exact .inl ⟨settings, width, rfl, opened, stillBehind.trans still.symm⟩
      · exact .inr ⟨⟨settings, width, channel_perform_behind queued situation polls subscribes,
          opened, stillBehind.trans still.symm⟩, still⟩

/-- Events without a trace make no difference to the record. -/
theorem follows_perform {queued : List LifecycleEvent} (silent : LeavesNoTrace queued)
    (inspector : Inspector) (operation : Operation) {left right : Situation}
    (now : Follows queued left right) :
    Follows queued (left.perform inspector operation).value.1
      (right.perform inspector operation).value.1 := by
  rcases now with same | ⟨same, blank⟩
  · exact .inl (hearsAs_perform inspector operation same)
  · have behind : left.session.HearsAs (right.behind queued).session := same
    have next := hearsAs_perform inspector operation behind
    rcases follows_perform_behind silent inspector operation right blank with
      further | ⟨further, still⟩
    · exact .inl (next.trans further)
    · exact .inr ⟨next.trans further, still⟩

theorem Follows.lifecycle {queued : List LifecycleEvent} {left right : Situation}
    (now : Follows queued left right) : left.session.lifecycle = right.session.lifecycle := by
  rcases now with same | ⟨same, _⟩
  · exact same.lifecycle
  · exact same.lifecycle

/-- Without the events that wait, records are the same if those leave no trace. -/
theorem lifecycle_run_emptied {situation : Situation}
    (blank : situation.session.lifecycle = .empty)
    (silent : LeavesNoTrace situation.session.waiting) (steps : List (Inspector × Operation)) :
    (situation.run steps).value.1.session.lifecycle =
      (situation.emptied.run steps).value.1.session.lifecycle := by
  have now : Follows situation.session.waiting situation situation.emptied :=
    .inr ⟨.behind_emptied situation.session, blank⟩
  exact (run_relates (Follows situation.session.waiting)
    (fun inspector operation _ _ => follows_perform silent inspector operation) steps
    now).lifecycle

/-- If the record after a poll is the same without the events that wait, those leave no
trace. -/
theorem leavesNoTrace_of_perform_emptied {situation : Situation}
    (blank : situation.session.lifecycle = .empty) {inspector : Inspector}
    (same : (situation.perform inspector (.refresh [])).value.1.session.lifecycle =
      (situation.emptied.perform inspector (.refresh [])).value.1.session.lifecycle) :
    LeavesNoTrace situation.session.waiting := by
  have told : ∀ now : Situation,
      (now.perform inspector (.refresh [])).value.1.session.lifecycle =
        now.session.told inspector now.session.waiting := by
    intro now
    rw [lifecycle_perform_of_polls none rfl]
    exact congrArg (now.session.told inspector) (List.append_nil _)
  have silent : situation.emptied.session.waiting = [] := situation.session.waiting_emptied
  have blankEmptied : situation.emptied.session.lifecycle = .empty := blank
  rw [told, told, silent, Session.told, Session.told, blank, blankEmptied] at same
  exact (LifecycleRecord.recordAll_empty_eq_empty_iff inspector _ _).mp same

/-! ## The main result -/

/-- Nothing of the record crosses a boundary, but what waits does.  After a boundary the
situation is the one in which nothing waits and everything that waited has then been sent once
more; and from the one in which nothing waits, the records of all that comes depend on nothing
before the boundary but the settings, the width and the numbers of the channels.  So the record
is always the same as if nothing had waited exactly if what waited leaves no trace.  A refresh
shows the lines of the record after it. -/
theorem boundary_keeps_only_what_waits (settings : Settings) (highlighter : Highlighter)
    (width : BannerWidth) (world : World) (checks : Nat) (before : List (Inspector × Operation))
    (inspector : Inspector) (boundary : Boundary) :
    let reached := (run ⟨.fresh settings highlighter width, world, checks⟩ before).value.1
    let restarted := (reached.perform inspector boundary.operation).value.1
    let cleared := restarted.emptied
    let resending := reached.session.resending.map fun operation => (inspector, operation)
    restarted.session.lifecycle = .empty ∧
    restarted = (cleared.run resending).value.1 ∧
    (∀ other : Situation,
      other.session.settings = reached.session.settings →
      other.session.width = reached.session.width →
      other.session.channelNumber? = reached.session.channelNumber? →
      other.session.opened = reached.session.opened →
      let otherCleared := (other.perform inspector boundary.operation).value.1.emptied
      ∀ later, (otherCleared.run later).value.1.session.lifecycle =
        (cleared.run later).value.1.session.lifecycle) ∧
    ((∀ later, (restarted.run later).value.1.session.lifecycle =
        (cleared.run later).value.1.session.lifecycle) ↔
      LeavesNoTrace reached.session.waiting) ∧
    ∀ later asked tokens,
      let now := (restarted.run later).value.1
      let shown := (now.perform asked (.refresh tokens)).value.1.session.lifecycle.lines
      let block := Session.linesOf (now.session.rendered asked now.world.files tokens)
      let batches := viewBatches now.session.settings now.session.palette now.world.terminal
        (Session.requestedSections now.session.settings tokens).value block shown
      (now.session.refresh asked now.world tokens).value.result =
        (now.world.deliverAll batches now.session.settings.clearScreen).value := by
  intro reached restarted cleared resending
  have bounded : restarted = { reached with session := reached.session.reset } :=
    congrArg Prod.fst (reached.perform_boundary inspector boundary)
  have latest : reached.session.HasLatest := hasLatest_run _ before rfl
  have blank : restarted.session.lifecycle = .empty := by
    rw [bounded]
    rfl
  constructor
  · exact blank
  constructor
  · have resent := run_resending reached.session.reset inspector reached.world reached.checks
      latest
    change restarted = (restarted.emptied.run resending).value.1
    rw [bounded]
    exact resent.symm
  constructor
  · intro other sameSettings sameWidth sameNumber sameOpened otherCleared later
    apply Session.HearsAs.lifecycle
    apply hearsAs_run
    have otherBounded : otherCleared =
        emptied { other with session := other.session.reset } :=
      congrArg emptied (congrArg Prod.fst (other.perform_boundary inspector boundary))
    change otherCleared.session.HearsAs restarted.emptied.session
    rw [otherBounded, bounded]
    refine ⟨sameSettings, sameWidth, ?_, sameOpened, rfl⟩
    have named : ∀ session : Session,
        session.emptied.channel = session.channelNumber?.map (⟨·, []⟩) :=
      fun session => congrArg Session.channel session.emptied_eq_onChannel
    calc
      other.session.reset.emptied.channel = other.session.channelNumber?.map (⟨·, []⟩) :=
        named other.session.reset
      _ = reached.session.channelNumber?.map (⟨·, []⟩) := by rw [sameNumber]
      _ = reached.session.reset.emptied.channel := (named reached.session.reset).symm
  constructor
  · have waiting : restarted.session.waiting = reached.session.waiting := by
      rw [bounded]
      rfl
    rw [← waiting]
    constructor
    · intro same
      exact leavesNoTrace_of_perform_emptied blank (same [(inspector, .refresh [])])
    · exact lifecycle_run_emptied blank
  · intro later asked tokens now shown block batches
    exact now.session.result_refresh asked now.world tokens

/-- A fault that is sent before a session starts is told after it has started, and it is
remembered that a recording is replayed; had it not been sent, neither would be so. -/
theorem fault_before_start_is_told_after_it :
    let inspector := { Script.blank with extensions := [replayExtension] }.inspector
    let situation : Situation :=
      ⟨.fresh .initial plainHighlighter 12, ⟨.initial, .fresh, none⟩, 0⟩
    let fault : Inspector × Operation :=
      (inspector, .send 0 (.stopped (.signal segmentationFault)))
    let later : List (Inspector × Operation) :=
      [(inspector, .start), (inspector, .refresh ["s"])]
    let sent := (situation.run ([(inspector, .subscribe), fault] ++ later)).value.1.session
    let unsent := (situation.run ([(inspector, .subscribe)] ++ later)).value.1.session
    sent.lifecycle =
        ⟨[sent.palette.paint .signalMessage "Program received signal SIGSEGV"], some true⟩ ∧
      unsent.lifecycle = .empty := by
  decide +kernel

end Situation

end StopView
