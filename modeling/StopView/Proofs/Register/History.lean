import StopView.Proofs.Session.Step
import StopView.Proofs.Session.View

/-!
# Registers over a whole run

Of everything that has happened to a session, the register view depends on two things
only: the settings in force, and what the inspector answered at the latest register view
since the session was last started or ended.  Which registers were shown then, where the
view went and what else happened in between does not matter.
-/

namespace StopView

/-- The value of a register that an inspector knows and can read. -/
def Inspector.seen? (inspector : Inspector) (name : String) : Option UInt64 :=
  if name ∈ inspector.knownRegisters then (inspector.registerValue name).toOption else none

@[simp]
theorem Inspector.get?_snapshot (inspector : Inspector) (name : String) :
    inspector.snapshot.get? name = inspector.seen? name :=
  Snapshot.get?_take inspector.knownRegisters _ name

/-- A snapshot that is taken now differs from an earlier one in what is held by both with
different values. -/
theorem Inspector.changed_snapshot_iff (inspector : Inspector) (previous : Snapshot)
    (name : String) :
    inspector.snapshot.changed previous name = true ↔
      ∃ now before, inspector.seen? name = some now ∧ previous.get? name = some before ∧
        now ≠ before := by
  rw [Snapshot.changed, inspector.get?_snapshot]
  cases inspector.seen? name with
  | none => simp
  | some now =>
      cases previous.get? name with
      | none => simp
      | some before => simp

/-! ## The account of the past -/

/-- What a run leaves for the register view: the settings, and the inspector of the
latest register view, if there was one since the latest start or end. -/
structure RegisterPast where
  settings : Settings
  lastView : Option Inspector

namespace RegisterPast

/-- Nothing but settings. -/
def fresh (settings : Settings) : RegisterPast :=
  ⟨settings, none⟩

/-- The past after one more operation. -/
def advance (past : RegisterPast) (step : Inspector × Operation) : RegisterPast where
  settings := step.2.settingsAfter past.settings
  lastView :=
    match step.2 with
    | .start | .finish => none
    | operation =>
        if operation.viewsRegisters past.settings step.1 then some step.1 else past.lastView

/-- The value that a register had at the latest view. -/
def seen? (past : RegisterPast) (name : String) : Option UInt64 :=
  past.lastView.bind fun inspector => inspector.seen? name

/-- Whether a register can be seen now and could be seen at the latest view, with another
value. -/
def Changed (past : RegisterPast) (inspector : Inspector) (name : String) : Prop :=
  ∃ now before, inspector.seen? name = some now ∧ past.seen? name = some before ∧ now ≠ before

/-- The snapshot of the latest view. -/
def snapshot (past : RegisterPast) : Snapshot :=
  (past.lastView.map Inspector.snapshot).getD .empty

@[simp]
theorem get?_snapshot (past : RegisterPast) (name : String) :
    past.snapshot.get? name = past.seen? name := by
  rcases past with ⟨settings, lastView⟩
  cases lastView with
  | none => rfl
  | some inspector => exact inspector.get?_snapshot name

/-- Two snapshots differ in a register when it has changed since the latest view. -/
theorem changed_snapshot_iff (past : RegisterPast) (inspector : Inspector) (name : String) :
    inspector.snapshot.changed past.snapshot name = true ↔ past.Changed inspector name := by
  rw [inspector.changed_snapshot_iff, past.get?_snapshot, Changed]

instance (past : RegisterPast) (inspector : Inspector) (name : String) :
    Decidable (past.Changed inspector name) :=
  decidable_of_iff _ (past.changed_snapshot_iff inspector name)

theorem not_changed_of_lastView_eq_none {past : RegisterPast} (first : past.lastView = none)
    (inspector : Inspector) (name : String) : ¬past.Changed inspector name := by
  rintro ⟨now, before, _, seen, _⟩
  simp [RegisterPast.seen?, first] at seen

/-! ## Lines -/

/-- The line of a register that can be seen: the marker if the register has changed,
otherwise as many spaces, then its name and its value. -/
def line? (past : RegisterPast) (inspector : Inspector) (palette : Palette) (name : String) :
    Option String :=
  (inspector.seen? name).map fun value =>
    (if past.Changed inspector name then
      palette.paint .registerChanged past.settings.changedMarker
    else
      String.ofList (List.replicate past.settings.changedMarker.length ' ')) ++
      palette.paint .register (Text.padRight 4 (Text.upper name)) ++ " " ++
      describeRegister inspector palette past.snapshot name value

/-- The lines of the selected registers that can be seen. -/
def lines (past : RegisterPast) (inspector : Inspector) (palette : Palette)
    (asked : Option (List String)) : List String :=
  (selectedRegisters inspector past.settings asked).filterMap (past.line? inspector palette)

theorem value_registerLines (past : RegisterPast) (inspector : Inspector) (palette : Palette)
    (name : String) :
    (registerLines inspector past.settings palette past.snapshot inspector.snapshot name).value =
      (past.line? inspector palette name).toList := by
  rw [registerLines, line?, inspector.get?_snapshot]
  by_cases known : name ∈ inspector.knownRegisters
  · rw [if_pos (List.contains_iff_mem.mpr known)]
    cases inspector.seen? name with
    | none => rfl
    | some value =>
        simp only [Noted.value_pure, Option.map_some, Option.toList_some, registerLine,
          changeMarker, past.changed_snapshot_iff, Text.blankLike, Text.repeated]
  · have unknown : inspector.knownRegisters.contains name = false := by
      simpa using known
    have unseen : inspector.seen? name = none := if_neg known
    rw [unknown, unseen]
    rfl

theorem value_renderRegisters (past : RegisterPast) (inspector : Inspector) (palette : Palette)
    (asked : Option (List String)) :
    (renderRegisters inspector past.settings palette past.snapshot asked).value =
      past.lines inspector palette asked := by
  rw [renderRegisters, Noted.value_flatMap, lines]
  simp only [value_registerLines]
  rw [List.filterMap_eq_flatMap_toList]

end RegisterPast

/-! ## The invariant -/

/-- A situation agrees with an account of the past: the settings are those in force, and
the snapshot is that of the latest view. -/
structure RegisterPast.Describes (past : RegisterPast) (situation : Situation) : Prop where
  settings : situation.session.settings = past.settings
  snapshot : situation.session.memory.snapshot = past.snapshot

namespace Situation

variable {situation : Situation} (inspector : Inspector)

/-- An account of the past stays right with every operation. -/
theorem describes_perform {past : RegisterPast} (now : past.Describes situation)
    (operation : Operation) :
    (past.advance (inspector, operation)).Describes
      (situation.perform inspector operation).value.1 where
  settings := by
    rw [settings_perform, now.settings]
    rfl
  snapshot := by
    rw [snapshot_perform, now.settings, now.snapshot]
    cases operation with
    | start => rfl
    | finish => rfl
    | _ =>
        simp only [RegisterPast.snapshot, RegisterPast.advance]
        split <;> rfl

theorem describes_run (settings : Settings) (highlighter : Highlighter) (width : BannerWidth)
    (world : World) (checks : Nat) (steps : List (Inspector × Operation)) :
    (steps.foldl RegisterPast.advance (.fresh settings)).Describes
      (Situation.run ⟨.fresh settings highlighter width, world, checks⟩ steps).value.1 := by
  apply run_preserves
  · intro step _ past situation now
    exact describes_perform step.1 now step.2
  · exact ⟨rfl, rfl⟩

section Views

variable {past : RegisterPast} (now : past.Describes situation)

include now

/-- The register view compares with the latest one. -/
theorem value_renderRegisters_of_describes (asked : Option (List String)) :
    (StopView.renderRegisters inspector situation.session.settings situation.session.palette
        situation.session.memory.snapshot asked).value =
      past.lines inspector situation.session.palette asked := by
  rw [now.settings, now.snapshot]
  exact past.value_renderRegisters inspector situation.session.palette asked

theorem linesOf_registers_of_describes {tokens : List String}
    (named : .registers ∈ Session.namedSections past.settings tokens) :
    Session.linesOf (situation.session.rendered inspector situation.world.files tokens)
        .registers =
      situation.session.palette.banner "registers" ::
        past.lines inspector situation.session.palette none := by
  rw [← now.settings] at named
  rw [situation.session.linesOf_rendered_registers inspector named,
    value_renderRegisters_of_describes inspector now]

/-- The command for registers writes a view that compares with the latest one. -/
theorem perform_registers_of_describes {words names : List String}
    (accepted : Command.accept inspector words = .ok (.registers names)) :
    let written := (Session.writePrimary situation.world
      (past.lines inspector situation.session.palette (some names))).value
    (situation.perform inspector (.command words)).value.1.world = written.world ∧
      (situation.perform inspector (.command words)).value.2 = .delivered written.report := by
  rw [situation.perform_command_of_registers inspector accepted,
    ← value_renderRegisters_of_describes inspector now]
  exact ⟨rfl, rfl⟩

theorem get?_snapshot_of_describes {operation : Operation}
    (views : operation.viewsRegisters past.settings inspector = true) (name : String) :
    (situation.perform inspector operation).value.1.session.memory.snapshot.get? name =
      inspector.seen? name := by
  rw [← now.settings] at views
  have taken : (situation.perform inspector operation).value.1.session.memory.snapshot =
      inspector.snapshot := by
    rw [situation.snapshot_perform inspector operation]
    cases operation with
    | start => contradiction
    | finish => contradiction
    | _ => exact if_pos views
  rw [taken]
  exact inspector.get?_snapshot name

end Views

/-- After any run, every register view shows the selected registers that can be seen, and
marks those that could be seen with another value at the latest view since the session was
last started or ended.  The view of a refresh, of a command and of a direct call are the
same in this, and each leaves the snapshot of what can be seen. -/
theorem register_views_mark_changes_since_latest_view (settings : Settings)
    (highlighter : Highlighter) (width : BannerWidth) (world : World) (checks : Nat)
    (steps : List (Inspector × Operation)) (inspector : Inspector) :
    let situation := (run ⟨.fresh settings highlighter width, world, checks⟩ steps).value.1
    let session := situation.session
    let past := steps.foldl RegisterPast.advance (.fresh settings)
    let lines := past.lines inspector session.palette
    let after := fun operation => (situation.perform inspector operation).value
    session.settings = past.settings ∧
      (∀ name, session.memory.snapshot.get? name = past.seen? name) ∧
      (past.lastView = none → ∀ name, ¬past.Changed inspector name) ∧
      (∀ asked, (after (.renderRegisters asked)).2 = .lines (lines asked)) ∧
      (∀ tokens,
        let rendered := session.rendered inspector situation.world.files tokens
        let batches := viewBatches past.settings session.palette situation.world.terminal
          (Session.requestedSections past.settings tokens).value (Session.linesOf rendered)
          (session.pollEvents inspector).value.session.lifecycle.lines
        (session.refresh inspector situation.world tokens).value.result =
            (situation.world.deliverAll batches past.settings.clearScreen).value ∧
          (.registers ∈ Session.namedSections past.settings tokens →
            Session.linesOf rendered .registers =
              session.palette.banner "registers" :: lines none)) ∧
      (∀ words tokens, Command.accept inspector words = .ok (.context tokens) →
        after (.command words) = after (.refresh tokens)) ∧
      (∀ words names, Command.accept inspector words = .ok (.registers names) →
        let written := (Session.writePrimary situation.world (lines (some names))).value
        (after (.command words)).1.world = written.world ∧
          (after (.command words)).2 = .delivered written.report) ∧
      (∀ words cause, Command.accept inspector words = .error cause →
        after (.command words) = (situation, .refused cause)) ∧
      ∀ operation, operation.viewsRegisters past.settings inspector = true →
        ∀ name, (after operation).1.session.memory.snapshot.get? name = inspector.seen? name := by
  intro situation session past lines after
  have now : past.Describes situation :=
    describes_run settings highlighter width world checks steps
  constructor
  · exact now.settings
  constructor
  · intro name
    rw [now.snapshot]
    exact past.get?_snapshot name
  constructor
  · intro first name
    exact RegisterPast.not_changed_of_lastView_eq_none first inspector name
  constructor
  · intro asked
    exact congrArg Outcome.lines (value_renderRegisters_of_describes inspector now asked)
  constructor
  · intro tokens rendered batches
    constructor
    · rw [session.result_refresh inspector situation.world tokens, now.settings]
    · exact linesOf_registers_of_describes inspector now
  constructor
  · intro words tokens accepted
    exact situation.perform_command_of_context inspector accepted
  constructor
  · intro words names accepted
    exact perform_registers_of_describes inspector now accepted
  constructor
  · intro words cause refused
    exact situation.perform_command_of_error inspector refused
  · intro operation views
    exact get?_snapshot_of_describes inspector now views

end Situation

end StopView
