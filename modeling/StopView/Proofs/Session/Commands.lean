import StopView.Inspector.Script
import StopView.Proofs.Command
import StopView.Proofs.Session.Step

/-!
# Commands and the operations that they are

A command is refused as a whole or carried out as a whole.  It is refused when its words are
no command, and after that when no program is being run; then nothing has been done.  The
command for the view does what a refresh does, and the command for registers what the register
view and a write to the primary stream do.
-/

namespace StopView

/-! ## Which commands are accepted -/

namespace Command

variable {inspector : Inspector} {words : List String}

theorem accept_of_spell {command : Command} (spell : Spell words command)
    (alive : inspector.alive = true) : accept inspector words = .ok command := by
  rw [accept, parse_eq_ok_iff.mpr spell]
  exact if_pos alive

/-- Words that are no command are an invalid argument, whether a program is being run or
not. -/
theorem accept_eq_invalidArgument_iff :
    (∃ usage, accept inspector words = .error (.invalidArgument usage)) ↔
      ∀ command, ¬Spell words command := by
  rw [accept]
  rcases parse_cases words with ⟨command, spell, read⟩ | ⟨none, usage, read⟩
  · rw [read]
    constructor
    · rintro ⟨usage, refused⟩
      dsimp only at refused
      split at refused <;> cases refused
    · intro none
      exact absurd spell (none command)
  · rw [read]
    exact ⟨fun _ => none, fun _ => ⟨usage, rfl⟩⟩

theorem accept_eq_notRunning_iff :
    accept inspector words = .error .notRunning ↔
      (∃ command, Spell words command) ∧ inspector.alive = false := by
  rw [accept]
  rcases parse_cases words with ⟨command, spell, read⟩ | ⟨none, usage, read⟩
  · rw [read]
    dsimp only
    cases inspector.alive with
    | true => simp
    | false => simpa using ⟨command, spell⟩
  · rw [read]
    constructor
    · intro refused
      cases refused
    · rintro ⟨⟨command, spell⟩, _⟩
      exact absurd spell (none command)

end Command

/-! ## Requests without words -/

@[simp]
theorem SectionKey.ofToken?_name (part : Section) :
    SectionKey.ofToken? part.name = some (.known part) := by
  cases part <;> decide

namespace Session

theorem requestedSections_names (settings : Settings) :
    requestedSections settings (settings.sections.map Section.name) =
      requestedSections settings [] := by
  rw [requestedSections, requestedSections]
  cases sections : settings.sections with
  | nil => rfl
  | cons part rest => simp [List.filterMap_map]

theorem refresh_names (session : Session) (inspector : Inspector) (world : World) :
    session.refresh inspector world (session.settings.sections.map Section.name) =
      session.refresh inspector world [] := by
  dsimp only [refresh, compose, bind]
  rw [settings_pollEvents, requestedSections_names]

/-- A session whose views go elsewhere, and on whose channel something else waits. -/
def redirected (session : Session) (output : Destination) (outputs : SectionOutputs)
    (clear : Bool) (channel : Option EventChannel) : Session :=
  { session with
    settings :=
      { session.settings with output, sectionOutputs := outputs, clearScreen := clear }
    channel }

end Session

/-! ## The main result -/

namespace Situation

variable (situation : Situation) (inspector : Inspector)

/-- A command answers with a refusal exactly when it is not accepted. -/
theorem outcome_perform_command_eq_refused_iff (words : List String) (cause : Failure) :
    (situation.perform inspector (.command words)).value.2 = .refused cause ↔
      Command.accept inspector words = .error cause := by
  rw [perform_command]
  cases Command.accept inspector words with
  | error other => simp
  | ok command => simp [afterDelivery]

/-- The command for registers is the register view and a write to the primary stream. -/
theorem perform_command_eq_writePrimary {words names : List String}
    (accepted : Command.accept inspector words = .ok (.registers names)) :
    let lines := (situation.session.renderRegisters inspector (some names)).value.result
    let rendered := situation.perform inspector (.renderRegisters (some names))
    let written := rendered.value.1.perform inspector (.writePrimary lines)
    situation.perform inspector (.command words) =
      ⟨written.value, .commandRun :: (rendered.notices ++ written.notices)⟩ := by
  rw [perform_command, accepted]
  dsimp only [perform, Session.perform, bind, pure]
  simp only [List.append_nil]
  rfl

/-- A command is either refused as a whole or carried out as a whole.  Words that are no command
are an invalid argument; a command is refused if no program is being run; nothing else is
refused, and what is refused has done nothing and was not noticed.  Otherwise the command for
the view is a refresh with its words, which without words shows the sections of the settings;
and the command for registers is the view of the registers that it names, the default ones
without words, and a write of these lines to the primary stream.  It takes a snapshot and does
nothing else to the session, whatever waits on the channel and wherever views go. -/
theorem command_is_refused_or_carried_out_whole (words : List String) :
    let alive := inspector.alive
    let after := situation.perform inspector (.command words)
    ((∃ usage, after.value.2 = .refused (.invalidArgument usage)) ↔
      ∀ command, ¬Command.Spell words command) ∧
    (after.value.2 = .refused .notRunning ↔
      (∃ command, Command.Spell words command) ∧ alive = false) ∧
    (∀ cause, after.value.2 = .refused cause → after = pure (situation, .refused cause)) ∧
    (∀ tokens, Command.Spell words (.context tokens) → alive = true →
      let refreshed := situation.perform inspector (.refresh tokens)
      let sections := situation.session.settings.sections
      after = ⟨refreshed.value, .commandRun :: refreshed.notices⟩ ∧
      (tokens = [] →
        refreshed = situation.perform inspector (.refresh (sections.map Section.name)))) ∧
    ∀ names, Command.Spell words (.registers names) → alive = true →
      let rendered := situation.perform inspector (.renderRegisters (some names))
      (names = [] → rendered = situation.perform inspector (.renderRegisters none)) ∧
      ∃ lines, rendered.value.2 = .lines lines ∧
        let written := rendered.value.1.perform inspector (.writePrimary lines)
        let session := situation.session
        after = ⟨written.value, .commandRun :: (rendered.notices ++ written.notices)⟩ ∧
        after.value.1.session =
          { session with memory := { session.memory with snapshot := inspector.snapshot } } ∧
        after.value.1.world = (situation.world.deliver .primary lines false).1 ∧
        ∀ output outputs clear channel,
          let elsewhere := fun now : Situation =>
            { now with session := now.session.redirected output outputs clear channel }
          (elsewhere situation).perform inspector (.command words) =
            ⟨(elsewhere after.value.1, after.value.2), after.notices⟩ := by
  intro alive after
  have outcome := situation.outcome_perform_command_eq_refused_iff inspector words
  constructor
  · rw [← Command.accept_eq_invalidArgument_iff]
    exact exists_congr fun usage => outcome (.invalidArgument usage)
  constructor
  · rw [← Command.accept_eq_notRunning_iff]
    exact outcome .notRunning
  constructor
  · intro cause refused
    have answered := (outcome cause).mp refused
    rw [show after = _ from situation.perform_command inspector words, answered]
  constructor
  · intro tokens spell running refreshed sections
    have accepted := Command.accept_of_spell spell running
    constructor
    · rw [show after = _ from situation.perform_command inspector words, accepted]
      dsimp only [refreshed, perform, Session.perform, bind, pure]
      rw [List.append_nil]
    · rintro rfl
      simp only [refreshed, sections, perform, Session.refresh_names]
  · intro names spell running rendered
    have accepted := Command.accept_of_spell spell running
    let lines := (situation.session.renderRegisters inspector (some names)).value.result
    constructor
    · rintro rfl
      rfl
    · refine ⟨lines, rfl, ?_⟩
      intro written session
      have carried :
          after = ⟨written.value, .commandRun :: (rendered.notices ++ written.notices)⟩ :=
        situation.perform_command_eq_writePrimary inspector accepted
      constructor
      · exact carried
      constructor
      · rw [carried]
        rfl
      constructor
      · rw [carried]
        rfl
      · intro output outputs clear channel elsewhere
        rw [carried, (elsewhere situation).perform_command_eq_writePrimary inspector accepted]
        rfl

/-- The screen is to be cleared, views go to a file and registers to another, and an event
waits.  A command for one register writes its line to the primary stream all the same, and the
event goes on waiting; if no program is being run, the command does nothing. -/
theorem register_command_is_apart_from_views :
    let inspector := { Script.blank with registers := [("rip", 16)] }.inspector
    let outputs := { SectionOutputs.together with registers := .split (.path ⟨"registers"⟩) }
    let settings :=
      { Settings.initial with
        colour := false, clearScreen := true, output := .path ⟨"pane"⟩, sectionOutputs := outputs }
    let channel : Option EventChannel := some ⟨0, [.exited (some 3)]⟩
    let situation : Situation :=
      ⟨{ Session.fresh settings plainHighlighter 12 with channel }, ⟨.initial, .fresh, none⟩, 0⟩
    let words := ["regs", "--", "rip"]
    let after := fun asked : Inspector => situation.perform asked (.command words)
    Command.Spell words (.registers ["rip"]) ∧
      (after inspector).value.1.session.channel = channel ∧
      (after inspector).value.1.session.memory.snapshot = ⟨[("rip", 16)]⟩ ∧
      (after inspector).value.1.world.primary.stored = " RIP  0x10\n" ∧
      after { inspector with alive := false } = pure (situation, .refused .notRunning) := by
  intro inspector outputs settings channel situation words after
  have spell : Command.Spell words (.registers ["rip"]) := .registers (.separator ["rip"])
  obtain ⟨-, -, -, -, registers⟩ :=
    situation.command_is_refused_or_carried_out_whole inspector words
  obtain ⟨-, lines, -, -, session, -, -⟩ := registers ["rip"] spell rfl
  obtain ⟨-, stopped, untouched, -, -⟩ :=
    situation.command_is_refused_or_carried_out_whole { inspector with alive := false } words
  constructor
  · exact spell
  constructor
  · exact congrArg Session.channel session
  constructor
  · decide +kernel
  constructor
  · decide +kernel
  · exact untouched .notRunning (stopped.mpr ⟨⟨_, spell⟩, rfl⟩)

end Situation

end StopView
