import StopView.Proofs.Lifecycle.Arrival
import StopView.Proofs.Session.Colour

/-!
# One operation with and without colour

Two situations that are the same but for styles stay so with every operation that does not set
the colour, and the operation delivers and answers the same in both, but for styles.  Files
that were written hold styles in one of the two only, which is why the current source file may
not be among them.
-/

namespace StopView

open Text

/-- The texts of an operation that may come into view have no escapes. -/
def Operation.EscapeFree : Operation → Prop
  | .set name value => ∀ which, Setting.ofName name = .ok (.mark which) → Text.EscapeFree value
  | .writePrimary lines => ∀ line ∈ lines, Text.EscapeFree line
  | .report event => event.EscapeFree
  | .send _ event => event.EscapeFree
  | .outside world => ∀ place, world.files.EscapeFreeAt place
  | _ => True

theorem Operation.escapeFree_settingsAfter {operation : Operation} (texts : operation.EscapeFree)
    {settings : Settings} (marks : settings.EscapeFree) :
    (operation.settingsAfter settings).EscapeFree := by
  cases operation with
  | set name value =>
      rw [Operation.settingsAfter]
      cases read : (Change.ofText name value).value with
      | error cause => exact marks
      | ok change =>
          apply marks.apply
          intro text given
          obtain ⟨named, same⟩ := Change.setting_of_ofText read
          rw [same text given]
          cases change with
          | mark which _ => exact texts which named
          | _ => cases given
  | setSections value =>
      rw [Operation.settingsAfter]
      cases read : (Change.ofSections value).value with
      | error cause => exact marks
      | ok change =>
          apply marks.apply
          intro text given
          rw [(Change.setting_of_ofSections read).2] at given
          cases given
  | setOutput key output =>
      cases key with
      | known part => exact { marks with }
      | unknown letter => exact marks
  | _ => exact marks

/-- Outcomes that are the same but for styles in lines. -/
inductive Outcome.SameButStyles (quiet : Prop) : Outcome → Outcome → Prop where
  | lines {styled bare : List String} (same : SameLines quiet styled bare) :
      SameButStyles quiet (.lines styled) (.lines bare)
  | refl (outcome : Outcome) : SameButStyles quiet outcome outcome

namespace Situation

/-- Two situations, the first with colour and the second without, that are the same but for
styles and for what some files hold.  The other files have no escapes. -/
structure SameButStyles (quiet : Prop) (written : List Place) (styled bare : Situation) : Prop where
  session : styled.session.SameButStyles quiet bare.session
  world : World.Alike written styled.world bare.world
  clean : ∀ place, place ∉ written → bare.world.files.EscapeFreeAt place

/-- The events that wait after an operation tell of nothing with escapes. -/
theorem escapeFree_waiting_perform {situation : Situation} {inspector : Inspector}
    {operation : Operation} (texts : operation.EscapeFree)
    (free : ∀ event ∈ situation.session.waiting, event.EscapeFree) :
    ∀ event ∈ (situation.perform inspector operation).value.1.session.waiting,
      event.EscapeFree := by
  by_cases polls : operation.polls inspector = true
  · rw [waiting_perform_of_polls polls]
    exact fun event listed => absurd listed List.not_mem_nil
  · rw [Session.waiting, channel_perform]
    cases operation with
    | subscribe => exact fun event listed => absurd listed List.not_mem_nil
    | send channel event =>
        cases known : situation.session.channel with
        | none => exact fun event listed => absurd listed List.not_mem_nil
        | some current =>
            rw [Session.waiting, known] at free
            simp only [Option.map_some]
            split
            · intro waiting listed
              rcases List.mem_append.mp listed with before | last
              · exact free waiting before
              · rw [List.mem_singleton.mp last]
                exact texts
            · exact free
    | _ =>
        simp only [polls, Bool.false_eq_true, if_false]
        exact free

namespace SameButStyles

section Step

variable {quiet : Prop} {written : List Place} {styled bare : Situation}
  (same : SameButStyles quiet written styled bare) {inspector : Inspector} {operation : Operation}

include same

theorem clears_eq : styled.clears inspector operation = bare.clears inspector operation := by
  rw [clears, clears, same.session.settings]
  rfl

theorem sourcesAfter_eq
    (kept : ∀ place, inspector.sourcePlace? bare.world.files = some place → place ∉ written)
    (sources : SourceCache) :
    (styled.session.scene inspector styled.world.files).sourcesAfter sources =
      (bare.session.scene inspector bare.world.files).sourcesAfter sources := by
  have block := same.session.block_eq same.world kept .code ⟨.empty, sources⟩
  have memory := congrArg (fun block => block.value.memory.sources) block
  rw [Scene.memory_block_inColour, Scene.sources_block, Scene.sources_block] at memory
  exact memory

theorem memory_perform
    (kept : ∀ place, inspector.sourcePlace? bare.world.files = some place → place ∉ written) :
    (styled.perform inspector operation).value.1.session.memory =
      (bare.perform inspector operation).value.1.session.memory := by
  have snapshot : (styled.perform inspector operation).value.1.session.memory.snapshot =
      (bare.perform inspector operation).value.1.session.memory.snapshot := by
    rw [snapshot_perform, snapshot_perform, same.session.settings, same.session.memory]
    cases operation <;> rfl
  have sources : (styled.perform inspector operation).value.1.session.memory.sources =
      (bare.perform inspector operation).value.1.session.memory.sources := by
    rw [sources_perform, sources_perform, same.session.settings, same.session.memory,
      same.sourcesAfter_eq kept]
    cases operation <;> rfl
  exact congrArg₂ ViewMemory.mk snapshot sources

theorem lifecycle_perform (texts : operation.EscapeFree) :
    LifecycleRecord.SameButStyles quiet
      (styled.perform inspector operation).value.1.session.lifecycle
      (bare.perform inspector operation).value.1.session.lifecycle := by
  have polled : LifecycleRecord.SameButStyles quiet
      (styled.session.lifecycle.recordAll inspector styled.session.palette
        styled.session.waiting).record
      (bare.session.lifecycle.recordAll inspector bare.session.palette
        bare.session.waiting).record := same.session.lifecycle_pollEvents inspector
  rw [Situation.lifecycle_perform, Situation.lifecycle_perform]
  cases operation with
  | start => exact ⟨.nil, rfl⟩
  | finish => exact ⟨.nil, rfl⟩
  | report event =>
      have recorded := polled.record inspector bare.session.width.columns texts
      rw [← same.session.palette, ← same.session.barePalette] at recorded
      exact recorded
  | refresh tokens => exact polled
  | command words =>
      dsimp only
      split
      · exact polled
      · exact same.session.lifecycle
  | _ => exact same.session.lifecycle

/-- The cache of the run without colour stays without escapes. -/
theorem escapeFree_sources_perform (free : inspector.EscapeFree)
    (kept : ∀ place, inspector.sourcePlace? bare.world.files = some place → place ∉ written)
    (always : quiet) :
    (bare.perform inspector operation).value.1.session.memory.sources.EscapeFree := by
  have cached := same.session.sources always
  have after : ((bare.session.scene inspector bare.world.files).sourcesAfter
      bare.session.memory.sources).EscapeFree :=
    Scene.escapeFree_sourcesAfter free (same.session.silent always) cached
      fun place here => same.clean place (kept place here)
  rw [sources_perform]
  cases operation with
  | start => exact fun item listed => absurd listed List.not_mem_nil
  | finish => exact fun item listed => absurd listed List.not_mem_nil
  | refresh tokens =>
      dsimp only [Operation.command?]
      split
      · exact after
      · exact cached
  | command words =>
      dsimp only
      split
      · split
        · exact after
        · exact cached
      · exact cached
  | _ => exact cached

theorem clean_perform (texts : operation.EscapeFree)
    (listed : ∀ batch ∈ bare.batches inspector operation,
      ∀ place, batch.Opens bare.world.files place → place ∈ written)
    (place : Place) (unlisted : place ∉ written) :
    (bare.perform inspector operation).value.1.world.files.EscapeFreeAt place := by
  have elsewhere : ∀ batch ∈ bare.batches inspector operation,
      ¬batch.Opens bare.world.files place := fun batch batchMem opens =>
    unlisted (listed batch batchMem place opens)
  have entry := Delivery.entryAt_deliverAll_of_not_opens ⟨bare.world, .empty⟩
    (bare.clears inspector operation) elsewhere
  have delivered : (bare.world.deliverAll (bare.batches inspector operation)
      (bare.clears inspector operation)).value.world.files.EscapeFreeAt place := by
    intro content found
    exact same.clean place unlisted content (entry.symm.trans found)
  rw [Situation.world_perform]
  cases operation with
  | outside world => exact texts place
  | _ => exact delivered

variable (free : inspector.EscapeFree) (texts : operation.EscapeFree)
  (kept : ∀ place, inspector.sourcePlace? bare.world.files = some place → place ∉ written)

include free texts kept

/-- An operation delivers the same batches, but for styles. -/
theorem sameBatches_batches :
    SameBatches quiet (styled.batches inspector operation) (bare.batches inspector operation) := by
  have command := same.session.sameBatches_command same.world kept free same.clean
  cases operation with
  | refresh tokens => exact command (.context tokens)
  | command words =>
      simp only [batches, Operation.command?]
      cases (Command.accept inspector words).toOption with
      | none => exact .nil
      | some accepted => exact command accepted
  | writePrimary lines => exact .cons ⟨rfl, .refl fun _ => texts⟩ .nil
  | _ => exact .nil

theorem session_perform (other : ¬operation.SetsColour) :
    (styled.perform inspector operation).value.1.session.SameButStyles quiet
      (bare.perform inspector operation).value.1.session where
  settings := by
    rw [settings_perform, settings_perform, same.session.settings,
      Settings.settingsAfter_withColour _ true other]
  plain := by
    have plain : bare.session.settings = bare.session.settings.withColour false := by
      rw [Settings.withColour, ← same.session.plain]
    rw [settings_perform, plain, Settings.settingsAfter_withColour _ false other]
    rfl
  memory := same.memory_perform kept
  lifecycle := same.lifecycle_perform texts
  channel := by
    rw [channel_perform, channel_perform, same.session.channel, same.session.opened]
  opened := by
    rw [opened_perform, opened_perform, same.session.opened]
  highlighter := by
    rw [highlighter_perform, highlighter_perform, same.session.highlighter]
  width := by
    rw [width_perform, width_perform, same.session.width]
  marks := by
    rw [settings_perform]
    exact Operation.escapeFree_settingsAfter texts same.session.marks
  waiting := escapeFree_waiting_perform texts same.session.waiting
  sources := same.escapeFree_sources_perform free kept
  silent := by
    rw [highlighter_perform]
    exact same.session.silent

variable (listed : ∀ batch ∈ bare.batches inspector operation,
  ∀ place, batch.Opens bare.world.files place → place ∈ written)

include listed

/-- The deliveries of an operation leave the worlds alike, and are reported alike. -/
theorem alike_deliverAll :
    let delivered := styled.world.deliverAll (styled.batches inspector operation)
      (styled.clears inspector operation)
    let bareDelivered := bare.world.deliverAll (bare.batches inspector operation)
      (bare.clears inspector operation)
    delivered.value.report = bareDelivered.value.report ∧
      World.Alike written delivered.value.world bareDelivered.value.world := by
  rw [same.clears_eq]
  exact same.world.deliverAll (same.sameBatches_batches free texts kept) listed _

theorem world_perform :
    World.Alike written (styled.perform inspector operation).value.1.world
      (bare.perform inspector operation).value.1.world := by
  have delivered := (same.alike_deliverAll free texts kept listed).2
  rw [Situation.world_perform, Situation.world_perform]
  cases operation with
  | outside world => exact .refl written world
  | _ => exact delivered

/-- Every operation answers the same, but for styles. -/
theorem outcome_perform :
    Outcome.SameButStyles quiet (styled.perform inspector operation).value.2
      (bare.perform inspector operation).value.2 := by
  have report := (same.alike_deliverAll free texts kept listed).1
  rw [Situation.outcome_perform, Situation.outcome_perform]
  dsimp only at report ⊢
  rw [report]
  cases operation with
  | renderRegisters asked => exact .lines (same.session.sameLines_renderRegisters free asked)
  | send channel event =>
      rw [same.session.channel]
      exact .refl _
  | _ => exact .refl _

end Step

end SameButStyles

end Situation

end StopView
