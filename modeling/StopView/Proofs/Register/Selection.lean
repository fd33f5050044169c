import StopView.Inspector.Script
import StopView.Proofs.Register.History

/-!
# Which registers a view shows

A view goes through the names it is asked for, or through the registers that are shown by
default, and through the flag registers if they are to be shown.  `ShowsEach` says what becomes
of the names without reference to snapshots: each of them gives either one line or one warning.
An inspector that knows the registers of its layout and its flag registers is never warned about
a register that it does not know, unless it was asked for one.
-/

namespace StopView

/-- Every name in a list gives either a line, if it is known and can be read, or a warning. -/
inductive Inspector.ShowsEach (inspector : Inspector) (lineOf : String → UInt64 → String) :
    List String → List String → List Notice → Prop
  | none : inspector.ShowsEach lineOf [] [] []
  | line {name : String} {value : UInt64} {names lines : List String} {warnings : List Notice}
      (known : name ∈ inspector.knownRegisters) (read : inspector.registerValue name = .ok value)
      (further : inspector.ShowsEach lineOf names lines warnings) :
      inspector.ShowsEach lineOf (name :: names) (lineOf name value :: lines) warnings
  | unreadable {name : String} {cause : Failure} {names lines : List String}
      {warnings : List Notice} (known : name ∈ inspector.knownRegisters)
      (failed : inspector.registerValue name = .error cause)
      (further : inspector.ShowsEach lineOf names lines warnings) :
      inspector.ShowsEach lineOf (name :: names) lines (.registerUnreadable name :: warnings)
  | unknown {name : String} {names lines : List String} {warnings : List Notice}
      (unknown : name ∉ inspector.knownRegisters)
      (further : inspector.ShowsEach lineOf names lines warnings) :
      inspector.ShowsEach lineOf (name :: names) lines (.registerUnknown name :: warnings)

namespace Inspector

variable (inspector : Inspector) (settings : Settings) (palette : Palette) (previous : Snapshot)

theorem ShowsEach.not_mem_warnings {inspector : Inspector} {lineOf : String → UInt64 → String}
    {names lines : List String} {warnings : List Notice}
    (shows : inspector.ShowsEach lineOf names lines warnings)
    (known : ∀ name ∈ names, name ∈ inspector.knownRegisters) (name : String) :
    .registerUnknown name ∉ warnings := by
  induction shows with
  | none => exact List.not_mem_nil
  | line _ _ _ ih => exact ih fun other listed => known other (List.mem_cons_of_mem _ listed)
  | unreadable _ _ _ ih =>
      rw [List.mem_cons, not_or]
      exact ⟨nofun, ih fun other listed => known other (List.mem_cons_of_mem _ listed)⟩
  | unknown unknown _ _ => exact absurd (known _ List.mem_cons_self) unknown

/-- A list of names is gone through one by one. -/
theorem showsEach_registerLines (names : List String) :
    let view := Noted.flatMap names
      (registerLines inspector settings palette previous inspector.snapshot)
    inspector.ShowsEach (registerLine inspector settings palette previous inspector.snapshot)
      names view.value view.notices := by
  induction names with
  | nil => exact .none
  | cons name rest ih =>
      simp only [Noted.value_flatMap, Noted.notices_flatMap, List.flatMap_cons] at ih ⊢
      rw [registerLines, get?_snapshot, seen?]
      by_cases known : name ∈ inspector.knownRegisters
      · rw [if_pos (List.contains_iff_mem.mpr known), if_pos known]
        cases read : inspector.registerValue name with
        | ok value => exact .line known read ih
        | error cause => exact .unreadable known read ih
      · rw [if_neg (mt List.contains_iff_mem.mp known)]
        exact .unknown known ih

theorem mem_knownRegisters_of_mem_selectedRegisters
    (usual : inspector.knownRegisters = inspector.layout.readable inspector.flagRegisters)
    {name : String} (selected : name ∈ selectedRegisters inspector settings none) :
    name ∈ inspector.knownRegisters := by
  rw [usual]
  have flag : name ∈ inspector.flagRegisters.map FlagRegister.name →
      name ∈ inspector.layout.readable inspector.flagRegisters :=
    List.mem_append_right _
  rw [selectedRegisters] at selected
  dsimp only [Option.getD_none, List.isEmpty_nil, if_true] at selected
  split at selected
  · rcases List.mem_append.mp selected with default | listed
    · exact RegisterLayout.mem_readable_of_mem_defaultSelection _ default
    · exact flag listed
  · exact RegisterLayout.mem_readable_of_mem_defaultSelection _ selected

end Inspector

/-! ## The main result -/

namespace Session

/-- A view goes through the names it is asked for, or without any through the general registers,
the frame register, the stack register, the registers of return addresses if they are to be
shown and the program counter; and in either case through the flag registers behind them, if
these are to be shown.  Each name that is known and can be read gives one line, and each of the
others one warning, all in the order of the names and as often as they are listed.  An inspector
that knows the registers of its layout and its flag registers knows whatever is shown by
default, so that a view that is asked for nothing warns of no unknown register. -/
theorem register_view_shows_or_warns_of_each_name (session : Session) (inspector : Inspector)
    (files : FileSystem) (asked : Option (List String)) :
    let settings := session.settings
    let layout := inspector.layout
    let lineOf := registerLine inspector settings session.palette session.memory.snapshot
      inspector.snapshot
    let selected := fun asked : List String =>
      (if asked = [] then
        layout.general ++ layout.frame.toList ++ [layout.stack] ++
          (if settings.showReturnAddress then layout.returnAddress else []) ++ [layout.pc]
      else asked) ++
      if settings.showFlags then inspector.flagRegisters.map FlagRegister.name else []
    let view := session.renderRegisters inspector asked
    let block := (session.scene inspector files).block .registers session.memory
    inspector.ShowsEach lineOf (selected (asked.getD [])) view.value.result view.notices ∧
    (∃ lines, block.value.lines = session.palette.banner "registers" :: lines ∧
      inspector.ShowsEach lineOf (selected []) lines block.notices) ∧
    (inspector.knownRegisters = layout.readable inspector.flagRegisters →
      (∀ returnAddress, ∀ name ∈ layout.defaultSelection returnAddress,
        name ∈ inspector.knownRegisters) ∧
      (∀ register ∈ inspector.flagRegisters, register.name ∈ inspector.knownRegisters) ∧
      ∀ name, .registerUnknown name ∉ block.notices ∧
        (asked.getD [] = [] → .registerUnknown name ∉ view.notices)) := by
  intro settings layout lineOf selected view block
  have names : ∀ asked, selectedRegisters inspector settings asked = selected (asked.getD []) := by
    intro asked
    dsimp only [selectedRegisters, selected]
    cases asked.getD [] with
    | nil => cases settings.showFlags <;> simp [RegisterLayout.defaultSelection, layout]
    | cons first rest => cases settings.showFlags <;> simp
  have shows : ∀ asked,
      let rendered := StopView.renderRegisters inspector settings session.palette
        session.memory.snapshot asked
      inspector.ShowsEach lineOf (selected (asked.getD [])) rendered.value rendered.notices := by
    intro asked
    rw [← names]
    exact inspector.showsEach_registerLines settings session.palette session.memory.snapshot _
  have viewShows : inspector.ShowsEach lineOf (selected (asked.getD [])) view.value.result
      view.notices := by
    have noticed : view.notices = (StopView.renderRegisters inspector settings session.palette
        session.memory.snapshot asked).notices := List.append_nil _
    rw [noticed]
    exact shows asked
  have blockShows : inspector.ShowsEach lineOf (selected [])
      (StopView.renderRegisters inspector settings session.palette session.memory.snapshot
        none).value block.notices := by
    have noticed : block.notices = (StopView.renderRegisters inspector settings session.palette
        session.memory.snapshot none).notices := List.append_nil _
    rw [noticed]
    exact shows none
  constructor
  · exact viewShows
  constructor
  · exact ⟨_, rfl, blockShows⟩
  · intro usual
    have known : ∀ name ∈ selected [], name ∈ inspector.knownRegisters := by
      intro name listed
      rw [← show selectedRegisters inspector settings none = selected [] from names none] at listed
      exact inspector.mem_knownRegisters_of_mem_selectedRegisters settings usual listed
    constructor
    · intro returnAddress name listed
      rw [usual]
      exact RegisterLayout.mem_readable_of_mem_defaultSelection _ listed
    constructor
    · intro register listed
      rw [usual]
      exact List.mem_append_right _ (List.mem_map_of_mem listed)
    · intro name
      constructor
      · exact blockShows.not_mem_warnings known name
      · intro none
        rw [none] at viewShows
        exact viewShows.not_mem_warnings known name

/-- A layout without a frame register, whose flag registers are others than those the inspector
has.  By default everything is known, and what cannot be read is warned of; a register that is
asked for twice is shown twice, and the flag register is shown behind it. -/
theorem small_layout_is_known_by_default :
    let layout : RegisterLayout := ⟨["a", "b"], none, "sp", "pc", ["lr"], [⟨"flags", []⟩]⟩
    let inspector := { Script.blank with
      layout, flags := some [⟨"sr", [⟨"z", 0⟩]⟩]
      registers := [("a", 1), ("sp", 16), ("sr", 1)] }.inspector
    let settings :=
      { Settings.initial with colour := false, showFlags := true, showReturnAddress := true }
    let session := fresh settings plainHighlighter 12
    let view := fun asked => session.renderRegisters inspector asked
    inspector.knownRegisters = layout.readable inspector.flagRegisters ∧
      (view none).value.result = [" A    0x1", " SP   0x10", " SR   0x1 [ Z ]"] ∧
      (view none).notices.map Notice.text =
        ["Register b could not be read", "Register lr could not be read",
          "Register pc could not be read"] ∧
      (∀ name, .registerUnknown name ∉ (view none).notices) ∧
      (view (some ["q", "a", "a"])).value.result =
        [" A    0x1", " A    0x1", " SR   0x1 [ Z ]"] ∧
      (view (some ["q", "a", "a"])).notices.map Notice.text = ["Unknown register: \"q\""] := by
  intro layout inspector settings session view
  have usual : inspector.knownRegisters = layout.readable inspector.flagRegisters := rfl
  obtain ⟨-, -, known⟩ :=
    session.register_view_shows_or_warns_of_each_name inspector .initial none
  obtain ⟨-, -, unwarned⟩ := known usual
  constructor
  · exact usual
  constructor
  · decide +kernel
  constructor
  · decide +kernel
  constructor
  · exact fun name => (unwarned name).2 rfl
  constructor
  · decide +kernel
  · decide +kernel

end Session

end StopView
