import Mathlib.Data.List.Basic
import StopView.Proofs.Settings.Reading
import StopView.Session.Operation

/-!
# What the settings hold

Each setting holds what was accepted for it last, whatever was given for the others.  Settings
are therefore known by what each of them holds, and values that are given under different
names may be given in any order.
-/

namespace StopView

/-! ## Settings one by one -/

attribute [ext] SectionOutputs Settings

namespace Settings

/-- Whether a switch is on. -/
def getSwitch (settings : Settings) : Switch → Bool
  | .clearScreen => settings.clearScreen
  | .stackReverse => settings.stackReverse
  | .showFlags => settings.showFlags
  | .showReturnAddress => settings.showReturnAddress
  | .highlightSource => settings.highlightSource
  | .syntaxHighlight => settings.syntaxHighlight
  | .emulate => settings.emulate
  | .colour => settings.colour

/-- A number of lines. -/
def getQuantity (settings : Settings) : Quantity → Nat
  | .codeLines => settings.codeLines
  | .sourceLines => settings.sourceLines
  | .stackLines => settings.stackLines

/-- A text that is shown as it is. -/
def getMark (settings : Settings) : Mark → String
  | .code => settings.codeMarker
  | .backtrace => settings.backtraceMarker
  | .frameLabel => settings.frameLabel
  | .changed => settings.changedMarker

/-- What a setting holds, as the change that would set it so. -/
def held (settings : Settings) : Setting → Change
  | .sections => .sections settings.sections
  | .output => .output settings.output
  | .sectionOutput part => .sectionOutput part (settings.sectionOutputs.get part)
  | .switch which => .switch which (settings.getSwitch which)
  | .quantity which => .quantity which (settings.getQuantity which)
  | .mark which => .mark which (settings.getMark which)

theorem ext_held {left right : Settings}
    (same : ∀ setting, left.held setting = right.held setting) : left = right := by
  have outputs : ∀ part, left.sectionOutputs.get part = right.sectionOutputs.get part :=
    fun part => (Change.sectionOutput.inj (same (.sectionOutput part))).2
  have switches : ∀ which, left.getSwitch which = right.getSwitch which :=
    fun which => (Change.switch.inj (same (.switch which))).2
  have quantities : ∀ which, left.getQuantity which = right.getQuantity which :=
    fun which => (Change.quantity.inj (same (.quantity which))).2
  have marks : ∀ which, left.getMark which = right.getMark which :=
    fun which => (Change.mark.inj (same (.mark which))).2
  apply Settings.ext
  case sections => exact Change.sections.inj (same .sections)
  case output => exact Change.output.inj (same .output)
  case sectionOutputs =>
    exact SectionOutputs.ext (outputs .registers) (outputs .disasm) (outputs .args)
      (outputs .code) (outputs .stack) (outputs .backtrace)
  case clearScreen => exact switches .clearScreen
  case stackReverse => exact switches .stackReverse
  case showFlags => exact switches .showFlags
  case showReturnAddress => exact switches .showReturnAddress
  case highlightSource => exact switches .highlightSource
  case syntaxHighlight => exact switches .syntaxHighlight
  case emulate => exact switches .emulate
  case colour => exact switches .colour
  case codeLines => exact quantities .codeLines
  case sourceLines => exact quantities .sourceLines
  case stackLines => exact quantities .stackLines
  case codeMarker => exact marks .code
  case backtraceMarker => exact marks .backtrace
  case frameLabel => exact marks .frameLabel
  case changedMarker => exact marks .changed

variable (settings : Settings)

theorem held_setSwitch (which : Switch) (value : Bool) (setting : Setting) :
    (settings.setSwitch which value).held setting =
      if setting = .switch which then .switch which value else settings.held setting := by
  cases setting with
  | switch other => cases which <;> cases other <;> rfl
  | _ => cases which <;> rfl

theorem held_setQuantity (which : Quantity) (value : Nat) (setting : Setting) :
    (settings.setQuantity which value).held setting =
      if setting = .quantity which then .quantity which value else settings.held setting := by
  cases setting with
  | quantity other => cases which <;> cases other <;> rfl
  | _ => cases which <;> rfl

theorem held_setMark (which : Mark) (text : String) (setting : Setting) :
    (settings.setMark which text).held setting =
      if setting = .mark which then .mark which text else settings.held setting := by
  cases setting with
  | mark other => cases which <;> cases other <;> rfl
  | _ => cases which <;> rfl

/-- A change is held by the setting that it sets, and all others hold what they held. -/
theorem held_apply (change : Change) (setting : Setting) :
    (settings.apply change).held setting =
      if setting = change.setting then change else settings.held setting := by
  cases change with
  | sections order => cases setting <;> rfl
  | output destination => cases setting <;> rfl
  | sectionOutput part output =>
      cases setting with
      | sectionOutput other => cases part <;> cases other <;> rfl
      | _ => rfl
  | switch which value => exact settings.held_setSwitch which value setting
  | quantity which value => exact settings.held_setQuantity which value setting
  | mark which text => exact settings.held_setMark which text setting

/-- Of two changes of one setting the later one counts. -/
theorem apply_apply_of_setting_eq {first second : Change}
    (same : first.setting = second.setting) :
    (settings.apply first).apply second = settings.apply second := by
  apply ext_held
  intro setting
  rw [held_apply, held_apply, held_apply, same]
  split <;> rfl

/-- Changes of two settings may be applied in any order. -/
theorem apply_comm {first second : Change} (apart : first.setting ≠ second.setting) :
    (settings.apply first).apply second = (settings.apply second).apply first := by
  apply ext_held
  intro setting
  rw [held_apply, held_apply, held_apply, held_apply]
  split
  · rename_i here
    rw [if_neg (here.trans_ne apart.symm)]
  · rfl

/-! ## Values given under names -/

theorem held_applyRead (read : Except Failure Change) (setting : Setting) :
    (settings.applyRead read).held setting =
      (read.toOption.filter fun change => change.setting = setting).getD
        (settings.held setting) := by
  cases read with
  | error cause => rfl
  | ok change =>
      rw [applyRead, held_apply, Except.toOption, Option.filter_some]
      by_cases same : change.setting = setting
      · simp [same]
      · simp [same, Ne.symm same]

theorem applyRead_comm {first second : Except Failure Change}
    (apart : ∀ one other, first = .ok one → second = .ok other → one.setting ≠ other.setting) :
    (settings.applyRead first).applyRead second = (settings.applyRead second).applyRead first := by
  cases first with
  | error cause => rfl
  | ok one =>
      cases second with
      | error cause => rfl
      | ok other => exact settings.apply_comm (apart one other rfl rfl)

end Settings

theorem Change.name_setting {name value : String} {change : Change}
    (read : (ofText name value).value = .ok change) : change.setting.name = name :=
  (Setting.ofName_eq_ok_iff.mp (setting_of_ofText read).1).symm

/-- What is accepted for a setting when a value is given under a name. -/
def Change.acceptedFor? (setting : Setting) (name value : String) : Option Change :=
  (ofText name value).value.toOption.filter fun change => change.setting = setting

theorem Change.exists_acceptedFor (setting : Setting) :
    ∃ value, (acceptedFor? setting setting.name value).isSome := by
  cases setting with
  | sections => exact ⟨"", rfl⟩
  | output => exact ⟨"", rfl⟩
  | sectionOutput part => exact ⟨"", by cases part <;> rfl⟩
  | switch which => exact ⟨"1", by cases which <;> rfl⟩
  | quantity which => exact ⟨"1", by cases which <;> rfl⟩
  | mark which => exact ⟨"", by cases which <;> rfl⟩

/-! ## Runs -/

namespace Situation

variable (situation : Situation) (inspector : Inspector)

/-- A situation with other settings. -/
def withSettings (settings : Settings) : Situation :=
  { situation with session := { situation.session with settings } }

/-- The outcome of a change that was read or refused. -/
def outcomeOfRead (read : Except Failure Change) : Outcome :=
  match read with
  | .ok _ => .done
  | .error cause => .refused cause

theorem perform_set (name value : String) :
    (situation.perform inspector (.set name value)).value =
      (situation.withSettings
          (situation.session.settings.applyRead (Change.ofText name value).value),
        outcomeOfRead (Change.ofText name value).value) :=
  rfl

theorem run_set_set (first second firstValue secondValue : String) :
    (situation.run
      [(inspector, .set first firstValue), (inspector, .set second secondValue)]).value =
      (situation.withSettings
          ((situation.session.settings.applyRead (Change.ofText first firstValue).value).applyRead
            (Change.ofText second secondValue).value),
        [outcomeOfRead (Change.ofText first firstValue).value,
          outcomeOfRead (Change.ofText second secondValue).value]) :=
  rfl

/-- A value is refused in every situation, or it is held in every situation, by the setting
with the name under which it was given. -/
theorem perform_set_cases (name value : String) :
    (∃ reason, ∀ (situation : Situation) (inspector : Inspector),
      (situation.perform inspector (.set name value)).value =
        (situation, .refused (.configuration name reason))) ∨
    ∃ change : Change, change.setting.name = name ∧
      ∀ (situation : Situation) (inspector : Inspector), ∃ settings : Settings,
        (situation.perform inspector (.set name value)).value =
            (situation.withSettings settings, .done) ∧
          settings.held change.setting = change ∧
          ∀ other ≠ change.setting,
            settings.held other = situation.session.settings.held other := by
  cases read : (Change.ofText name value).value with
  | error cause =>
      obtain ⟨reason, rfl⟩ := Change.refused_of_ofText read
      refine .inl ⟨reason, fun situation inspector => ?_⟩
      rw [perform_set, read]
      rfl
  | ok change =>
      refine .inr ⟨change, Change.name_setting read, fun situation inspector => ?_⟩
      use situation.session.settings.apply change
      constructor
      · rw [perform_set, read]
        rfl
      constructor
      · rw [Settings.held_apply, if_pos rfl]
      · intro other apart
        rw [Settings.held_apply, if_neg apart]

/-- Values that are given under two names may be given in any order. -/
theorem run_set_set_comm {first second : String} (apart : first ≠ second)
    (firstValue secondValue : String) :
    let oneWay := (situation.run
      [(inspector, .set first firstValue), (inspector, .set second secondValue)]).value
    (situation.run
      [(inspector, .set second secondValue), (inspector, .set first firstValue)]).value =
        (oneWay.1, oneWay.2.reverse) := by
  intro oneWay
  have settings : ∀ one other, (Change.ofText second secondValue).value = .ok one →
      (Change.ofText first firstValue).value = .ok other → one.setting ≠ other.setting := by
    intro one other readOne readOther same
    apply apart
    rw [← Change.name_setting readOne, ← Change.name_setting readOther, same]
  rw [run_set_set, Settings.applyRead_comm _ settings]
  rfl

/-- Of two values that are given under one name the later one counts if it is accepted. -/
theorem run_set_set_same {name secondValue : String} (firstValue : String)
    (accepted : (situation.perform inspector (.set name secondValue)).value.2 = .done) :
    let alone := (situation.perform inspector (.set name secondValue)).value
    let both := (situation.run
      [(inspector, .set name firstValue), (inspector, .set name secondValue)]).value
    both.1 = alone.1 ∧ both.2.getLast? = some alone.2 := by
  intro alone both
  constructor
  · rw [show both = _ from situation.run_set_set inspector name name firstValue secondValue,
      show alone = _ from situation.perform_set inspector name secondValue]
    cases second : (Change.ofText name secondValue).value with
    | error cause =>
        rw [perform_set, second] at accepted
        contradiction
    | ok later =>
        cases first : (Change.ofText name firstValue).value with
        | error cause => rfl
        | ok earlier =>
            have same : earlier.setting = later.setting :=
              Setting.eq_of_name_eq
                ((Change.name_setting first).trans (Change.name_setting second).symm)
            simp only [Settings.applyRead, Settings.apply_apply_of_setting_eq _ same]
  · rfl

/-- After any values under any names each setting holds what was accepted for it last. -/
theorem held_run_sets (given : List (String × String)) (setting : Setting) :
    (situation.run (given.map fun entry =>
        (inspector, .set entry.1 entry.2))).value.1.session.settings.held setting =
      ((given.filterMap fun entry =>
        Change.acceptedFor? setting entry.1 entry.2).getLast?).getD
          (situation.session.settings.held setting) := by
  induction given generalizing situation with
  | nil => rfl
  | cons entry rest ih =>
      let after := (situation.perform inspector (.set entry.1 entry.2)).value.1
      have first : after.session.settings.held setting =
          (Change.acceptedFor? setting entry.1 entry.2).getD
            (situation.session.settings.held setting) :=
        situation.session.settings.held_applyRead (Change.ofText entry.1 entry.2).value setting
      refine (ih after).trans ?_
      rw [first, List.filterMap_cons]
      cases Change.acceptedFor? setting entry.1 entry.2 with
      | none => rfl
      | some change => rw [List.getLast?_cons, Option.getD_some, Option.getD_some]

/-! ## The main result -/

/-- Settings are given values one by one.  What a value under a name comes to is the same in
every situation: a configuration failure that names the setting and changes nothing, or a
change that is held by the setting with that name while all others hold what they held, and
there is nothing else to the settings.  Each setting can be given some value.  Values under two
names may be given in any order, with the same outcomes; of two values under one name the later
one counts if it is accepted; and after any values under any names each setting holds what was
accepted for it last, or what it held before. -/
theorem settings_hold_what_was_accepted_last :
    (∀ name value : String,
      (∃ reason, ∀ (situation : Situation) (inspector : Inspector),
        (situation.perform inspector (.set name value)).value =
          (situation, .refused (.configuration name reason))) ∨
      ∃ change : Change, change.setting.name = name ∧
        ∀ (situation : Situation) (inspector : Inspector), ∃ settings : Settings,
          (situation.perform inspector (.set name value)).value =
              (situation.withSettings settings, .done) ∧
            settings.held change.setting = change ∧
            ∀ other ≠ change.setting,
              settings.held other = situation.session.settings.held other) ∧
      (∀ left right : Settings,
        (∀ setting, left.held setting = right.held setting) → left = right) ∧
      (∀ setting : Setting, ∃ value, (Change.acceptedFor? setting setting.name value).isSome) ∧
      ∀ (situation : Situation) (inspector : Inspector),
        (∀ first second : String, first ≠ second → ∀ firstValue secondValue : String,
          let oneWay := (situation.run
            [(inspector, .set first firstValue), (inspector, .set second secondValue)]).value
          (situation.run
            [(inspector, .set second secondValue), (inspector, .set first firstValue)]).value =
              (oneWay.1, oneWay.2.reverse)) ∧
        (∀ name firstValue secondValue : String,
          let alone := (situation.perform inspector (.set name secondValue)).value
          let both := (situation.run
            [(inspector, .set name firstValue), (inspector, .set name secondValue)]).value
          alone.2 = .done → both.1 = alone.1 ∧ both.2.getLast? = some alone.2) ∧
        ∀ (given : List (String × String)) (setting : Setting),
          (situation.run (given.map fun entry =>
              (inspector, .set entry.1 entry.2))).value.1.session.settings.held setting =
            ((given.filterMap fun entry =>
              Change.acceptedFor? setting entry.1 entry.2).getLast?).getD
                (situation.session.settings.held setting) := by
  constructor
  · exact perform_set_cases
  constructor
  · intro left right
    exact Settings.ext_held
  constructor
  · exact Change.exists_acceptedFor
  · intro situation inspector
    constructor
    · intro first second apart firstValue secondValue
      exact situation.run_set_set_comm inspector apart firstValue secondValue
    constructor
    · intro name firstValue secondValue alone both accepted
      exact situation.run_set_set_same inspector firstValue accepted
    · exact situation.held_run_sets inspector

end Situation

end StopView
