import StopView.Proofs.Text.Escape
import StopView.Settings.Change

/-!
# What a name and a value are read as

A setting has one name, and a change that is read from a name and a value sets the setting
with that name and no other, a text as it is given.  A refusal names the setting that was meant.
-/

namespace StopView

/-! ## Names -/

/-- The name of a setting. -/
def Setting.name : Setting → String
  | .sections => "context-sections"
  | .output => "context-output"
  | .sectionOutput part => sectionOutputStem ++ part.name
  | .switch .clearScreen => "context-clear-screen"
  | .switch .stackReverse => "context-stack-reverse"
  | .switch .showFlags => "show-flags"
  | .switch .showReturnAddress => "show-retaddr-reg"
  | .switch .highlightSource => "highlight-source"
  | .switch .syntaxHighlight => "syntax-highlight"
  | .switch .emulate => "emulate"
  | .switch .colour => "color"
  | .quantity .codeLines => "context-code-lines"
  | .quantity .sourceLines => "context-source-code-lines"
  | .quantity .stackLines => "context-stack-lines"
  | .mark .code => "code-prefix"
  | .mark .backtrace => "backtrace-prefix"
  | .mark .frameLabel => "backtrace-frame-label"
  | .mark .changed => "register-changed-marker"

theorem Setting.eq_of_sectionOutputRest? {name rest : String}
    (found : sectionOutputRest? name = some rest) : name = sectionOutputStem ++ rest := by
  rw [sectionOutputRest?] at found
  split at found
  · rename_i begins
    obtain ⟨tail, whole⟩ := List.isPrefixOf_iff_prefix.mp begins
    cases found
    rw [← String.toList_inj, String.toList_append, String.toList_ofList, ← whole,
      ← String.length_toList, List.drop_left]
  · contradiction

/-- A setting is found under its name and no other. -/
theorem Setting.ofName_eq_ok_iff {name : String} {setting : Setting} :
    ofName name = .ok setting ↔ name = setting.name := by
  constructor
  · intro found
    rw [ofName] at found
    split at found
    · rename_i rest begins
      split at found
      · rename_i part known
        cases found
        rw [Setting.name, ← Section.ofName?_eq_some_iff.mp known]
        exact eq_of_sectionOutputRest? begins
      · contradiction
    · split at found
      · rename_i listed
        cases found
        have names : ∀ entry ∈ plainNames, entry.1 = entry.2.name := by decide
        exact names (name, setting) (Text.mem_of_lookup_eq_some listed)
      · contradiction
  · rintro rfl
    cases setting with
    | sections => rfl
    | output => rfl
    | sectionOutput part => cases part <;> rfl
    | switch which => cases which <;> rfl
    | quantity which => cases which <;> rfl
    | mark which => cases which <;> rfl

theorem Setting.eq_of_name_eq {first second : Setting} (same : first.name = second.name) :
    first = second := by
  have found : ofName first.name = .ok second := ofName_eq_ok_iff.mpr same
  rw [ofName_eq_ok_iff.mpr rfl] at found
  exact Except.ok.inj found

theorem Setting.refused_of_ofName {name : String} {cause : Failure}
    (refused : ofName name = .error cause) : ∃ reason, cause = .configuration name reason := by
  rw [ofName] at refused
  split at refused
  · split at refused
    · contradiction
    · cases refused
      exact ⟨_, rfl⟩
  · split at refused
    · contradiction
    · cases refused
      exact ⟨_, rfl⟩

/-! ## Changes -/

/-- The setting that a change sets. -/
def Change.setting : Change → Setting
  | .sections _ => .sections
  | .output _ => .output
  | .sectionOutput part _ => .sectionOutput part
  | .switch which _ => .switch which
  | .quantity which _ => .quantity which
  | .mark which _ => .mark which

/-- The text that a change sets, if it sets one. -/
def Change.text? : Change → Option String
  | .mark _ text => some text
  | _ => none

theorem Change.value_ofSections (value : String) :
    (Change.ofSections value).value =
      match parseSections value with
      | .ok order => .ok (.sections order)
      | .error word =>
          .error (.configuration "context-sections" ("invalid section " ++ word)) := by
  rw [Change.ofSections]
  cases parseSections value with
  | error word => rfl
  | ok order =>
      dsimp only
      split <;> rfl

theorem Change.setting_of_ofSections {value : String} {change : Change}
    (read : (Change.ofSections value).value = .ok change) :
    change.setting = .sections ∧ change.text? = none := by
  rw [Change.value_ofSections] at read
  split at read
  · cases read
    exact ⟨rfl, rfl⟩
  · cases read

theorem Change.refused_of_ofSections {value : String} {cause : Failure}
    (refused : (ofSections value).value = .error cause) :
    ∃ reason, cause = .configuration "context-sections" reason := by
  rw [value_ofSections] at refused
  split at refused
  · cases refused
  · cases refused
    exact ⟨_, rfl⟩

/-- A change of a switch or a count sets what is named, and no text. -/
theorem Change.eq_of_ofValue? {name value : String} {change? : Option Change} {change : Change}
    (read : (Change.ofValue? name value change?).value = .ok change) : change? = some change := by
  cases change? with
  | none => cases read
  | some other =>
      cases read
      rfl

theorem Change.refused_of_ofValue? {name value : String} {change? : Option Change}
    {cause : Failure} (refused : (ofValue? name value change?).value = .error cause) :
    ∃ reason, cause = .configuration name reason := by
  cases change? with
  | none =>
      cases refused
      exact ⟨_, rfl⟩
  | some change => cases refused

/-- Under the name of a setting a value is read for this setting. -/
theorem Change.value_ofText_of_ok {name : String} {setting : Setting}
    (named : Setting.ofName name = .ok setting) (value : String) :
    (ofText name value).value = (ofSetting setting name value).value := by
  simp only [ofText, named]
  rfl

/-- Under any other name a value is not read at all. -/
theorem Change.value_ofText_of_error {name : String} {cause : Failure}
    (unnamed : Setting.ofName name = .error cause) (value : String) :
    (ofText name value).value = .error cause := by
  simp only [ofText, unnamed]
  rfl

/-- A change that was read sets the setting that was named, a text as it was given. -/
theorem Change.setting_of_ofText {name value : String} {change : Change}
    (read : (Change.ofText name value).value = .ok change) :
    Setting.ofName name = .ok change.setting ∧ ∀ text, change.text? = some text → text = value := by
  cases named : Setting.ofName name with
  | error cause =>
      rw [value_ofText_of_error named] at read
      cases read
  | ok setting =>
      rw [value_ofText_of_ok named] at read
      cases setting with
      | sections =>
          obtain ⟨same, none⟩ := setting_of_ofSections read
          rw [same, none]
          exact ⟨rfl, nofun⟩
      | output =>
          cases read
          exact ⟨rfl, nofun⟩
      | sectionOutput part =>
          cases read
          exact ⟨rfl, nofun⟩
      | switch which =>
          rw [ofSetting] at read
          obtain ⟨word, _, rfl⟩ := Option.map_eq_some_iff.mp (eq_of_ofValue? read)
          exact ⟨rfl, nofun⟩
      | quantity which =>
          rw [ofSetting] at read
          obtain ⟨count, _, rfl⟩ := Option.map_eq_some_iff.mp (eq_of_ofValue? read)
          exact ⟨rfl, nofun⟩
      | mark which =>
          cases read
          exact ⟨rfl, fun text given => (Option.some.inj given).symm⟩

/-- A refusal names the setting that was meant. -/
theorem Change.refused_of_ofText {name value : String} {cause : Failure}
    (refused : (ofText name value).value = .error cause) :
    ∃ reason, cause = .configuration name reason := by
  cases named : Setting.ofName name with
  | error other =>
      rw [value_ofText_of_error named] at refused
      cases refused
      exact Setting.refused_of_ofName named
  | ok setting =>
      rw [value_ofText_of_ok named] at refused
      cases setting with
      | sections =>
          rw [Setting.ofName_eq_ok_iff.mp named]
          exact refused_of_ofSections refused
      | output => cases refused
      | sectionOutput part => cases refused
      | switch which =>
          rw [ofSetting] at refused
          exact refused_of_ofValue? refused
      | quantity which =>
          rw [ofSetting] at refused
          exact refused_of_ofValue? refused
      | mark which => cases refused

end StopView
