import StopView.Proofs.Section.Colour
import StopView.Proofs.Session.Step
import StopView.Proofs.Settings.Reading

/-!
# Settings with and without colour

A change of anything but the colour is the same with colour and without, and marks without
escapes stay so as long as they are set to such texts.
-/

namespace StopView

/-- An operation sets the colour. -/
def Operation.SetsColour : Operation → Prop
  | .set name _ => Setting.ofName name = .ok (.switch .colour)
  | _ => False

namespace Settings

/-- Settings with colour or without. -/
def withColour (settings : Settings) (colour : Bool) : Settings :=
  { settings with colour }

variable (settings : Settings) (colour : Bool)

theorem apply_withColour {change : Change} (other : change.setting ≠ .switch .colour) :
    (settings.withColour colour).apply change = (settings.apply change).withColour colour := by
  cases change with
  | sections order => rfl
  | output destination => rfl
  | sectionOutput part output => rfl
  | switch which value => cases which <;> first | rfl | exact absurd rfl other
  | quantity which count => cases which <;> rfl
  | mark which text => cases which <;> rfl

/-- An operation that does not set the colour is the same with colour and without. -/
theorem settingsAfter_withColour {operation : Operation} (other : ¬operation.SetsColour) :
    operation.settingsAfter (settings.withColour colour) =
      (operation.settingsAfter settings).withColour colour := by
  cases operation with
  | set name value =>
      rw [Operation.settingsAfter, Operation.settingsAfter]
      cases read : (Change.ofText name value).value with
      | error cause => rfl
      | ok change =>
          apply settings.apply_withColour colour
          intro same
          apply other
          rw [Operation.SetsColour, (Change.setting_of_ofText read).1, same]
  | setSections value =>
      rw [Operation.settingsAfter, Operation.settingsAfter]
      cases read : (Change.ofSections value).value with
      | error cause => rfl
      | ok change =>
          apply settings.apply_withColour colour
          rw [(Change.setting_of_ofSections read).1]
          nofun
  | setOutput key output => cases key <;> rfl
  | _ => rfl

/-- Marks without escapes that are set to texts without escapes. -/
theorem EscapeFree.apply {settings : Settings} (free : settings.EscapeFree) {change : Change}
    (given : ∀ text, change.text? = some text → Text.EscapeFree text) :
    (settings.apply change).EscapeFree := by
  cases change with
  | mark which text =>
      have here := given text rfl
      cases which with
      | code => exact { free with codeMarker := here }
      | backtrace => exact { free with backtraceMarker := here }
      | frameLabel => exact { free with frameLabel := here }
      | changed => exact { free with changedMarker := here }
  | sections order => exact { free with }
  | output destination => exact { free with }
  | sectionOutput part output => exact { free with }
  | switch which value => cases which <;> exact { free with }
  | quantity which count => cases which <;> exact { free with }

end Settings

end StopView
