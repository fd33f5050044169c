import StopView.Count
import StopView.Notice
import StopView.Settings
import StopView.Text.Lower
import StopView.Text.Pieces

/-!
# Changing a setting by name

A change is read from a setting's name and a value's text, without regard to the
settings in force, and then applied.  A value that cannot be read is refused: the
settings stay as they were.
-/

namespace StopView

/-- The settings that are on or off. -/
inductive Switch where
  | clearScreen
  | stackReverse
  | showFlags
  | showReturnAddress
  | highlightSource
  | syntaxHighlight
  | emulate
  | colour
deriving Repr, DecidableEq

/-- The settings that count lines. -/
inductive Quantity where
  | codeLines
  | sourceLines
  | stackLines
deriving Repr, DecidableEq

/-- The settings that hold text, shown as it is. -/
inductive Mark where
  | code
  | backtrace
  | frameLabel
  | changed
deriving Repr, DecidableEq

/-- What a setting's name stands for. -/
inductive Setting where
  | sections
  | output
  | sectionOutput (part : Section)
  | switch (which : Switch)
  | quantity (which : Quantity)
  | mark (which : Mark)
deriving Repr, DecidableEq

namespace Setting

/-- How the names of the sections' outputs begin. -/
def sectionOutputStem : String :=
  "context-output-"

/-- The names of the settings, those of the sections' outputs apart. -/
def plainNames : List (String × Setting) :=
  [("context-sections", .sections),
   ("context-output", .output),
   ("context-clear-screen", .switch .clearScreen),
   ("context-stack-reverse", .switch .stackReverse),
   ("show-flags", .switch .showFlags),
   ("show-retaddr-reg", .switch .showReturnAddress),
   ("highlight-source", .switch .highlightSource),
   ("syntax-highlight", .switch .syntaxHighlight),
   ("emulate", .switch .emulate),
   ("color", .switch .colour),
   ("context-code-lines", .quantity .codeLines),
   ("context-source-code-lines", .quantity .sourceLines),
   ("context-stack-lines", .quantity .stackLines),
   ("code-prefix", .mark .code),
   ("backtrace-prefix", .mark .backtrace),
   ("backtrace-frame-label", .mark .frameLabel),
   ("register-changed-marker", .mark .changed)]

/-- What follows the stem of the sections' outputs, if a name begins with it. -/
def sectionOutputRest? (name : String) : Option String :=
  if sectionOutputStem.toList.isPrefixOf name.toList then
    some (String.ofList (name.toList.drop sectionOutputStem.length))
  else
    none

/-- The setting with a name. -/
def ofName (name : String) : Except Failure Setting :=
  match sectionOutputRest? name with
  | some rest =>
      match Section.ofName? rest with
      | some part => .ok (.sectionOutput part)
      | none => .error (.configuration name "unknown section")
  | none =>
      match plainNames.lookup name with
      | some setting => .ok setting
      | none => .error (.configuration name "unknown setting")

end Setting

/-- A setting with its new value. -/
inductive Change where
  | sections (order : List Section)
  | output (destination : Destination)
  | sectionOutput (part : Section) (output : SectionOutput)
  | switch (which : Switch) (value : Bool)
  | quantity (which : Quantity) (value : Nat)
  | mark (which : Mark) (text : String)
deriving Repr, DecidableEq

/-- The words for on and off, with what they mean. -/
def switchWords : List (String × Bool) :=
  [("on", true), ("true", true), ("yes", true), ("1", true),
   ("off", false), ("false", false), ("no", false), ("0", false)]

/-- Read a switch: blanks around the word and the case of its letters do not count. -/
def parseSwitch? (value : String) : Option Bool :=
  switchWords.lookup (Text.lower (Text.trim value))

/-- Read a count: blanks around it do not count. -/
def parseQuantity? (value : String) : Option Nat :=
  parseCount? (Text.trim value)

/-- Read the names of sections, or find the first word that is none. -/
def sectionsOfWords : List String → Except String (List Section)
  | [] => .ok []
  | word :: rest =>
      match Section.ofName? word with
      | none => .error word
      | some part => (sectionsOfWords rest).map (part :: ·)

/-- Keep the first occurrence of every element. -/
def firstOccurrences [DecidableEq α] : List α → List α
  | [] => []
  | item :: rest => item :: (firstOccurrences rest).filter fun other => other ≠ item

/-- Whether two texts differ at most in the case of their ASCII letters. -/
def equalIgnoringCase (left right : String) : Bool :=
  left.toList.map Char.toLower == right.toList.map Char.toLower

/-- Whether an order of sections asks for none at all. -/
def asksForNoSection (trimmed : String) : Bool :=
  trimmed == "" || equalIgnoringCase trimmed "none" || equalIgnoringCase trimmed "empty"

/-- Read an order of sections. -/
def parseSections (value : String) : Except String (List Section) :=
  let trimmed := Text.trim value
  if asksForNoSection trimmed then
    .ok []
  else
    (sectionsOfWords (Text.words trimmed)).map firstOccurrences

namespace Change

/-- Read a change of the order of sections, with the warnings that go with it. -/
def ofSections (value : String) : Noted (Except Failure Change) := do
  match parseSections value with
  | .ok order =>
      if asksForNoSection (Text.trim value) then Noted.note .sectionsHidden
      return .ok (.sections order)
  | .error word =>
      Noted.note (.sectionRefused word)
      Noted.note .sectionsHint
      return .error (.configuration "context-sections" ("invalid section " ++ word))

/-- A change to a value that was read, or the refusal of the value. -/
def ofValue? (name value : String) (change? : Option Change) : Noted (Except Failure Change) := do
  match change? with
  | some change => return .ok change
  | none =>
      Noted.note (.valueRefused name value)
      return .error (.configuration name ("invalid value " ++ Text.quoted value))

/-- Read a change of one setting. -/
def ofSetting (setting : Setting) (name value : String) : Noted (Except Failure Change) :=
  match setting with
  | .sections => ofSections value
  | .output => pure (.ok (.output (Destination.parse value)))
  | .sectionOutput part => pure (.ok (.sectionOutput part (SectionOutput.parse value)))
  | .switch which => ofValue? name value ((parseSwitch? value).map (.switch which))
  | .quantity which => ofValue? name value ((parseQuantity? value).map (.quantity which))
  | .mark which => pure (.ok (.mark which value))

/-- Read a change from a name and a value. -/
def ofText (name value : String) : Noted (Except Failure Change) := do
  Noted.note .settingGiven
  match Setting.ofName name with
  | .ok setting => ofSetting setting name value
  | .error failure => return .error failure

end Change

namespace Settings

/-- Put a switch. -/
def setSwitch (settings : Settings) (which : Switch) (value : Bool) : Settings :=
  match which with
  | .clearScreen => { settings with clearScreen := value }
  | .stackReverse => { settings with stackReverse := value }
  | .showFlags => { settings with showFlags := value }
  | .showReturnAddress => { settings with showReturnAddress := value }
  | .highlightSource => { settings with highlightSource := value }
  | .syntaxHighlight => { settings with syntaxHighlight := value }
  | .emulate => { settings with emulate := value }
  | .colour => { settings with colour := value }

/-- Put a count. -/
def setQuantity (settings : Settings) (which : Quantity) (value : Nat) : Settings :=
  match which with
  | .codeLines => { settings with codeLines := value }
  | .sourceLines => { settings with sourceLines := value }
  | .stackLines => { settings with stackLines := value }

/-- Put a text. -/
def setMark (settings : Settings) (which : Mark) (text : String) : Settings :=
  match which with
  | .code => { settings with codeMarker := text }
  | .backtrace => { settings with backtraceMarker := text }
  | .frameLabel => { settings with frameLabel := text }
  | .changed => { settings with changedMarker := text }

/-- Apply a change. -/
def apply (settings : Settings) : Change → Settings
  | .sections order => { settings with sections := order }
  | .output destination => { settings with output := destination }
  | .sectionOutput part output =>
      { settings with sectionOutputs := settings.sectionOutputs.set part output }
  | .switch which value => settings.setSwitch which value
  | .quantity which value => settings.setQuantity which value
  | .mark which text => settings.setMark which text

/-- The settings after a change that was read or refused. -/
def applyRead (settings : Settings) : Except Failure Change → Settings
  | .ok change => settings.apply change
  | .error _ => settings

end Settings

end StopView
