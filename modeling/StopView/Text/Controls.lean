/-!
# Text without terminal controls

A terminal takes some characters as orders and does not show them: the control
characters, and the sequences that an escape character begins.  A sequence of one
letter ends with it; a control sequence runs up to its final letter; the text of a
window title runs up to a bell.  A device sequence has a head of numbers and marks, up to a
letter, and then an embedded text; other embedded texts have no head.  They run until the
next escape.

Of the control characters the tab, the ends of lines and pages, and the carriage
return are shown, as they lay out the text.  Within an embedded text or the head of one
nothing is shown.

Characters beyond ASCII are shown only outside of sequences.  Within one a terminal reads
their bytes, and one of these bytes ends an embedded text.
-/

namespace StopView.Text

/-- What a terminal is reading. -/
inductive ControlState where
  | shown
  | escape
  | intermediate
  | sequence
  | title
  | device
  | deviceNumbers
  | deviceMarks
  | embedded
deriving Repr, DecidableEq

/-- Whether a control character lays out text. -/
def isLayout (c : Char) : Bool :=
  c == '\t' || c == '\n' || c == '\x0c' || c == '\r'

/-- The byte that ends an embedded text. -/
def embeddedEnd : UInt8 := 0x9c

namespace ControlState

/-- What the letter behind an escape begins. -/
def afterEscape (c : Char) : ControlState :=
  if c = '[' then .sequence
  else if c = ']' then .title
  else if c = 'P' then .device
  else if c = 'X' || c = '^' || c = '_' then .embedded
  else if c.toNat < 0x30 then .intermediate
  else .shown

/-- Whether control characters that lay out text are shown in a state. -/
def showsLayout : ControlState → Bool
  | .shown | .escape | .intermediate | .sequence => true
  | .title | .device | .deviceNumbers | .deviceMarks | .embedded => false

/-- Whether a terminal shows a character that it reads in a state. -/
def shows (state : ControlState) (c : Char) : Bool :=
  if c.toNat < 0x20 then isLayout c && state.showsLayout
  else state == .shown && c != '\x7f'

/-- The state after a control character that is not shown. -/
def afterControl (state : ControlState) (c : Char) : ControlState :=
  if c = '\x1b' then .escape
  else if c = '\x18' || c = '\x1a' then .shown
  else if c = '\x07' && state == .title then .shown
  else state

/-- The state after a plain character that is not shown. -/
def afterPlain (state : ControlState) (c : Char) : ControlState :=
  match state with
  | .shown => .shown
  | .escape => afterEscape c
  | .intermediate => if c.toNat < 0x30 then .intermediate else .shown
  | .sequence => if c.toNat < 0x40 then .sequence else .shown
  | .title => .title
  | .device =>
      if c.toNat < 0x30 then .deviceMarks
      else if c.toNat < 0x40 then .deviceNumbers
      else .embedded
  | .deviceNumbers =>
      if c.toNat < 0x30 then .deviceMarks
      else if c.toNat < 0x3c then .deviceNumbers
      else .embedded
  | .deviceMarks => if c.toNat < 0x30 then .deviceMarks else .embedded
  | .embedded => .embedded

/-- The state after a character beyond ASCII that is not shown. -/
def afterWide (state : ControlState) (c : Char) : ControlState :=
  if state == .embedded && (String.utf8EncodeChar c).contains embeddedEnd then .shown else state

/-- The state after a character.  One that is shown ends whatever was being read. -/
def after (state : ControlState) (c : Char) : ControlState :=
  if state.shows c then .shown
  else if c.toNat < 0x20 then state.afterControl c
  else if c = '\x7f' then state
  else if c.toNat < 0x80 then state.afterPlain c
  else state.afterWide c

end ControlState

/-- The characters that a terminal shows when it reads on in a state. -/
def shownFrom (state : ControlState) : List Char → List Char
  | [] => []
  | c :: rest =>
      if state.shows c then c :: shownFrom .shown rest else shownFrom (state.after c) rest

/-- A text without terminal controls. -/
def withoutControls (text : String) : String :=
  String.ofList (shownFrom .shown text.toList)

/-- Text of printable ASCII characters stays as it is. -/
theorem shownFrom_of_printable {chars : List Char}
    (printable : ∀ c ∈ chars, 0x20 ≤ c.toNat ∧ c.toNat < 0x7f) :
    shownFrom .shown chars = chars := by
  induction chars with
  | nil => rfl
  | cons c rest ih =>
      obtain ⟨low, high⟩ := printable c List.mem_cons_self
      have shows : ControlState.shown.shows c = true := by
        have different : c ≠ '\x7f' := by
          rintro rfl
          exact absurd high (by decide)
        simp [ControlState.shows, different, Nat.not_lt.mpr low]
      rw [shownFrom, if_pos shows, ih fun d mem => printable d (List.mem_cons_of_mem c mem)]

end StopView.Text
