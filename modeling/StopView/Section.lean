import StopView.Text.Blank

/-!
# Sections

The view has six sections.  A request names a section by a token, of which only the
first character counts; the order of sections is set by their full names.
-/

namespace StopView

/-- The six parts of the view. -/
inductive Section where
  | registers
  | disasm
  | args
  | code
  | stack
  | backtrace
deriving Repr, DecidableEq

namespace Section

/-- Every section, in the order of their numbers. -/
def all : List Section :=
  [.registers, .disasm, .args, .code, .stack, .backtrace]

/-- A section's full name. -/
def name : Section → String
  | .registers => "regs"
  | .disasm => "disasm"
  | .args => "args"
  | .code => "code"
  | .stack => "stack"
  | .backtrace => "backtrace"

/-- A section's number. -/
def index : Section → Nat
  | .registers => 0
  | .disasm => 1
  | .args => 2
  | .code => 3
  | .stack => 4
  | .backtrace => 5

/-- The letter that asks for a section. -/
def letter : Section → Char
  | .registers => 'r'
  | .disasm => 'd'
  | .args => 'a'
  | .code => 'c'
  | .stack => 's'
  | .backtrace => 'b'

/-- The section that a letter asks for. -/
def ofLetter? (c : Char) : Option Section :=
  all.find? fun candidate => candidate.letter == c

/-- The section with a full name. -/
def ofName? (name : String) : Option Section :=
  all.find? fun candidate => candidate.name == name

/-- The full names in one line. -/
def namesText : String :=
  ", ".intercalate (all.map name)

/-- Every section is listed. -/
theorem mem_all (part : Section) : part ∈ all := by
  cases part <;> decide

@[simp]
theorem ofLetter?_letter (part : Section) : ofLetter? part.letter = some part := by
  cases part <;> decide

@[simp]
theorem ofName?_name (part : Section) : ofName? part.name = some part := by
  cases part <;> decide

theorem ofName?_eq_some_iff {text : String} {part : Section} :
    ofName? text = some part ↔ text = part.name := by
  constructor
  · intro found
    have accepted := List.find?_some found
    exact (beq_iff_eq.mp accepted).symm
  · rintro rfl
    exact ofName?_name part

end Section

/-- What a token asks for: a section, or a letter that no section answers to. -/
inductive SectionKey where
  | known (part : Section)
  | unknown (letter : Char)
deriving Repr, DecidableEq

namespace SectionKey

/-- The key for a letter. -/
def ofChar (c : Char) : SectionKey :=
  match Section.ofLetter? c with
  | some part => .known part
  | none => .unknown c

/-- The key for a token: its first character after leading blanks decides.  A blank
token asks for nothing. -/
def ofToken? (token : String) : Option SectionKey :=
  (Text.trimChars token.toList).head?.map ofChar

/-- A key as it is shown. -/
def text : SectionKey → String
  | .known part => part.name
  | .unknown letter => letter.toString

/-- The section that a key stands for. -/
def part? : SectionKey → Option Section
  | .known part => some part
  | .unknown _ => none

end SectionKey

end StopView
