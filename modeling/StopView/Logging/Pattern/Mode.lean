import StopView.Text.Blank

/-!
# Modes and escapes of patterns

A pattern can switch on that case does not matter, that its characters are ASCII only, and
that blanks and remarks in it do not count.  A remark runs from a number sign to the end of
the line.

No tables of characters are at hand, so what needs one is refused: folding of case and the
kinds and borders of words, unless the pattern asks for ASCII only.
-/

namespace StopView.Pattern

/-- What a pattern has switched on or off: folding of case, characters beyond ASCII, and
blanks and remarks that do not count. -/
structure Mode where
  folding : Bool
  wide : Bool
  loose : Bool
deriving Repr, DecidableEq

namespace Mode

/-- The mode at the start of a pattern. -/
def initial : Mode :=
  ⟨false, true, false⟩

/-- The letters that switch something on or off. -/
def switches : List Char :=
  ['i', 'm', 's', 'U', 'u', 'R', 'x']

/-- The mode after a switch. -/
def switch (mode : Mode) (letter : Char) (on : Bool) : Mode :=
  if letter = 'i' then { mode with folding := on }
  else if letter = 'u' then { mode with wide := on }
  else if letter = 'x' then { mode with loose := on }
  else mode

end Mode

/-! ## Blanks and remarks -/

/-- What follows blanks and remarks. -/
def afterBlanks (inRemark : Bool) : List Char → List Char
  | [] => []
  | c :: rest =>
      if inRemark then afterBlanks (c != '\n') rest
      else if Text.isBlank c then afterBlanks false rest
      else if c = '#' then afterBlanks true rest
      else c :: rest

/-- The next character that is no blank.  Of a remark only its sign is passed over. -/
def nextMark? (inRemark : Bool) : List Char → Option Char
  | [] => none
  | c :: rest =>
      if Text.isBlank c then nextMark? inRemark rest
      else if !inRemark && c = '#' then nextMark? true rest
      else some c

namespace Mode

/-- What a pattern goes on with. -/
def skip (mode : Mode) (chars : List Char) : List Char :=
  if mode.loose then afterBlanks false chars else chars

/-- The next character that may count. -/
def peek? (mode : Mode) (chars : List Char) : Option Char :=
  if mode.loose then nextMark? false chars else chars.head?

end Mode

/-! ## Escapes -/

/-- What an escape stands for. -/
inductive Escape where
  | character (code : Nat)
  | byte (code : Nat)
  | kind (isNegated : Bool)
  | border
  | anchor
deriving Repr, DecidableEq

/-- The value of a hexadecimal digit of either case. -/
def hexValue? (c : Char) : Option Nat :=
  if c.isDigit then some (c.toNat - '0'.toNat)
  else if 'a' ≤ c && c ≤ 'f' then some (10 + (c.toNat - 'a'.toNat))
  else if 'A' ≤ c && c ≤ 'F' then some (10 + (c.toNat - 'A'.toNat))
  else none

/-- Read a number of hexadecimal digits, behind a value that has been read. -/
def hexDigits? (mode : Mode) : Nat → Nat → List Char → Option (Nat × List Char)
  | 0, value, chars => some (value, chars)
  | count + 1, value, chars =>
      match mode.skip chars with
      | [] => none
      | c :: rest => do
          let digit ← hexValue? c
          hexDigits? mode count (value * 16 + digit) rest

/-- Read the code of a character, written with a number of digits. -/
def codeEscape? (mode : Mode) (count : Nat) (chars : List Char) :
    Option (Escape × List Char) := do
  let (code, rest) ← hexDigits? mode count 0 chars
  if code.isValidChar then
    return (if count = 2 then .byte code else .character code, rest)
  else
    none

/-- The letters of escapes that stand for one control character. -/
def controlLetters : List (Char × Nat) :=
  [('a', 0x07), ('f', 0x0c), ('t', 0x09), ('n', 0x0a), ('r', 0x0d), ('v', 0x0b)]

/-- Read what follows a backslash. -/
def escape? (mode : Mode) : List Char → Option (Escape × List Char)
  | [] => none
  | c :: rest =>
      if c = 'x' then codeEscape? mode 2 rest
      else if c = 'u' then codeEscape? mode 4 rest
      else if c = 'U' then codeEscape? mode 8 rest
      else if c = 'd' || c = 's' || c = 'w' then some (.kind false, rest)
      else if c = 'D' || c = 'S' || c = 'W' then some (.kind true, rest)
      else if c = 'b' || c = 'B' || c = '<' || c = '>' then some (.border, rest)
      else if c = 'A' || c = 'z' then some (.anchor, rest)
      else
        match controlLetters.lookup c with
        | some code => some (.character code, rest)
        | none =>
            if c.toNat < 0x80 && !c.isAlphanum then some (.character c.toNat, rest) else none

/-- Whether a single character may stand in a pattern of a mode. -/
def Mode.allowsCharacter (mode : Mode) : Bool :=
  !(mode.folding && mode.wide)

/-- Whether an escape may stand in a pattern of a mode. -/
def Mode.allows (mode : Mode) : Escape → Bool
  | .character _ => mode.allowsCharacter
  | .byte code => mode.allowsCharacter && (mode.wide || decide (code < 0x80))
  | .kind isNegated => !mode.wide && !isNegated
  | .border => !mode.wide
  | .anchor => true

end StopView.Pattern
