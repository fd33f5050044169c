/-!
# Reading bytes as text

Bytes that form well-encoded text are that text.  Otherwise every longest stretch
of bytes that begins a character but does not complete one, and every byte that
begins none, is read as one replacement character.

The reader for ill-formed bytes takes one byte at a time and remembers the
character it is in.
-/

namespace StopView.Text

/-- The character that stands for bytes that encode nothing. -/
def replacement : Char :=
  '\ufffd'

/-- A character whose first bytes have been read: how many bytes it still needs,
the bounds of the next one, and the bits read so far. -/
structure Partial where
  needed : Nat
  low : UInt8
  high : UInt8
  bits : Nat
deriving Repr, DecidableEq

/-- Read a byte that begins a character.  The second byte's bounds exclude long
forms, surrogates and code points beyond the last. -/
def beginChar (byte : UInt8) : List Char × Option Partial :=
  if byte < 0x80 then ([Char.ofNat byte.toNat], none)
  else if 0xc2 ≤ byte ∧ byte ≤ 0xdf then ([], some ⟨1, 0x80, 0xbf, byte.toNat - 0xc0⟩)
  else if byte = 0xe0 then ([], some ⟨2, 0xa0, 0xbf, 0⟩)
  else if byte = 0xed then ([], some ⟨2, 0x80, 0x9f, 0xd⟩)
  else if 0xe1 ≤ byte ∧ byte ≤ 0xef then ([], some ⟨2, 0x80, 0xbf, byte.toNat - 0xe0⟩)
  else if byte = 0xf0 then ([], some ⟨3, 0x90, 0xbf, 0⟩)
  else if 0xf1 ≤ byte ∧ byte ≤ 0xf3 then ([], some ⟨3, 0x80, 0xbf, byte.toNat - 0xf0⟩)
  else if byte = 0xf4 then ([], some ⟨3, 0x80, 0x8f, 4⟩)
  else ([replacement], none)

/-- Read the next byte inside or outside a character. -/
def readByte (state : Option Partial) (byte : UInt8) : List Char × Option Partial :=
  match state with
  | none => beginChar byte
  | some part =>
      if part.low ≤ byte ∧ byte ≤ part.high then
        let bits := part.bits * 64 + (byte.toNat - 0x80)
        if part.needed ≤ 1 then
          ([Char.ofNat bits], none)
        else
          ([], some ⟨part.needed - 1, 0x80, 0xbf, bits⟩)
      else
        let (chars, next) := beginChar byte
        (replacement :: chars, next)

/-- Read the bytes that are left. -/
def readBytes : Option Partial → List UInt8 → List Char
  | none, [] => []
  | some _, [] => [replacement]
  | state, byte :: rest =>
      let (chars, next) := readByte state byte
      chars ++ readBytes next rest

/-- Bytes as text, with ill-formed stretches replaced. -/
def decodeLossy (bytes : ByteArray) : String :=
  match String.fromUTF8? bytes with
  | some text => text
  | none => String.ofList (readBytes none bytes.toList)

end StopView.Text
