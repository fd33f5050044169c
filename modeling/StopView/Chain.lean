import StopView.Inspector
import StopView.Palette
import StopView.Symbol

/-!
# Pointer chains

A register value is followed through memory: the value, the word it points to, the
word that one points to, and so on.  The chain ends where memory cannot be read, after
a fixed number of steps, or at a word that it already holds; such a word is shown as a
reference back.
-/

namespace StopView

/-- The readable name of the symbol at an address.  An empty name is none. -/
def Inspector.symbolAt (inspector : Inspector) (address : Address) : Option String :=
  ((inspector.rawSymbol address).filter fun name => name ≠ "").map Symbol.display

/-- How many words are shown after the value itself. -/
def chainLimit : Nat := 5

/-- The words that follow a value, and the word at which the chain turns back. -/
structure ChainEnd where
  words : List UInt64
  back : Option UInt64
deriving Repr, DecidableEq

/-- Follow a word through memory, past the words already seen. -/
def followChain (read : UInt64 → Option UInt64) : Nat → List UInt64 → UInt64 → ChainEnd
  | 0, _, _ => ⟨[], none⟩
  | limit + 1, seen, word =>
      match read word with
      | none => ⟨[], none⟩
      | some next =>
          if next ∈ seen then
            ⟨[], some next⟩
          else
            let further := followChain read limit (next :: seen) next
            ⟨next :: further.words, further.back⟩

/-- A chain takes no more steps than it may. -/
theorem length_followChain_le (read : UInt64 → Option UInt64) (limit : Nat) (seen : List UInt64)
    (word : UInt64) : (followChain read limit seen word).words.length ≤ limit := by
  induction limit generalizing seen word with
  | zero => simp [followChain]
  | succ limit ih =>
      rw [followChain]
      split
      · simp
      · split
        · simp
        · simpa using ih _ _

/-- One word of a chain, with its symbol. -/
def describeWord (inspector : Inspector) (palette : Palette) (word : UInt64) : String :=
  let shown := palette.paint .pointer (hex word.toNat)
  match inspector.symbolAt ⟨word⟩ with
  | some symbol => shown ++ " (" ++ palette.paint .symbol symbol ++ ")"
  | none => shown

/-- The reader of an inspector's memory. -/
def Inspector.wordAt? (inspector : Inspector) (word : UInt64) : Option UInt64 :=
  (inspector.readWord ⟨word⟩).toOption

/-- A register value with the chain that it starts. -/
def describeChain (inspector : Inspector) (palette : Palette) (value : UInt64) : String :=
  let chain := followChain inspector.wordAt? chainLimit [value] value
  let words := (value :: chain.words).map (describeWord inspector palette)
  let back :=
    match chain.back with
    | some word => " ◂— " ++ palette.paint .pointer (hex word.toNat)
    | none => ""
  " —▸ ".intercalate words ++ back

end StopView
