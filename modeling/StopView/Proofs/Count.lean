import StopView.Proofs.Text.Case
import StopView.Proofs.Text.Trim
import StopView.Settings.Change

/-!
# Counts in decimal digits

Every number below the bound of machine words can be given as a count: it is read from its
decimal digits.
-/

namespace StopView

/-! ## Digits -/

/-- Digits are appended to a number as they are read in base ten. -/
theorem foldl_appendDigit {digits : List Char} (plain : ∀ c ∈ digits, c.isDigit = true)
    (value : Nat) :
    digits.foldl appendDigit (some value) = some (Nat.ofDigitChars 10 digits value) := by
  induction digits generalizing value with
  | nil => rfl
  | cons c rest ih =>
      obtain ⟨first, others⟩ := List.forall_mem_cons.mp plain
      rw [List.foldl_cons, appendDigit, if_pos first, ih others, Nat.ofDigitChars_cons,
        Nat.mul_comm]

theorem isDigit_of_mem_toDigits {number : Nat} : ∀ c ∈ Nat.toDigits 10 number, c.isDigit = true :=
  fun _ => Nat.isDigit_of_mem_toDigits (by decide) (by decide)

theorem digitsValue?_toDigits (number : Nat) :
    digitsValue? (Nat.toDigits 10 number) = some number := by
  have filled : ¬(Nat.toDigits 10 number).isEmpty = true :=
    mt List.isEmpty_iff.mp Nat.toDigits_ne_nil
  rw [digitsValue?, if_neg filled, foldl_appendDigit isDigit_of_mem_toDigits,
    Nat.ofDigitChars_ten_toDigits]

theorem parseCount?_toString {number : Nat} (small : number < wordBound) :
    parseCount? (toString number) = some number := by
  have read := digitsValue?_toDigits number
  have noSign : '+' ∉ Nat.toDigits 10 number := by
    intro listed
    have digit := isDigit_of_mem_toDigits _ listed
    contradiction
  rw [parseCount?, Nat.toString_eq_ofList_toDigits, String.toList_ofList]
  split
  · rename_i rest shape
    rw [shape] at noSign
    exact absurd List.mem_cons_self noSign
  · rw [read, Option.filter_some, if_pos (decide_eq_true small)]

/-! ## Counts as values of settings -/

theorem Text.isBlank_of_isDigit {c : Char} (digit : c.isDigit = true) : isBlank c = false := by
  have each : ∀ code : Fin 0x80, (Char.ofNat code).isDigit = true →
      isBlank (Char.ofNat code) = false := by
    decide
  have ascii : IsAscii c := by
    simp only [Char.isDigit, Bool.and_eq_true, decide_eq_true_eq] at digit
    have last : c.toNat ≤ '9'.toNat := UInt32.le_iff_toNat_le.mp digit.2
    exact Nat.lt_of_le_of_lt last (by decide)
  exact @forall_of_isAscii (fun c => c.isDigit = true → isBlank c = false) each c ascii digit

/-- Every count can be given as a value. -/
theorem parseQuantity?_toString {number : Nat} (small : number < wordBound) :
    parseQuantity? (toString number) = some number := by
  have solid : ∀ c ∈ (toString number).toList, Text.isBlank c = false := by
    rw [Nat.toString_eq_ofList_toDigits, String.toList_ofList]
    exact fun c listed => Text.isBlank_of_isDigit (isDigit_of_mem_toDigits c listed)
  rw [parseQuantity?, Text.trim_of_solid solid, parseCount?_toString small]

end StopView
