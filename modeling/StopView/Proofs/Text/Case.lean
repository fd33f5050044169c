import StopView.Proofs.Text.Escape
import StopView.Proofs.Text.Words
import StopView.Settings.Change

/-!
# Lower-case words

Lower-casing follows the tables of all alphabets, and one letter beyond ASCII becomes an ASCII
letter there: the Kelvin sign becomes a small k.  Every other character beyond ASCII leaves one
behind.  A word of small ASCII letters without a k is therefore the lower-case form of its own
spellings in small and capital ASCII letters, and of no other text.
-/

namespace StopView.Text

/-! ## Characters -/

/-- Whether a character is one of the first 128. -/
def IsAscii (c : Char) : Prop :=
  c.toNat < 0x80

instance (c : Char) : Decidable (IsAscii c) :=
  inferInstanceAs (Decidable (c.toNat < 0x80))

/-- What holds of the characters with the first 128 numbers holds of ASCII. -/
theorem forall_of_isAscii {property : Char → Prop}
    (each : ∀ code : Fin 0x80, property (Char.ofNat code)) {c : Char} (ascii : IsAscii c) :
    property c := by
  have here := each ⟨c.toNat, ascii⟩
  rwa [Char.ofNat_toNat] at here

theorem toLower_of_not_isAscii {c : Char} (beyond : ¬IsAscii c) : c.toLower = c := by
  apply dif_neg
  intro capital
  apply beyond
  have last : c.toNat ≤ 'Z'.toNat := UInt32.le_iff_toNat_le.mp capital.2
  exact Nat.lt_of_le_of_lt last (by decide)

/-- In ASCII lower-casing changes the capital letters only. -/
theorem lowerCharBetween_of_isAscii {c : Char} (ascii : IsAscii c) (before after : List Char) :
    lowerCharBetween before c after = [c.toLower] := by
  have noSigma : c ≠ 'Σ' := by
    rintro rfl
    contradiction
  have each : ∀ code : Fin 0x80, lowerChar (Char.ofNat code) = [(Char.ofNat code).toLower] := by
    decide +kernel
  have alone : lowerChar c = [c.toLower] :=
    @forall_of_isAscii (fun c => lowerChar c = [c.toLower]) each c ascii
  rw [lowerCharBetween, if_neg noSigma, alone]

/-- A run that moves its letters to characters beyond ASCII. -/
def LeadsBeyond (run : CaseRun) : Prop :=
  0x80 ≤ run.target ∧
    (run.target + (run.last - run.first) < 0xd800 ∨
      0xdfff < run.target ∧ run.target + (run.last - run.first) < 0x110000)

instance (run : CaseRun) : Decidable (LeadsBeyond run) :=
  inferInstanceAs (Decidable (_ ∧ _))

theorem LeadsBeyond.not_isAscii {run : CaseRun} (leads : LeadsBeyond run) {code : Nat}
    (last : code ≤ run.last) : ¬IsAscii (Char.ofNat (run.move code)) := by
  obtain ⟨large, range⟩ := leads
  have valid : (run.move code).isValidChar := by
    rw [CaseRun.move, Nat.isValidChar]
    omega
  have moved : (Char.ofNat (run.move code)).toNat = run.move code := by
    rw [Char.ofNat, dif_pos valid]
    rfl
  rw [IsAscii, moved, CaseRun.move]
  omega

/-- Beyond ASCII, lower-casing leaves a character beyond ASCII, or a small k. -/
theorem exists_mem_lowerCharBetween {c : Char} (beyond : ¬IsAscii c) (before after : List Char) :
    ∃ d ∈ lowerCharBetween before c after, d = 'k' ∨ ¬IsAscii d := by
  have runs : ∀ run ∈ lowerRuns,
      run.last < 0x80 ∨ run = ⟨0x212a, 0x212a, 1, 'k'.toNat⟩ ∨ LeadsBeyond run := by
    decide +kernel
  have expansions : ∀ entry ∈ lowerExpansions,
      (entry.2.map Char.ofNat).any (fun d => d = 'k' ∨ ¬IsAscii d) = true := by
    decide
  rw [lowerCharBetween]
  split
  · split
    · exact ⟨'ς', List.mem_singleton_self _, .inr (by decide)⟩
    · exact ⟨'σ', List.mem_singleton_self _, .inr (by decide)⟩
  · rw [lowerChar]
    split
    · rename_i codes found
      obtain ⟨d, listed, kind⟩ :=
        List.any_eq_true.mp (expansions _ (mem_of_lookup_eq_some found))
      exact ⟨d, listed, of_decide_eq_true kind⟩
    · refine ⟨_, List.mem_singleton_self _, ?_⟩
      rw [moveBy]
      split
      · rename_i run found
        have covers := List.find?_some found
        simp only [CaseRun.covers, Bool.and_eq_true, decide_eq_true_eq] at covers
        obtain ⟨⟨first, last⟩, -⟩ := covers
        rcases runs run (List.mem_of_find?_eq_some found) with low | rfl | leads
        · exact absurd (Nat.lt_of_le_of_lt last low) beyond
        · have code : c.toNat = 0x212a := Nat.le_antisymm last first
          exact .inl (by rw [code]; rfl)
        · exact .inr (leads.not_isAscii last)
      · exact .inr beyond

/-! ## Words -/

/-- A word in small letters that no character beyond ASCII becomes a part of. -/
def IsSmallWord (word : String) : Prop :=
  ∀ c ∈ word.toList, IsAscii c ∧ c ≠ 'k' ∧ c.toLower = c

-- Found by itself, the instance would try all characters and not those of the word only.
instance (word : String) : Decidable (IsSmallWord word) :=
  List.decidableBAll (fun c => IsAscii c ∧ c ≠ 'k' ∧ c.toLower = c) word.toList

theorem lowerFrom_eq_iff {word : List Char} (plain : ∀ c ∈ word, IsAscii c ∧ c ≠ 'k')
    (before chars : List Char) :
    lowerFrom before chars = word ↔ chars.map Char.toLower = word := by
  induction chars generalizing before word with
  | nil => rfl
  | cons c rest ih =>
      by_cases ascii : IsAscii c
      · rw [lowerFrom, lowerCharBetween_of_isAscii ascii, List.map_cons, List.singleton_append]
        cases word with
        | nil => simp
        | cons d others =>
            have further := ih (fun c listed => plain c (List.mem_cons_of_mem d listed))
              (c :: before)
            rw [List.cons.injEq, List.cons.injEq, further]
      · -- Neither form of such a character can be in the word.
        constructor
        · intro lowered
          obtain ⟨d, listed, found⟩ := exists_mem_lowerCharBetween ascii before rest
          have inWord : d ∈ word := lowered ▸ List.mem_append_left _ listed
          rcases found with rfl | beyond
          · exact absurd rfl (plain _ inWord).2
          · exact absurd (plain d inWord).1 beyond
        · rintro rfl
          have inWord := (plain c.toLower List.mem_cons_self).1
          rw [toLower_of_not_isAscii ascii] at inWord
          exact absurd inWord ascii

variable {text word : String}

theorem IsSmallWord.map_toLower (small : IsSmallWord word) :
    word.toList.map Char.toLower = word.toList := by
  conv_rhs => rw [← List.map_id word.toList]
  exact List.map_congr_left fun c listed => (small c listed).2.2

/-- The texts with this lower-case form are the spellings of the word in ASCII letters. -/
theorem lower_eq_iff (small : IsSmallWord word) :
    lower text = word ↔ equalIgnoringCase text word = true := by
  have letters := lowerFrom_eq_iff (fun c listed => ⟨(small c listed).1, (small c listed).2.1⟩)
    [] text.toList
  rw [equalIgnoringCase, small.map_toLower, beq_iff_eq, ← letters, lower, ← String.toList_inj,
    String.toList_ofList]

theorem isAscii_of_equalIgnoringCase (small : IsSmallWord word)
    (same : equalIgnoringCase text word = true) : ∀ c ∈ text.toList, IsAscii c := by
  intro c listed
  rw [equalIgnoringCase, small.map_toLower, beq_iff_eq] at same
  have inWord : c.toLower ∈ word.toList := same ▸ List.mem_map_of_mem listed
  by_contra beyond
  rw [toLower_of_not_isAscii beyond] at inWord
  exact beyond (small c inWord).1

/-! ## Tables of words -/

theorem lookup_eq_some_iff_mem {α β : Type} [BEq α] [LawfulBEq α] {table : List (α × β)}
    (apart : (table.map Prod.fst).Nodup) {key : α} {value : β} :
    table.lookup key = some value ↔ (key, value) ∈ table := by
  constructor
  · exact mem_of_lookup_eq_some
  · intro listed
    induction table with
    | nil => cases listed
    | cons entry rest ih =>
        obtain ⟨fresh, restApart⟩ := List.nodup_cons.mp apart
        rcases List.mem_cons.mp listed with rfl | later
        · exact List.lookup_cons_self
        · have other : (key == entry.1) = false := by
            apply beq_false_of_ne
            rintro rfl
            exact fresh (List.mem_map.mpr ⟨_, later, rfl⟩)
          rw [List.lookup_cons, other]
          exact ih restApart later

/-- A table of words, each listed once and in small letters. -/
structure IsWordTable {α : Type} (table : List (String × α)) : Prop where
  apart : (table.map Prod.fst).Nodup
  small : ∀ entry ∈ table, IsSmallWord entry.1

/-- A text is found in lower case if it is a spelling of one of the words in ASCII letters. -/
theorem IsWordTable.lookup_lower_eq_some_iff {α : Type} {table : List (String × α)}
    (isTable : IsWordTable table) {value : α} :
    table.lookup (lower text) = some value ↔
      ∃ word, (word, value) ∈ table ∧ equalIgnoringCase text word = true := by
  rw [lookup_eq_some_iff_mem isTable.apart]
  constructor
  · intro listed
    exact ⟨lower text, listed, (lower_eq_iff (isTable.small _ listed)).mp rfl⟩
  · rintro ⟨word, listed, same⟩
    rwa [(lower_eq_iff (isTable.small _ listed)).mpr same]

theorem IsWordTable.lookup_lower_eq_none_iff {α : Type} {table : List (String × α)}
    (isTable : IsWordTable table) :
    table.lookup (lower text) = none ↔
      ∀ entry ∈ table, equalIgnoringCase text entry.1 = false := by
  rw [List.lookup_eq_none_iff]
  apply forall₂_congr
  intro entry listed
  rw [bne_iff_ne, ← Bool.not_eq_true, ← lower_eq_iff (isTable.small entry listed)]

end StopView.Text
