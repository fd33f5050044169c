import Mathlib.Data.Nat.Bitwise
import StopView.Inspector.Script
import StopView.Proofs.Register.Lines

/-!
# Flag bits and markers

A line tells twice whether a flag register has changed: in front by its marker, which compares
whole words, and behind bit by bit.  Both compare the same two words, the one in the snapshot
before the view and the one that is read for it.  So the bits that are shown as flipped are those
of the register among the bits of the exclusive or of these words; there are none on a line
without the marker; and if there are none on a line with it, the words differ in other bits only.
-/

namespace StopView

/-! ## Bits of words -/

/-- The word in which only one bit is set. -/
def bitMask (position : Nat) : UInt64 :=
  1 <<< UInt64.ofNat position

theorem toNat_bitMask {position : Nat} (inside : position < 64) :
    (bitMask position).toNat = 2 ^ position := by
  have small : 2 ^ position < 2 ^ 64 := Nat.pow_lt_pow_right (by decide) inside
  have amount : (UInt64.ofNat position).toNat % 64 = position := by
    rw [UInt64.toNat_ofNat']
    omega
  rw [bitMask, UInt64.toNat_shiftLeft, amount, UInt64.toNat_one, Nat.one_shiftLeft,
    Nat.mod_eq_of_lt small]

theorem and_bitMask_eq_iff (left right : UInt64) {position : Nat} (inside : position < 64) :
    left &&& bitMask position = right &&& bitMask position ↔
      bitSet left position = bitSet right position := by
  have filled : 2 ^ position ≠ 0 := (Nat.two_pow_pos position).ne'
  rw [← UInt64.toNat_inj, UInt64.toNat_and, UInt64.toNat_and, toNat_bitMask inside,
    Nat.and_two_pow, Nat.and_two_pow, bitSet, bitSet]
  cases left.toNat.testBit position <;> cases right.toNat.testBit position <;>
    simp [filled.symm]

theorem and_bitMask_ne_zero_iff (word : UInt64) {position : Nat} (inside : position < 64) :
    word &&& bitMask position ≠ 0 ↔ bitSet word position = true := by
  have none : (0 : UInt64) = 0 &&& bitMask position := UInt64.zero_and.symm
  have clear : bitSet 0 position = false := Nat.zero_testBit position
  rw [none, Ne, and_bitMask_eq_iff word 0 inside, clear, Bool.not_eq_false]

theorem xor_and_bitMask_ne_zero_iff (left right : UInt64) {position : Nat}
    (inside : position < 64) :
    (left ^^^ right) &&& bitMask position ≠ 0 ↔
      left &&& bitMask position ≠ right &&& bitMask position := by
  have bits : bitSet (left ^^^ right) position =
      (bitSet left position != bitSet right position) := by
    rw [bitSet, UInt64.toNat_xor, Nat.testBit_xor, bitSet, bitSet]
  rw [and_bitMask_ne_zero_iff _ inside, bits, bne_iff_ne, Ne, Ne,
    and_bitMask_eq_iff left right inside]

/-- Words that differ do so in one of their bits. -/
theorem exists_and_bitMask_ne {left right : UInt64} (differ : left ≠ right) :
    ∃ position < 64, left &&& bitMask position ≠ right &&& bitMask position := by
  by_contra same
  push Not at same
  apply differ
  apply UInt64.toNat_inj.mp
  apply Nat.eq_of_testBit_eq
  intro position
  by_cases inside : position < 64
  · exact (and_bitMask_eq_iff left right inside).mp (same position inside)
  · have beyond : ∀ word : UInt64, word.toNat.testBit position = false := fun word =>
      Nat.testBit_lt_two_pow (Nat.lt_of_lt_of_le word.toNat_lt
        (Nat.pow_le_pow_right (by decide) (Nat.le_of_not_lt inside)))
    rw [beyond, beyond]

/-! ## Bits in a line -/

/-- A bit of a flag register as a line shows it: set or clear, and flipped or not. -/
structure ShownBit where
  bit : FlagBit
  set : Bool
  flipped : Bool

/-- The text of a bit: its name in upper case if it is set and in lower case if it is clear, and
in the style of flipped bits if it is one. -/
def ShownBit.text (palette : Palette) (shown : ShownBit) : String :=
  let name :=
    if shown.set then palette.paint .flagSet (Text.upper shown.bit.name)
    else palette.paint .flagUnset (Text.lower shown.bit.name)
  if shown.flipped then palette.paint .flagChanged name else name

/-- The text of a flag register: its value, and its bits in brackets if it has any. -/
def flagsText (palette : Palette) (now : UInt64) (shown : List ShownBit) : String :=
  palette.paint .flagValue (hex now.toNat) ++
    if shown = [] then "" else " [ " ++ " ".intercalate (shown.map (ShownBit.text palette)) ++ " ]"

/-- The bits of a register, in its order, are shown as they are now, and as flipped if they were
the other way before. -/
structure TellsBits (register : FlagRegister) (before : Option UInt64) (now : UInt64)
    (shown : List ShownBit) : Prop where
  order : shown.map ShownBit.bit = register.bits
  set_iff : ∀ item ∈ shown, item.set = true ↔ now &&& bitMask item.bit.position ≠ 0
  flipped_iff : ∀ item ∈ shown, item.flipped = true ↔
    ∃ word, before = some word ∧
      word &&& bitMask item.bit.position ≠ now &&& bitMask item.bit.position

theorem Palette.toList_paint {palette : Palette} (colour : palette.colour = true) (role : Role)
    (text : String) :
    (palette.paint role text).toList =
      role.style.opening.toList ++ (text.toList ++ role.style.closing.toList) := by
  rw [paint, if_pos colour, Style.apply, String.toList_append, String.toList_append,
    List.append_assoc]

/-- In colour, bits that are shown as flipped are underlined first of all, and no others are. -/
theorem ShownBit.underlined_iff {palette : Palette} (colour : palette.colour = true)
    (shown : ShownBit) :
    (graphicCode "4").toList <+: (shown.text palette).toList ↔ shown.flipped = true := by
  rcases shown with ⟨bit, set, flipped⟩
  cases flipped with
  | true =>
      have opening : Role.flagChanged.style.opening = graphicCode "4" := by decide
      rw [text, if_pos rfl, Palette.toList_paint colour, opening]
      exact iff_of_true (List.prefix_append _ _) rfl
  | false =>
      -- Bits that are set and those that are clear have colours of their own, which open otherwise.
      have coloured : ∀ role : Role, role = .flagSet ∨ role = .flagUnset →
          ∃ rest, role.style.opening.toList = '\x1b' :: '[' :: '3' :: rest := by
        rintro role (rfl | rfl)
        · exact ⟨"8;5;10m\x1b[1m".toList, by decide⟩
        · exact ⟨"8;5;8m".toList, by decide⟩
      have begins : ∃ (role : Role) (rest : List Char), (role = .flagSet ∨ role = .flagUnset) ∧
          (text palette ⟨bit, set, false⟩).toList = role.style.opening.toList ++ rest := by
        cases set with
        | true => exact ⟨.flagSet, _, .inl rfl, Palette.toList_paint colour _ _⟩
        | false => exact ⟨.flagUnset, _, .inr rfl, Palette.toList_paint colour _ _⟩
      obtain ⟨role, rest, either, shape⟩ := begins
      obtain ⟨further, opening⟩ := coloured role either
      have code : (graphicCode "4").toList = ['\x1b', '[', '4', 'm'] := by decide
      rw [shape, opening, code]
      simp

/-- How the bits of a register are shown. -/
def shownBits (register : FlagRegister) (before : Option UInt64) (now : UInt64) :
    List ShownBit :=
  register.bits.map fun bit =>
    ⟨bit, bitSet now bit.position, bitFlipped now before bit.position⟩

theorem describeFlags_eq_flagsText (palette : Palette) (now : UInt64) (register : FlagRegister)
    (before : Option UInt64) :
    describeFlags palette now register before =
      flagsText palette now (shownBits register before now) := by
  have tokens : (shownBits register before now).map (ShownBit.text palette) =
      register.bits.map (flagToken palette now before) := List.map_map
  have empty : shownBits register before now = [] ↔ register.bits = [] := List.map_eq_nil_iff
  rw [describeFlags, flagsText, tokens]
  by_cases none : register.bits = []
  · rw [if_pos (empty.mpr none), if_pos (List.isEmpty_iff.mpr none), String.append_empty]
  · rw [if_neg (mt empty.mp none), if_neg (mt List.isEmpty_iff.mp none)]
    simp only [String.append_assoc]

theorem tellsBits_shownBits {register : FlagRegister} (before : Option UInt64) (now : UInt64)
    (inside : ∀ bit ∈ register.bits, bit.position < 64) :
    TellsBits register before now (shownBits register before now) where
  order := by simp [shownBits, Function.comp_def]
  set_iff := by
    intro item listed
    obtain ⟨bit, bitMem, rfl⟩ := List.mem_map.mp listed
    exact (and_bitMask_ne_zero_iff now (inside bit bitMem)).symm
  flipped_iff := by
    intro item listed
    obtain ⟨bit, bitMem, rfl⟩ := List.mem_map.mp listed
    cases before with
    | none => simp [bitFlipped]
    | some word =>
        have differ := and_bitMask_eq_iff word now (inside bit bitMem)
        simp [bitFlipped, differ]

namespace TellsBits

variable {register : FlagRegister} {word now : UInt64} {shown : List ShownBit}

theorem not_flipped {before : Option UInt64} (tells : TellsBits register before now shown)
    (same : ¬∃ word, before = some word ∧ word ≠ now) :
    ∀ item ∈ shown, item.flipped = false := by
  intro item listed
  rw [← Bool.not_eq_true, tells.flipped_iff item listed]
  rintro ⟨word, held, differ⟩
  exact same ⟨word, held, fun equal => differ (by rw [equal])⟩

/-- The flipped bits are the listed ones among those of the exclusive or. -/
theorem map_bit_filter_flipped (tells : TellsBits register (some word) now shown)
    (inside : ∀ bit ∈ register.bits, bit.position < 64) :
    (shown.filter ShownBit.flipped).map ShownBit.bit =
      register.bits.filter fun bit => (word ^^^ now) &&& bitMask bit.position ≠ 0 := by
  rw [← tells.order, List.filter_map]
  congr 1
  apply List.filter_congr
  intro item listed
  have bitMem : item.bit ∈ register.bits := tells.order ▸ List.mem_map_of_mem listed
  have flipped := tells.flipped_iff item listed
  have differ := xor_and_bitMask_ne_zero_iff word now (inside item.bit bitMem)
  rw [Bool.eq_iff_iff, flipped]
  simp [differ]

/-- Without flipped bits the words differ in bits that are not listed. -/
theorem not_mem_of_not_flipped (tells : TellsBits register (some word) now shown)
    (none : ∀ item ∈ shown, item.flipped = false) {position : Nat}
    (differ : word &&& bitMask position ≠ now &&& bitMask position) :
    position ∉ register.bits.map FlagBit.position := by
  intro listed
  rw [← tells.order, List.map_map] at listed
  obtain ⟨item, itemMem, rfl⟩ := List.mem_map.mp listed
  have flipped := (tells.flipped_iff item itemMem).mpr ⟨word, rfl, differ⟩
  rw [none item itemMem] at flipped
  contradiction

end TellsBits

theorem Inspector.registerLine_of_flagRegister? (inspector : Inspector) (settings : Settings)
    (palette : Palette) (previous : Snapshot) {name : String} {register : FlagRegister}
    (first : inspector.flagRegister? name = some register) (now : UInt64) :
    registerLine inspector settings palette previous inspector.snapshot name now =
      changeMarker settings palette (inspector.snapshot.changed previous name) ++
        palette.paint .register (Text.padRight 4 (Text.upper name)) ++ " " ++
        flagsText palette now (shownBits register (previous.get? name) now) := by
  rw [flagRegister?] at first
  rw [registerLine, describeRegister, first, ← describeFlags_eq_flagsText]

/-! ## The main result -/

namespace Session

/-- Every register view has a line for each register that it shows, and compares it with the
snapshot that the session holds before the view; the view puts a new snapshot in its place.  The
line of a flag register, the first that the inspector lists under the name, has the bits of this
register in its order, set or clear as in the word that was read, and flipped if the snapshot
holds the register and its word has the bit the other way.  So the flipped bits are those listed
of the exclusive or of the two words.  The line has the marker exactly if the words differ; if it
has none, no bit is flipped, and if it has it and no bit is flipped, the words differ in bits that
are not listed, and only in these. -/
theorem flag_bits_agree_with_words_and_markers (session : Session) (inspector : Inspector) :
    let settings := session.settings
    let palette := session.palette
    let stored := session.memory.snapshot.get?
    let lineOf := fun item : String × UInt64 =>
      registerLine inspector settings palette session.memory.snapshot inspector.snapshot item.1
        item.2
    (∀ asked,
      let view := (session.renderRegisters inspector asked).value
      view.result = (inspector.shownRegisters settings asked).map lineOf ∧
        view.session.memory.snapshot = inspector.snapshot) ∧
    (∀ files tokens, .registers ∈ namedSections settings tokens →
      linesOf (session.rendered inspector files tokens) .registers =
        palette.banner "registers" :: (inspector.shownRegisters settings none).map lineOf) ∧
    ∀ name now register, inspector.seen? name = some now →
      inspector.flagRegister? name = some register →
      (∀ bit ∈ register.bits, bit.position < 64) →
      ∃ (marker : String) (shown : List ShownBit),
        lineOf (name, now) =
          marker ++ palette.paint .register (Text.padRight 4 (Text.upper name)) ++ " " ++
            flagsText palette now shown ∧
        TellsBits register (stored name) now shown ∧
        (palette.colour = true → ∀ item ∈ shown,
          (graphicCode "4").toList <+: (item.text palette).toList ↔ item.flipped = true) ∧
        ((∃ before, stored name = some before ∧ before ≠ now) →
          marker = palette.paint .registerChanged settings.changedMarker) ∧
        ((¬∃ before, stored name = some before ∧ before ≠ now) →
          marker = String.ofList (List.replicate settings.changedMarker.length ' ') ∧
            ∀ item ∈ shown, item.flipped = false) ∧
        ∀ before, stored name = some before →
          ((shown.filter ShownBit.flipped).map ShownBit.bit =
            register.bits.filter fun bit =>
              (before ^^^ now) &&& bitMask bit.position ≠ 0) ∧
          (before ≠ now → (∀ item ∈ shown, item.flipped = false) →
            (∃ position < 64, (before ^^^ now) &&& bitMask position ≠ 0) ∧
            ∀ position < 64, (before ^^^ now) &&& bitMask position ≠ 0 →
              position ∉ register.bits.map FlagBit.position) := by
  intro settings palette stored lineOf
  have views : ∀ asked, (StopView.renderRegisters inspector settings palette
      session.memory.snapshot asked).value =
        (inspector.shownRegisters settings asked).map lineOf := by
    intro asked
    rw [inspector.value_renderRegisters]
    apply List.map_congr_left
    rintro ⟨name, value⟩ -
    exact (inspector.registerLine_eq_append settings palette session.memory.snapshot name
      value).symm
  constructor
  · exact fun asked => ⟨views asked, rfl⟩
  constructor
  · intro files tokens named
    rw [session.linesOf_rendered_registers inspector named, ← views]
  · intro name now register seen first inside
    have changed : inspector.snapshot.changed session.memory.snapshot name = true ↔
        ∃ before, stored name = some before ∧ before ≠ now := by
      rw [inspector.changed_snapshot_iff, seen]
      constructor
      · rintro ⟨word, before, same, held, differ⟩
        obtain rfl := Option.some.inj same
        exact ⟨before, held, differ.symm⟩
      · rintro ⟨before, held, differ⟩
        exact ⟨now, before, rfl, held, differ.symm⟩
    have tells := tellsBits_shownBits (stored name) now inside
    refine ⟨changeMarker settings palette
      (inspector.snapshot.changed session.memory.snapshot name),
      shownBits register (stored name) now, ?_, tells, ?_, ?_, ?_, ?_⟩
    · exact inspector.registerLine_of_flagRegister? settings palette session.memory.snapshot
        first now
    · exact fun colour item _ => item.underlined_iff colour
    · intro differ
      rw [changeMarker, if_pos (changed.mpr differ)]
    · intro same
      constructor
      · rw [changeMarker, if_neg (mt changed.mp same)]
        rfl
      · exact tells.not_flipped same
    · intro before held
      rw [held] at tells
      rw [held]
      constructor
      · exact tells.map_bit_filter_flipped inside
      · intro differ none
        constructor
        · obtain ⟨position, small, apart⟩ := exists_and_bitMask_ne differ
          exact ⟨position, small, (xor_and_bitMask_ne_zero_iff before now small).mpr apart⟩
        · intro position small apart
          exact tells.not_mem_of_not_flipped none
            ((xor_and_bitMask_ne_zero_iff before now small).mp apart)

/-- Between two views the carry flag comes on, and with it a bit that has no name.  The line has
the marker, and shows one flipped bit.  When the bit without a name goes off again, the line has
the marker and shows none. -/
theorem carry_flag_is_shown_as_flipped :
    let stopped := fun word : UInt64 =>
      { Script.blank with registers := [("eflags", word)] }.inspector
    let settings := { Settings.initial with colour := false, showFlags := true }
    let flags : FlagRegister := ⟨"eflags", [⟨"cf", 0⟩, ⟨"pf", 2⟩, ⟨"af", 4⟩, ⟨"zf", 6⟩, ⟨"sf", 7⟩,
      ⟨"if", 9⟩, ⟨"df", 10⟩, ⟨"of", 11⟩]⟩
    let view := fun (session : Session) word => (session.renderRegisters (stopped word) none).value
    let first := view (fresh settings plainHighlighter 12) 0x40
    let second := view first.session 0x43
    let third := view second.session 0x41
    first.result = [" EFLAGS 0x40 [ cf pf af ZF sf if df of ]"] ∧
      second.result = ["*EFLAGS 0x43 [ CF pf af ZF sf if df of ]"] ∧
      third.result = ["*EFLAGS 0x41 [ CF pf af ZF sf if df of ]"] ∧
      (∃ shown, TellsBits flags (some 0x40) 0x43 shown ∧
        (shown.filter ShownBit.flipped).map ShownBit.bit = [⟨"cf", 0⟩]) ∧
      ∃ shown, TellsBits flags (some 0x43) 0x41 shown ∧
        (shown.filter ShownBit.flipped).map ShownBit.bit = [] := by
  intro stopped settings flags view first second third
  have inside : ∀ bit ∈ flags.bits, bit.position < 64 := by decide
  have flips : ∀ (session : Session) (before now : UInt64),
      session.memory.snapshot.get? "eflags" = some before →
      (stopped now).seen? "eflags" = some now →
      (stopped now).flagRegister? "eflags" = some flags →
      ∃ shown, TellsBits flags (some before) now shown ∧
        (shown.filter ShownBit.flipped).map ShownBit.bit =
          flags.bits.filter fun bit => (before ^^^ now) &&& bitMask bit.position ≠ 0 := by
    intro session before now held seen listed
    obtain ⟨-, -, lines⟩ := session.flag_bits_agree_with_words_and_markers (stopped now)
    obtain ⟨-, shown, -, tells, -, -, -, agree⟩ :=
      lines "eflags" now flags seen listed inside
    rw [held] at tells
    exact ⟨shown, tells, (agree before held).1⟩
  constructor
  · decide +kernel
  constructor
  · decide +kernel
  constructor
  · decide +kernel
  constructor
  · obtain ⟨shown, tells, flipped⟩ := flips first.session 0x40 0x43 (by decide +kernel)
      (by decide +kernel) (by decide +kernel)
    exact ⟨shown, tells, flipped.trans (by decide +kernel)⟩
  · obtain ⟨shown, tells, flipped⟩ := flips second.session 0x43 0x41 (by decide +kernel)
      (by decide +kernel) (by decide +kernel)
    exact ⟨shown, tells, flipped.trans (by decide +kernel)⟩

end Session

end StopView
