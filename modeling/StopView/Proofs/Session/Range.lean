import StopView.Proofs.Count
import StopView.Proofs.Register.Flags
import StopView.Proofs.Section.Colour
import StopView.Proofs.Session.Order
import StopView.Proofs.Settings.Held

/-!
# The range of machine words

A view computes with numbers that it did not choose: counts of lines from the settings, line
numbers and positions of bits from the inspector.  Here the three computations in question are
done in machine words, and checked: they fail when a sum or the amount of a shift leaves its range.
Where they do not fail they come to what the view shows.  A value for a count is read from any
machine word, so that the largest counts are accepted although the sums with them are too large.
-/

namespace StopView

/-! ## Checked computations -/

/-- The sum of two words, if it is one. -/
def addWords? (left right : UInt64) : Option UInt64 :=
  if left.toNat + right.toNat < wordBound then some (left + right) else none

/-- The difference of two words, or zero. -/
def subWords (left right : UInt64) : UInt64 :=
  if right ≤ left then left - right else 0

theorem exists_addWords? {left right : UInt64} {sum : Nat}
    (same : left.toNat + right.toNat = sum) (inside : sum < wordBound) :
    ∃ word, addWords? left right = some word ∧ word.toNat = sum := by
  subst same
  refine ⟨left + right, if_pos inside, ?_⟩
  rw [UInt64.toNat_add]
  exact Nat.mod_eq_of_lt inside

theorem addWords?_eq_none {left right : UInt64} {sum : Nat}
    (same : left.toNat + right.toNat = sum) (outside : ¬sum < wordBound) :
    addWords? left right = none := by
  subst same
  exact if_neg outside

theorem toNat_subWords (left right : UInt64) :
    (subWords left right).toNat = left.toNat - right.toNat := by
  rw [subWords]
  split
  · rename_i ordered
    exact UInt64.toNat_sub_of_le left right ordered
  · rename_i less
    rw [UInt64.le_iff_toNat_le] at less
    rw [UInt64.toNat_zero]
    omega

/-- Lines filled up to two more than a count of words. -/
def fillToWords? (count : UInt64) (lines : List String) : Option (List String) :=
  (addWords? count 2).map fun height => Scene.fillTo height.toNat lines

/-- The range of a window, computed in words. -/
def windowWords? (line total wanted : UInt64) : Option WindowBounds :=
  let current := subWords line 1
  let half := wanted / 2
  ((addWords? current half).bind fun last => addWords? last 1).map fun next =>
    let stop := min next total
    ⟨(min (subWords current half) stop).toNat, stop.toNat⟩

/-- The word with one bit, if there is such a bit. -/
def bitMask? (position : Nat) : Option UInt64 :=
  if position < 64 then some (bitMask position) else none

/-- One bit of a flag register, seen through its mask. -/
def flagTokenWords? (palette : Palette) (value : UInt64) (last : Option UInt64) (bit : FlagBit) :
    Option String :=
  (bitMask? bit.position).map fun mask =>
    let name :=
      if value &&& mask = 0 then palette.paint .flagUnset (Text.lower bit.name)
      else palette.paint .flagSet (Text.upper bit.name)
    match last with
    | some last => if last &&& mask ≠ value &&& mask then palette.paint .flagChanged name else name
    | none => name

/-- A flag register, seen through the masks of its bits. -/
def describeFlagsWords? (palette : Palette) (value : UInt64) (register : FlagRegister)
    (last : Option UInt64) : Option String :=
  let shown := palette.paint .flagValue (hex value.toNat)
  if register.bits.isEmpty then
    some shown
  else
    (register.bits.mapM (flagTokenWords? palette value last)).map fun names =>
      shown ++ " [ " ++ " ".intercalate names ++ " ]"

/-! ## What they come to -/

/-- A section gets its height, unless two more lines than were counted leave the range. -/
theorem fillToWords?_eq (count : UInt64) (lines : List String) :
    fillToWords? count lines =
      if count.toNat + 2 < wordBound then some (Scene.fillTo (count.toNat + 2) lines)
      else none := by
  have same : count.toNat + (2 : UInt64).toNat = count.toNat + 2 := rfl
  rw [fillToWords?]
  by_cases inside : count.toNat + 2 < wordBound
  · obtain ⟨height, sum, heightIs⟩ := exists_addWords? same inside
    rw [sum, if_pos inside, Option.map_some, heightIs]
  · rw [addWords?_eq_none same inside, if_neg inside]
    rfl

/-- A window gets its range, unless the line behind its last one leaves the range of words. -/
theorem windowWords?_eq (line total wanted : UInt64) :
    windowWords? line total wanted =
      if line.toNat - 1 + wanted.toNat / 2 + 1 < wordBound then
        some (windowBounds line.toNat total.toNat wanted.toNat)
      else none := by
  have current : (subWords line 1).toNat = line.toNat - 1 := toNat_subWords line 1
  have half : (wanted / 2).toNat = wanted.toNat / 2 := UInt64.toNat_div wanted 2
  have reach : (subWords line 1).toNat + (wanted / 2).toNat =
      line.toNat - 1 + wanted.toNat / 2 := by
    rw [current, half]
  rw [windowWords?]
  by_cases near : line.toNat - 1 + wanted.toNat / 2 < wordBound
  · obtain ⟨last, first, lastIs⟩ := exists_addWords? reach near
    have beyond : last.toNat + (1 : UInt64).toNat = line.toNat - 1 + wanted.toNat / 2 + 1 := by
      rw [lastIs]
      rfl
    rw [first, Option.bind_some]
    by_cases inside : line.toNat - 1 + wanted.toNat / 2 + 1 < wordBound
    · obtain ⟨next, second, nextIs⟩ := exists_addWords? beyond inside
      rw [second, if_pos inside, Option.map_some, windowBounds]
      simp only [UInt64.toNat_min, toNat_subWords, nextIs, current, half]
    · rw [addWords?_eq_none beyond inside, if_neg inside]
      rfl
  · rw [addWords?_eq_none reach near, if_neg fun inside => near (Nat.lt_of_succ_lt inside)]
    rfl

/-- Up to the middle of the range a line has a window, however many lines are wanted. -/
theorem lt_wordBound_of_line_le {line wanted : Nat} (low : line ≤ 2 ^ 63)
    (fits : wanted < wordBound) : line - 1 + wanted / 2 + 1 < wordBound := by
  rw [wordBound] at fits ⊢
  omega

theorem flagTokenWords?_eq (palette : Palette) (value : UInt64) (last : Option UInt64)
    (bit : FlagBit) :
    flagTokenWords? palette value last bit =
      if bit.position < 64 then some (flagToken palette value last bit) else none := by
  rw [flagTokenWords?, bitMask?]
  by_cases inside : bit.position < 64
  · have clear : value &&& bitMask bit.position = 0 ↔ ¬bitSet value bit.position = true := by
      rw [← and_bitMask_ne_zero_iff value inside, Ne, not_not]
    have flipped : ∀ before, before &&& bitMask bit.position ≠ value &&& bitMask bit.position ↔
        bitFlipped value (some before) bit.position = true := by
      intro before
      rw [Ne, and_bitMask_eq_iff before value inside, bitFlipped, bne_iff_ne]
    rw [if_pos inside, if_pos inside, Option.map_some, flagToken]
    simp only [clear, flipped, ite_not]
    cases last <;> rfl
  · rw [if_neg inside, if_neg inside]
    rfl

theorem mapM_ite_some {α β : Type} (holds : α → Prop) [DecidablePred holds] (f : α → β)
    (items : List α) :
    items.mapM (fun item => if holds item then some (f item) else none) =
      if ∀ item ∈ items, holds item then some (items.map f) else none := by
  induction items with
  | nil => rfl
  | cons item rest ih =>
      rw [List.mapM_cons, ih]
      by_cases first : holds item
      · by_cases others : ∀ other ∈ rest, holds other
        · rw [if_pos first, if_pos others, if_pos (List.forall_mem_cons.mpr ⟨first, others⟩)]
          rfl
        · rw [if_pos first, if_neg others,
            if_neg (mt List.forall_mem_cons.mp fun both => others both.2)]
          rfl
      · rw [if_neg first, if_neg (mt List.forall_mem_cons.mp fun both => first both.1)]
        rfl

/-- A flag register is shown as it is, unless a bit is none of a word. -/
theorem describeFlagsWords?_eq (palette : Palette) (value : UInt64) (register : FlagRegister)
    (last : Option UInt64) :
    describeFlagsWords? palette value register last =
      if ∀ bit ∈ register.bits, bit.position < 64 then
        some (describeFlags palette value register last)
      else none := by
  have each : flagTokenWords? palette value last = fun bit =>
      if bit.position < 64 then some (flagToken palette value last bit) else none :=
    funext (flagTokenWords?_eq palette value last)
  rw [describeFlagsWords?, describeFlags, each, mapM_ite_some]
  by_cases empty : register.bits.isEmpty
  · have none : register.bits = [] := List.isEmpty_iff.mp empty
    simp only [none, List.isEmpty_nil, if_true]
    exact (if_pos (List.forall_mem_nil _)).symm
  · simp only [if_neg empty]
    split <;> rfl

/-! ## Counts that are held -/

theorem Change.lt_wordBound_of_ofText {name value : String} {which : Quantity} {number : Nat}
    (read : (ofText name value).value = .ok (.quantity which number)) : number < wordBound := by
  obtain ⟨named, -⟩ := setting_of_ofText read
  rw [value_ofText_of_ok named, setting, ofSetting] at read
  obtain ⟨count, parsed, same⟩ := Option.map_eq_some_iff.mp (eq_of_ofValue? read)
  cases same
  exact lt_wordBound_of_parseCount? parsed

namespace Settings

/-- All counts are machine words. -/
def FitsWords (settings : Settings) : Prop :=
  ∀ which, settings.getQuantity which < wordBound

theorem fitsWords_initial : initial.FitsWords := by
  intro which
  cases which <;> decide

variable {settings : Settings} (fits : settings.FitsWords)

include fits

theorem FitsWords.applyRead {read : Except Failure Change}
    (small : ∀ which number, read = .ok (.quantity which number) → number < wordBound) :
    (settings.applyRead read).FitsWords := by
  cases read with
  | error cause => exact fits
  | ok change =>
      intro which
      have held := settings.held_apply change (.quantity which)
      split at held
      · rename_i same
        cases change with
        | quantity other number =>
            cases same
            have put := (Change.quantity.inj held).2
            exact put.trans_lt (small which number rfl)
        | _ => cases same
      · have kept := (Change.quantity.inj held).2
        exact kept.trans_lt (fits which)

theorem FitsWords.settingsAfter (operation : Operation) :
    (operation.settingsAfter settings).FitsWords := by
  cases operation with
  | set name value =>
      exact fits.applyRead fun which number read => Change.lt_wordBound_of_ofText read
  | setSections value =>
      apply fits.applyRead
      intro which number read
      cases (Change.setting_of_ofSections read).1
  | setOutput key output =>
      intro which
      have kept : (settings.setOutputFor key output).getQuantity which =
          settings.getQuantity which := by
        cases key <;> cases which <;> rfl
      exact kept.trans_lt (fits which)
  | _ => exact fits

end Settings

namespace Situation

variable (situation : Situation) (inspector : Inspector)

/-- All counts are machine words in every run. -/
theorem fitsWords_run (steps : List (Inspector × Operation))
    (fits : situation.session.settings.FitsWords) :
    (situation.run steps).value.1.session.settings.FitsWords := by
  apply run_keeps (fun situation => situation.session.settings.FitsWords) _ fits
  intro step _ situation fits
  rw [settings_perform]
  exact fits.settingsAfter step.2

theorem perform_set_quantity (which : Quantity) {number : Nat} (small : number < wordBound) :
    (situation.perform inspector (.set (Setting.quantity which).name (toString number))).value =
      (situation.withSettings (situation.session.settings.setQuantity which number), .done) := by
  have named : Setting.ofName (Setting.quantity which).name = .ok (.quantity which) :=
    Setting.ofName_eq_ok_iff.mpr rfl
  rw [perform_set, Change.value_ofText_of_ok named, Change.ofSetting,
    parseQuantity?_toString small]
  rfl

end Situation

/-! ## Views -/

/-- The instructions that an inspector has for the disassembly section, none if it fails. -/
def Inspector.listing (inspector : Inspector) (settings : Settings) : List String :=
  Scene.answeredLines (inspector.programCounter.bind fun pc =>
    inspector.disassemble pc (settings.codeLines / 2) settings.emulate)

namespace Session

theorem linesOf_rendered_disasm (session : Session) (inspector : Inspector) (files : FileSystem)
    {tokens : List String} (named : .disasm ∈ namedSections session.settings tokens) :
    linesOf (session.rendered inspector files tokens) .disasm =
      Scene.fillTo (session.settings.codeLines + 2)
        (session.palette.banner "disasm" :: inspector.listing session.settings) :=
  (session.linesOf_rendered inspector named).trans
    ((session.pollEvents inspector).value.session.scene inspector files).value_disasmLines

end Session

namespace Situation

/-- After every run the counts are machine words, and every machine word is accepted for each of
them.  What a view then computes with its counts, with line numbers and with the positions of bits
comes out right in machine words, or else fails.  The height of the disassembly section fails for
the two largest counts; the range of a window fails if the line behind its last one is no word,
which no line in the lower half of the range comes to; and a flag register fails if one of its bits
is none of a word. -/
theorem views_come_out_right_in_words_or_fail (situation : Situation)
    (fits : situation.session.settings.FitsWords) (steps : List (Inspector × Operation))
    (inspector : Inspector) :
    let reached := (situation.run steps).value.1
    let settings := reached.session.settings
    settings.FitsWords ∧
      (∀ which number, number < wordBound →
        (reached.perform inspector (.set (Setting.quantity which).name (toString number))).value =
          (reached.withSettings (settings.setQuantity which number), .done)) ∧
      (∀ files tokens, .disasm ∈ Session.namedSections settings tokens →
        let listing := inspector.listing settings
        let shown := Session.linesOf (reached.session.rendered inspector files tokens) .disasm
        shown.length = max (1 + listing.length) (settings.codeLines + 2) ∧
          fillToWords? (.ofNat settings.codeLines)
              (reached.session.palette.banner "disasm" :: listing) =
            if settings.codeLines + 2 < wordBound then some shown else none) ∧
      (∀ line total : UInt64,
        windowWords? line total (.ofNat settings.sourceLines) =
            (if line.toNat - 1 + settings.sourceLines / 2 + 1 < wordBound then
              some (windowBounds line.toNat total.toNat settings.sourceLines)
            else none) ∧
          (line.toNat ≤ 2 ^ 63 → line.toNat - 1 + settings.sourceLines / 2 + 1 < wordBound)) ∧
      ∀ (palette : Palette) (value : UInt64) (register : FlagRegister) (last : Option UInt64),
        describeFlagsWords? palette value register last =
          if ∀ bit ∈ register.bits, bit.position < 64 then
            some (describeFlags palette value register last)
          else none := by
  intro reached settings
  have words : settings.FitsWords := situation.fitsWords_run steps fits
  have code : (UInt64.ofNat settings.codeLines).toNat = settings.codeLines :=
    UInt64.toNat_ofNat_of_lt' (words .codeLines)
  have source : (UInt64.ofNat settings.sourceLines).toNat = settings.sourceLines :=
    UInt64.toNat_ofNat_of_lt' (words .sourceLines)
  refine ⟨words, ?_, ?_, ?_, describeFlagsWords?_eq⟩
  · intro which number small
    exact reached.perform_set_quantity inspector which small
  · intro files tokens named listing shown
    have filled : shown = Scene.fillTo (settings.codeLines + 2)
        (reached.session.palette.banner "disasm" :: listing) :=
      reached.session.linesOf_rendered_disasm inspector files named
    constructor
    · rw [filled, Scene.length_fillTo, List.length_cons, Nat.max_comm, Nat.add_comm 1]
    · rw [fillToWords?_eq, code, filled]
  · intro line total
    constructor
    · rw [windowWords?_eq, source]
    · exact fun low => lt_wordBound_of_line_le low (words .sourceLines)

/-- With the counts of the start one instruction is filled up to twelve lines.  With the largest
count for the source text the line in the middle of the range still has a window. -/
theorem counts_of_the_start_come_out_right :
    let situation : Situation := ⟨.fresh .initial plainHighlighter 80, ⟨.initial, .fresh, none⟩, 0⟩
    let script := { Script.blank with
      registers := [("rip", 0x1000)], disassembly := .lines ["nop"] }
    let steps := [(script.inspector, .set "context-source-code-lines" "18446744073709551615")]
    let reached := (situation.run steps).value.1.session
    let shown := Session.linesOf (reached.rendered script.inspector .initial ["d"]) .disasm
    situation.session.settings.FitsWords ∧
      .disasm ∈ Session.namedSections reached.settings ["d"] ∧
      shown.length = 12 ∧
      fillToWords? 10 [reached.palette.banner "disasm", "nop"] = some shown ∧
      reached.settings.sourceLines = 2 ^ 64 - 1 ∧
      windowWords? 0x8000000000000000 5 (.ofNat reached.settings.sourceLines) = some ⟨0, 5⟩ := by
  intro situation script steps reached shown
  have fits : situation.session.settings.FitsWords := Settings.fitsWords_initial
  have named : .disasm ∈ Session.namedSections reached.settings ["d"] := by decide
  have largest : reached.settings.sourceLines = 2 ^ 64 - 1 := by decide +kernel
  obtain ⟨-, -, disasm, windows, -⟩ :=
    situation.views_come_out_right_in_words_or_fail fits steps script.inspector
  obtain ⟨length, filled⟩ := disasm .initial ["d"] named
  obtain ⟨window, low⟩ := windows 0x8000000000000000 5
  have bounds : windowBounds (UInt64.toNat 0x8000000000000000) (UInt64.toNat 5)
      reached.settings.sourceLines = ⟨0, 5⟩ := by decide +kernel
  rw [if_pos (low (by decide)), bounds] at window
  exact ⟨fits, named, length, filled, largest, window⟩

/-- The largest counts are accepted, and leave the range: no height comes out, and behind the
middle of the range no window.  Nor does a bit behind the last one of a word. -/
theorem largest_counts_leave_the_range :
    let situation : Situation := ⟨.fresh .initial plainHighlighter 80, ⟨.initial, .fresh, none⟩, 0⟩
    let given := fun name =>
      (situation.perform Script.blank.inspector (.set name "18446744073709551615")).value
    let code := given "context-code-lines"
    let source := given "context-source-code-lines"
    code.2 = .done ∧ ¬code.1.session.settings.codeLines + 2 < 2 ^ 64 ∧
      fillToWords? (.ofNat code.1.session.settings.codeLines) [] = none ∧
      source.2 = .done ∧
      ¬(2 ^ 63 + 1 - 1) + source.1.session.settings.sourceLines / 2 + 1 < 2 ^ 64 ∧
      windowWords? 0x8000000000000001 0xffffffffffffffff
        (.ofNat source.1.session.settings.sourceLines) = none ∧
      describeFlagsWords? ⟨false, 80⟩ 1 ⟨"flags", [⟨"first", 0⟩, ⟨"beyond", 64⟩]⟩ none = none := by
  decide +kernel

end Situation

end StopView
