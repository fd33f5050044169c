import StopView.Proofs.Symbol.Display
import StopView.Proofs.Text.Styles
import StopView.Section.Block

/-!
# Painted lines

The lines of registers, frames and source text are put together of painted parts.  Columns
are filled up before they are painted, so that the parts are as wide with colour as without,
and a part that is painted twice is painted as a whole the second time.  Without the styles
the lines are the ones that are put together without colour.

The texts that the lines are made of are taken to have no escapes.  Source text may have some;
the lines without colour then have these and no others.
-/

namespace StopView

open Text

/-! ## Texts without escapes -/

/-- The marks in the settings have no escapes. -/
structure Settings.EscapeFree (settings : Settings) : Prop where
  codeMarker : Text.EscapeFree settings.codeMarker
  backtraceMarker : Text.EscapeFree settings.backtraceMarker
  frameLabel : Text.EscapeFree settings.frameLabel
  changedMarker : Text.EscapeFree settings.changedMarker

/-- The texts that an inspector answers with have no escapes. -/
structure Inspector.EscapeFree (inspector : Inspector) : Prop where
  registers : ∀ name ∈ inspector.knownRegisters, Text.EscapeFree name
  flags : ∀ register ∈ inspector.flagRegisters, ∀ bit ∈ register.bits, Text.EscapeFree bit.name
  symbols : ∀ address name, inspector.rawSymbol address = some name → Text.EscapeFree name
  sources : ∀ frame location, inspector.sourceLocation frame = some location →
    Text.EscapeFree location.file
  disassembly : ∀ pc count emulate lines, inspector.disassemble pc count emulate = .ok lines →
    ∀ line ∈ lines, Text.EscapeFree line
  arguments : ∀ pc lines, inspector.callArguments pc = .ok lines →
    ∀ line ∈ lines, Text.EscapeFree line
  stack : ∀ top count lines, inspector.stackWindow top count = .ok lines →
    ∀ line ∈ lines, Text.EscapeFree line
  pseudocode : ∀ decompile, inspector.decompiler = some decompile →
    ∀ pc count code, decompile pc count = .ok (some code) → Text.EscapeFree code

/-! ## Banners -/

section Painted

variable {width : Nat}

/-- A text without escapes that is painted. -/
theorem styled_paint {text : String} (free : EscapeFree text) (role : Role) :
    Styled ((Palette.mk true width).paint role text) ((Palette.mk false width).paint role text) :=
  (Styled.of_escapeFree free).paint role width

theorem styled_rule (length : Nat) :
    Styled ((Palette.mk true width).rule length) ((Palette.mk false width).rule length) :=
  styled_paint (escapeFree_repeated (by decide) length) .rule

theorem styled_banner {title : String} (free : EscapeFree title) :
    Styled ((Palette.mk true width).banner title) ((Palette.mk false width).banner title) := by
  rw [Palette.banner, Palette.banner]
  split
  · exact styled_rule width
  · have label : EscapeFree ("[ " ++ Text.upper title ++ " ]") :=
      (EscapeFree.append (by decide) free.upper).append (by decide)
    exact ((styled_rule _).append (styled_paint label .title)).append (styled_rule _)

theorem styled_legend :
    Styled (Palette.mk true width).legend (Palette.mk false width).legend := by
  have separator : EscapeFree " | " := by decide
  apply Styled.append (.of_escapeFree (by decide))
  apply Styled.intercalate separator
  exact .cons (styled_paint (by decide) .stackMemory) <|
    .cons (styled_paint (by decide) .heapMemory) <|
    .cons (styled_paint (by decide) .codeMemory) <|
    .cons (styled_paint (by decide) .dataMemory) <|
    .cons (styled_paint (by decide) .writableCode) <|
    .cons (.of_escapeFree (by decide)) .nil

/-! ## Registers -/

/-- A flag that has changed is painted twice. -/
theorem styled_flagToken (value : UInt64) (last : Option UInt64) {bit : FlagBit}
    (free : EscapeFree bit.name) :
    Styled (flagToken ⟨true, width⟩ value last bit) (flagToken ⟨false, width⟩ value last bit) := by
  have name : Styled
      (if bitSet value bit.position then
        (Palette.mk true width).paint .flagSet (Text.upper bit.name)
      else (Palette.mk true width).paint .flagUnset (Text.lower bit.name))
      (if bitSet value bit.position then
        (Palette.mk false width).paint .flagSet (Text.upper bit.name)
      else (Palette.mk false width).paint .flagUnset (Text.lower bit.name)) := by
    split
    · exact styled_paint free.upper .flagSet
    · exact styled_paint free.lower .flagUnset
  rw [flagToken, flagToken]
  by_cases flipped : bitFlipped value last bit.position = true
  · rw [if_pos flipped, if_pos flipped]
    exact name.paint .flagChanged width
  · rw [if_neg flipped, if_neg flipped]
    exact name

theorem styled_describeFlags (value : UInt64) (last : Option UInt64) {register : FlagRegister}
    (free : ∀ bit ∈ register.bits, EscapeFree bit.name) :
    Styled (describeFlags ⟨true, width⟩ value register last)
      (describeFlags ⟨false, width⟩ value register last) := by
  have shown : Styled ((Palette.mk true width).paint .flagValue (hex value.toNat))
      ((Palette.mk false width).paint .flagValue (hex value.toNat)) :=
    styled_paint (escapeFree_hex _) .flagValue
  have blank : EscapeFree " " := by decide
  rw [describeFlags, describeFlags]
  split
  · exact shown
  · apply Styled.append _ (.of_escapeFree (by decide))
    apply Styled.append (shown.append (.of_escapeFree (by decide)))
    apply Styled.intercalate blank
    apply List.forall₂_map_left_iff.mpr
    apply List.forall₂_map_right_iff.mpr
    exact List.forall₂_same.mpr fun bit listed => styled_flagToken value last (free bit listed)

variable {inspector : Inspector} (free : inspector.EscapeFree)

include free

theorem Inspector.EscapeFree.symbolAt {address : Address} {symbol : String}
    (found : inspector.symbolAt address = some symbol) : Text.EscapeFree symbol := by
  obtain ⟨raw, kept, rfl⟩ := Option.map_eq_some_iff.mp found
  exact Symbol.escapeFree_display (free.symbols address raw (Option.filter_eq_some_iff.mp kept).1)

theorem styled_describeWord (word : UInt64) :
    Styled (describeWord inspector ⟨true, width⟩ word)
      (describeWord inspector ⟨false, width⟩ word) := by
  have shown : Styled ((Palette.mk true width).paint .pointer (hex word.toNat))
      ((Palette.mk false width).paint .pointer (hex word.toNat)) :=
    styled_paint (escapeFree_hex _) .pointer
  rw [describeWord, describeWord]
  cases found : inspector.symbolAt ⟨word⟩ with
  | none => exact shown
  | some symbol =>
      have name : Styled ((Palette.mk true width).paint .symbol symbol)
          ((Palette.mk false width).paint .symbol symbol) :=
        styled_paint (free.symbolAt found) .symbol
      exact ((shown.append (.of_escapeFree (by decide))).append name).append
        (.of_escapeFree (by decide))

theorem styled_describeChain (value : UInt64) :
    Styled (describeChain inspector ⟨true, width⟩ value)
      (describeChain inspector ⟨false, width⟩ value) := by
  have arrow : EscapeFree " —▸ " := by decide
  rw [describeChain, describeChain]
  apply Styled.append
  · apply Styled.intercalate arrow
    apply List.forall₂_map_left_iff.mpr
    apply List.forall₂_map_right_iff.mpr
    exact List.forall₂_same.mpr fun word _ => styled_describeWord free word
  · split
    · exact (Styled.of_escapeFree (by decide)).append (styled_paint (escapeFree_hex _) .pointer)
    · exact .of_escapeFree (by decide)

theorem styled_describeRegister (previous : Snapshot) (name : String) (value : UInt64) :
    Styled (describeRegister inspector ⟨true, width⟩ previous name value)
      (describeRegister inspector ⟨false, width⟩ previous name value) := by
  rw [describeRegister, describeRegister]
  cases found : inspector.flagRegisters.find? fun register => register.name == name with
  | none => exact styled_describeChain free value
  | some register =>
      exact styled_describeFlags value _ (free.flags register (List.mem_of_find?_eq_some found))

variable {settings : Settings} (marks : settings.EscapeFree) {quiet : Prop}

include marks

theorem styled_registerLine (previous current : Snapshot) {name : String}
    (known : EscapeFree name) (value : UInt64) :
    Styled (registerLine inspector settings ⟨true, width⟩ previous current name value)
      (registerLine inspector settings ⟨false, width⟩ previous current name value) := by
  have marker : Styled
      (changeMarker settings ⟨true, width⟩ (current.changed previous name))
      (changeMarker settings ⟨false, width⟩ (current.changed previous name)) := by
    rw [changeMarker, changeMarker]
    split
    · exact styled_paint marks.changedMarker .registerChanged
    · exact .of_escapeFree (escapeFree_blankLike _)
  have shown : Styled ((Palette.mk true width).paint .register (Text.padRight 4 (Text.upper name)))
      ((Palette.mk false width).paint .register (Text.padRight 4 (Text.upper name))) :=
    styled_paint (known.upper.padRight 4) .register
  exact ((marker.append shown).append (.of_escapeFree (by decide))).append
    (styled_describeRegister free previous name value)

theorem sameLines_renderRegisters (previous : Snapshot) (asked : Option (List String)) :
    SameLines quiet (renderRegisters inspector settings ⟨true, width⟩ previous asked).value
      (renderRegisters inspector settings ⟨false, width⟩ previous asked).value := by
  apply SameLines.flatMap
  intro name _
  rw [registerLines, registerLines]
  split
  · rename_i known
    cases inspector.snapshot.get? name with
    | none => exact .nil
    | some value =>
        have listed := List.contains_iff_mem.mp known
        exact .singleton (.of_styled
          (styled_registerLine free marks previous _ (free.registers name listed) value))
  · exact .nil

/-! ## Frames -/

theorem styled_frameLine (selected : FrameId) (index : Nat) (listed : ListedFrame) :
    Styled (frameLine inspector settings ⟨true, width⟩ selected index listed)
      (frameLine inspector settings ⟨false, width⟩ selected index listed) := by
  have blank : Styled " " " " := .of_escapeFree (by decide)
  have marker : EscapeFree (frameMarker settings (listed.frame = selected)) := by
    rw [frameMarker]
    split
    · exact marks.backtraceMarker
    · exact escapeFree_blankLike _
  have label : EscapeFree (settings.frameLabel ++ toString index) :=
    marks.frameLabel.append (escapeFree_toString index)
  have place := escapeFree_padded listed.pc
  rw [frameLine, frameLine]
  apply Styled.append
  · exact (((((blank.append (styled_paint marker .backtraceMarker)).append blank).append
      (styled_paint label .frameLabel)).append blank).append
      (styled_paint place .frameAddress))
  · cases found : inspector.symbolAt listed.pc with
    | none => exact .of_escapeFree escapeFree_empty
    | some symbol => exact blank.append (styled_paint (free.symbolAt found) .symbol)

theorem sameLines_renderBacktrace (depth : Nat) :
    SameLines quiet (renderBacktrace inspector settings ⟨true, width⟩ depth true).value
      (renderBacktrace inspector settings ⟨false, width⟩ depth true).value := by
  apply SameLines.cons (.of_styled (styled_banner (by decide)))
  rw [renderFrames, renderFrames]
  cases inspector.selectedFrame with
  | error cause => exact .nil
  | ok selected =>
      apply SameLines.mapIdx
      intro index listed _
      exact .of_styled (styled_frameLine free marks selected index listed)

end Painted

/-! ## Source lines -/

section Source

variable {width : Nat} {settings : Settings} (marks : settings.EscapeFree) {quiet : Prop}

include marks

/-- The painted line holds the painted marker and source text that may have styles of its
own. -/
theorem sameButStyles_windowLine (column current number : Nat) {code : String}
    (free : quiet → EscapeFree code) :
    SameButStyles quiet (windowLine settings ⟨true, width⟩ column current number code)
      (windowLine settings ⟨false, width⟩ column current number code) := by
  have blank : Styled " " " " := .of_escapeFree (by decide)
  have marker : Styled
      (if number = current then (Palette.mk true width).paint .codeMarker settings.codeMarker
      else Text.blankLike settings.codeMarker)
      (if number = current then (Palette.mk false width).paint .codeMarker settings.codeMarker
      else Text.blankLike settings.codeMarker) := by
    split
    · exact styled_paint marks.codeMarker .codeMarker
    · exact .of_escapeFree (escapeFree_blankLike _)
  have column : EscapeFree (numberColumn column number) :=
    (escapeFree_toString number).padLeft (by decide) column
  have line := SameButStyles.append
    ((((blank.append marker).append blank).append (.of_escapeFree column)).append blank)
    (.refl free)
  rw [windowLine, windowLine]
  by_cases shown : number = current ∧ settings.highlightSource = true
  · rw [if_pos shown, if_pos shown]
    exact line.paint .currentLine width
  · rw [if_neg shown, if_neg shown]
    exact line

theorem sameLines_windowLines {source : List String} (line : Nat)
    (free : quiet → ∀ code ∈ source, EscapeFree code) :
    SameLines quiet (windowLines settings ⟨true, width⟩ source line)
      (windowLines settings ⟨false, width⟩ source line) := by
  apply SameLines.mapIdx
  intro offset code listed
  apply sameButStyles_windowLine marks
  intro always
  exact free always code (List.mem_of_mem_take (List.mem_of_mem_drop listed))

end Source

end StopView
