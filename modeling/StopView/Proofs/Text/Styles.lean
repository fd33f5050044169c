import Mathlib.Data.List.Forall2
import StopView.Palette
import StopView.Proofs.Text.Escape

/-!
# Texts without styles

A terminal changes the look of text at a style sequence: an escape, a bracket, some
parameters and the letter m.  Here these sequences are taken out of a text again.  What only
begins like one stays.

A styled text is a text without escapes to which styles were added.  Such texts are put
together, painted and painted once more without losing this, and taking out the styles gives
back the text that they were added to.
-/

namespace StopView.Text

/-- Where a reader of style sequences stands: in text, behind an escape, or in the
parameters of a sequence. -/
inductive StyleState where
  | text
  | escaped
  | parameters (read : List Char)
deriving Repr, DecidableEq

namespace StyleState

/-- What is held back because it may belong to a sequence. -/
def held : StyleState → List Char
  | .text => []
  | .escaped => [escape]
  | .parameters read => escape :: '[' :: read

/-- Go on with a character that ends no sequence: what was held back is text after all. -/
def giveUp (state : StyleState) (c : Char) : List Char × StyleState :=
  if c = escape then (state.held, .escaped) else (state.held ++ [c], .text)

end StyleState

/-- Whether a character may be a parameter of a sequence. -/
def isParameter (c : Char) : Bool :=
  decide (0x30 ≤ c.toNat) && decide (c.toNat < 0x40)

/-- Read one character: what turns out to be text, and where the reader stands. -/
def StyleState.step : StyleState → Char → List Char × StyleState
  | .text, c => giveUp .text c
  | .escaped, c => if c = '[' then ([], .parameters []) else giveUp .escaped c
  | .parameters read, c =>
      if isParameter c then ([], .parameters (read ++ [c]))
      else if c = 'm' then ([], .text)
      else giveUp (.parameters read) c

/-- Read characters: what turns out to be text, and where the reader stands. -/
def readStyles : StyleState → List Char → List Char × StyleState
  | state, [] => ([], state)
  | state, c :: rest =>
      let first := state.step c
      let others := readStyles first.2 rest
      (first.1 ++ others.1, others.2)

/-- A text without its style sequences. -/
def withoutStyles (text : String) : String :=
  let read := readStyles .text text.toList
  String.ofList (read.1 ++ read.2.held)

/-! ## Reading -/

/-- Reading some characters after others is reading all of them. -/
theorem readStyles_append (state : StyleState) (first second : List Char) :
    readStyles state (first ++ second) =
      let before := readStyles state first
      let after := readStyles before.2 second
      (before.1 ++ after.1, after.2) := by
  induction first generalizing state with
  | nil => rfl
  | cons c rest ih => simp [readStyles, ih]

/-- Characters without an escape are text. -/
theorem readStyles_of_noEscape {chars : List Char} (free : NoEscape chars) :
    readStyles .text chars = (chars, .text) := by
  induction chars with
  | nil => rfl
  | cons c rest ih =>
      have here : c ≠ escape := free.of_mem List.mem_cons_self
      have later := ih (free.of_subset (List.subset_cons_self c rest))
      have step : StyleState.step .text c = ([c], .text) := if_neg here
      rw [readStyles, step, later]
      rfl

/-- An escape begins a sequence wherever the reader stands. -/
theorem step_escape (state : StyleState) : state.step escape = (state.held, .escaped) := by
  cases state <;> rfl

theorem readStyles_parameters (read : List Char) {parameters : List Char}
    (all : parameters.all isParameter = true) (rest : List Char) :
    readStyles (.parameters read) (parameters ++ rest) =
      readStyles (.parameters (read ++ parameters)) rest := by
  induction parameters generalizing read with
  | nil => rw [List.nil_append, List.append_nil]
  | cons c others ih =>
      rw [List.all_cons, Bool.and_eq_true] at all
      have step : StyleState.step (.parameters read) c = ([], .parameters (read ++ [c])) :=
        if_pos all.1
      rw [List.cons_append, readStyles, step, ih _ all.2, List.append_assoc]
      rfl

/-- A sequence is no text, and it shows that what was held back before it is. -/
theorem readStyles_graphicCode {parameters : String}
    (all : parameters.toList.all isParameter = true) (state : StyleState) :
    readStyles state (graphicCode parameters).toList = (state.held, .text) := by
  have chars : (graphicCode parameters).toList =
      escape :: '[' :: (parameters.toList ++ ['m']) := by
    simp [graphicCode, escape]
  rw [chars, readStyles, step_escape, readStyles]
  change (state.held ++ ([] ++ (readStyles (.parameters []) (parameters.toList ++ ['m'])).1),
    (readStyles (.parameters []) (parameters.toList ++ ['m'])).2) = _
  rw [readStyles_parameters [] all]
  change (state.held ++ [], StyleState.text) = _
  rw [List.append_nil]

/-- The codes that switch a style on are no text. -/
theorem readStyles_opening (style : Style) :
    readStyles .text style.opening.toList = ([], .text) := by
  have colours : ∀ colour : Colour,
      readStyles .text (graphicCode ("38;5;" ++ toString colour.code)).toList = ([], .text) :=
    fun colour => readStyles_graphicCode (by cases colour <;> decide) .text
  have emphases : ∀ emphasis : Emphasis,
      readStyles .text (graphicCode (toString emphasis.code)).toList = ([], .text) :=
    fun emphasis => readStyles_graphicCode (by cases emphasis <;> decide) .text
  rcases style with ⟨colour, emphasis⟩
  rw [Style.opening, String.toList_append, readStyles_append]
  cases colour with
  | none =>
      cases emphasis with
      | none => rfl
      | some emphasis => exact emphases emphasis
  | some colour =>
      dsimp only
      rw [colours colour]
      cases emphasis with
      | none => rfl
      | some emphasis => exact emphases emphasis

/-- The code that switches a style off is no text. -/
theorem readStyles_closing (style : Style) (state : StyleState) :
    readStyles state style.closing.toList = (state.held, .text) := by
  rcases style with ⟨colour, emphasis⟩
  cases emphasis with
  | none => exact readStyles_graphicCode (by decide) state
  | some emphasis => exact readStyles_graphicCode (by decide) state

/-- A style can be taken out of whatever it was put on. -/
theorem withoutStyles_apply (style : Style) (text : String) :
    withoutStyles (style.apply text) = withoutStyles text := by
  rw [withoutStyles, withoutStyles, Style.apply, String.toList_append, String.toList_append,
    readStyles_append, readStyles_append, readStyles_opening]
  dsimp only
  rw [readStyles_closing]
  simp [StyleState.held]

theorem withoutStyles_of_escapeFree {text : String} (free : EscapeFree text) :
    withoutStyles text = text := by
  rw [withoutStyles, readStyles_of_noEscape free]
  simp [StyleState.held]

/-! ## Styled texts -/

/-- A text is another one, which has no escapes, with styles added. -/
structure Styled (styled bare : String) : Prop where
  escapeFree : EscapeFree bare
  read : readStyles .text styled.toList = (bare.toList, .text)

namespace Styled

variable {left leftBare right rightBare : String}

theorem of_escapeFree {text : String} (free : EscapeFree text) : Styled text text :=
  ⟨free, readStyles_of_noEscape free⟩

theorem append (first : Styled left leftBare) (second : Styled right rightBare) :
    Styled (left ++ right) (leftBare ++ rightBare) where
  escapeFree := first.escapeFree.append second.escapeFree
  read := by
    rw [String.toList_append, readStyles_append, first.read]
    dsimp only
    rw [second.read, String.toList_append]

theorem withoutStyles_append (first : Styled left leftBare) (text : String) :
    withoutStyles (left ++ text) = leftBare ++ withoutStyles text := by
  rw [withoutStyles, withoutStyles, String.toList_append, readStyles_append, first.read]
  simp [List.append_assoc, String.ofList_append]

theorem withoutStyles_eq (text : Styled left leftBare) : withoutStyles left = leftBare := by
  rw [withoutStyles, text.read]
  simp [StyleState.held]

theorem apply (text : Styled left leftBare) (style : Style) :
    Styled (style.apply left) leftBare where
  escapeFree := text.escapeFree
  read := by
    rw [Style.apply, String.toList_append, String.toList_append, readStyles_append,
      readStyles_append, readStyles_opening]
    dsimp only
    rw [text.read]
    dsimp only
    rw [readStyles_closing]
    simp [StyleState.held]

/-- Painted texts differ in styles only. -/
theorem paint (text : Styled left leftBare) (role : Role) (width : Nat) :
    Styled ((Palette.mk true width).paint role left)
      ((Palette.mk false width).paint role leftBare) :=
  text.apply role.style

theorem intercalate {separator : String} (between : EscapeFree separator)
    {texts bares : List String} (each : List.Forall₂ Styled texts bares) :
    Styled (separator.intercalate texts) (separator.intercalate bares) := by
  induction each with
  | nil => exact .of_escapeFree .nil
  | @cons first firstBare rest restBare here later ih =>
      cases later with
      | nil =>
          rw [String.intercalate_singleton, String.intercalate_singleton]
          exact here
      | cons second others =>
          rw [String.intercalate_cons_cons, String.intercalate_cons_cons]
          exact (here.append (.of_escapeFree between)).append ih

end Styled

/-- Two lines differ in styles only, and the plainer one has no escapes if the source text
has none. -/
structure SameButStyles (quiet : Prop) (styled bare : String) : Prop where
  text : withoutStyles styled = withoutStyles bare
  escapeFree : quiet → EscapeFree bare

namespace SameButStyles

variable {quiet : Prop} {styled bare : String}

theorem of_styled (line : Styled styled bare) : SameButStyles quiet styled bare where
  text := by rw [line.withoutStyles_eq, withoutStyles_of_escapeFree line.escapeFree]
  escapeFree _ := line.escapeFree

theorem refl {text : String} (free : quiet → EscapeFree text) : SameButStyles quiet text text :=
  ⟨rfl, free⟩

theorem append {front frontBare : String} (first : Styled front frontBare)
    (second : SameButStyles quiet styled bare) :
    SameButStyles quiet (front ++ styled) (frontBare ++ bare) where
  text := by
    rw [first.withoutStyles_append, second.text,
      (Styled.of_escapeFree first.escapeFree).withoutStyles_append]
  escapeFree always := first.escapeFree.append (second.escapeFree always)

/-- A line that is painted once more. -/
theorem paint (line : SameButStyles quiet styled bare) (role : Role) (width : Nat) :
    SameButStyles quiet ((Palette.mk true width).paint role styled)
      ((Palette.mk false width).paint role bare) where
  text := (withoutStyles_apply role.style styled).trans line.text
  escapeFree := line.escapeFree

theorem withoutStyles_eq (line : SameButStyles quiet styled bare) (always : quiet) :
    withoutStyles styled = bare :=
  line.text.trans (withoutStyles_of_escapeFree (line.escapeFree always))

end SameButStyles

/-! ## Styled lines -/

section Related

variable {α β γ : Type} {related : α → β → Prop} {left : List α} {right : List β}
  (all : List.Forall₂ related left right)

include all

/-- What two functions give for related elements is the same all along two lists. -/
theorem map_eq_map_of_forall₂ {f : α → γ} {g : β → γ}
    (each : ∀ first second, related first second → f first = g second) :
    left.map f = right.map g := by
  induction all with
  | nil => rfl
  | cons here later ih => rw [List.map_cons, List.map_cons, each _ _ here, ih]

/-- What holds of everything that is related to something holds of a whole list. -/
theorem forall_mem_of_forall₂ {holds : β → Prop}
    (each : ∀ first second, related first second → holds second) :
    ∀ item ∈ right, holds item := by
  induction all with
  | nil => exact fun item listed => absurd listed List.not_mem_nil
  | cons here later ih =>
      intro item listed
      rcases List.mem_cons.mp listed with rfl | listed
      · exact each _ _ here
      · exact ih item listed

end Related

/-- Lines that differ in styles only, one by one. -/
def SameLines (quiet : Prop) (styled bare : List String) : Prop :=
  List.Forall₂ (SameButStyles quiet) styled bare

namespace SameLines

variable {quiet : Prop} {styled bare others otherBares : List String}

theorem nil : SameLines quiet [] [] :=
  List.Forall₂.nil

theorem cons {first firstBare : String} (here : SameButStyles quiet first firstBare)
    (later : SameLines quiet styled bare) :
    SameLines quiet (first :: styled) (firstBare :: bare) :=
  List.Forall₂.cons here later

theorem singleton {line lineBare : String} (here : SameButStyles quiet line lineBare) :
    SameLines quiet [line] [lineBare] :=
  cons here nil

theorem refl {lines : List String} (free : quiet → ∀ line ∈ lines, EscapeFree line) :
    SameLines quiet lines lines :=
  List.forall₂_same.mpr fun line listed => .refl fun always => free always line listed

theorem append (first : SameLines quiet styled bare) (second : SameLines quiet others otherBares) :
    SameLines quiet (styled ++ others) (bare ++ otherBares) :=
  List.rel_append first second

theorem map {α : Type} {items : List α} {f g : α → String}
    (each : ∀ item ∈ items, SameButStyles quiet (f item) (g item)) :
    SameLines quiet (items.map f) (items.map g) :=
  List.forall₂_map_left_iff.mpr (List.forall₂_map_right_iff.mpr (List.forall₂_same.mpr each))

theorem flatMap {α : Type} {items : List α} {f g : α → List String}
    (each : ∀ item ∈ items, SameLines quiet (f item) (g item)) :
    SameLines quiet (items.flatMap f) (items.flatMap g) := by
  induction items with
  | nil => exact nil
  | cons first rest ih =>
      have later := ih fun item listed => each item (List.mem_cons_of_mem first listed)
      exact (each first List.mem_cons_self).append later

theorem mapIdx {α : Type} {items : List α} {f g : Nat → α → String}
    (each : ∀ index, ∀ item ∈ items, SameButStyles quiet (f index item) (g index item)) :
    SameLines quiet (items.mapIdx f) (items.mapIdx g) := by
  induction items generalizing f g with
  | nil => exact nil
  | cons first rest ih =>
      rw [List.mapIdx_cons, List.mapIdx_cons]
      apply cons (each 0 first List.mem_cons_self)
      exact ih fun index item listed => each (index + 1) item (List.mem_cons_of_mem first listed)

theorem length_eq (same : SameLines quiet styled bare) : styled.length = bare.length :=
  List.Forall₂.length_eq same

theorem isEmpty_eq (same : SameLines quiet styled bare) : styled.isEmpty = bare.isEmpty := by
  cases same <;> rfl

theorem map_withoutStyles (same : SameLines quiet styled bare) :
    styled.map withoutStyles = bare.map withoutStyles :=
  map_eq_map_of_forall₂ same fun _ _ here => here.text

theorem escapeFree (same : SameLines quiet styled bare) (always : quiet) :
    ∀ line ∈ bare, EscapeFree line :=
  forall_mem_of_forall₂ same fun _ _ here => here.escapeFree always

theorem map_withoutStyles_eq (same : SameLines quiet styled bare) (always : quiet) :
    styled.map withoutStyles = bare := by
  have each : styled.map withoutStyles = bare.map id :=
    map_eq_map_of_forall₂ same fun _ _ here => here.withoutStyles_eq always
  rwa [List.map_id] at each

end SameLines

end StopView.Text
