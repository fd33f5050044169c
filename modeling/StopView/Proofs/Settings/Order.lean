import StopView.Proofs.Request
import StopView.Proofs.Settings.Held
import StopView.Proofs.Text.Words
import StopView.Proofs.Session.Step

/-!
# The order of sections

Which texts are an order of sections, without reference to how they are read: none at all, in
so many words, or the names of sections.  Reading accepts exactly these texts.  The orders that
are in force name no section twice, so that an order whose names are written down again is read
back as it was.
-/

namespace StopView

/-! ## Texts that ask for nothing -/

/-- A text that asks for no section, blanks at its ends apart: it is empty, or one of two words
in letters of any case. -/
def AsksForNothing (value : String) : Prop :=
  Text.trim value = "" ∨
    (Text.trim value).toList.map Char.toLower = "none".toList ∨
    (Text.trim value).toList.map Char.toLower = "empty".toList

theorem asksForNoSection_trim_iff (value : String) :
    asksForNoSection (Text.trim value) = true ↔ AsksForNothing value := by
  have none : "none".toList.map Char.toLower = "none".toList := rfl
  have empty : "empty".toList.map Char.toLower = "empty".toList := rfl
  simp only [asksForNoSection, equalIgnoringCase, AsksForNothing, none, empty, Bool.or_eq_true,
    beq_iff_eq, or_assoc]

namespace Text

theorem toLower_of_isBlank {c : Char} (blank : isBlank c = true) : c.toLower = c := by
  apply dif_neg
  intro capital
  obtain ⟨span, listed, lower, upper⟩ := inSpans_eq_true_iff.mp blank
  have first : 'A'.toNat ≤ c.toNat := UInt32.le_iff_toNat_le.mp capital.1
  have last : c.toNat ≤ 'Z'.toNat := UInt32.le_iff_toNat_le.mp capital.2
  have apart : ∀ span ∈ blankSpans, span.2 < 'A'.toNat ∨ 'Z'.toNat < span.1 := by decide
  have outside := apart span listed
  omega

theorem solid_of_map_toLower {chars : List Char}
    (solid : ∀ c ∈ chars.map Char.toLower, isBlank c = false) :
    ∀ c ∈ chars, isBlank c = false := by
  intro c listed
  cases kind : isBlank c with
  | false => rfl
  | true =>
      have lowered := solid c.toLower (List.mem_map_of_mem listed)
      rw [toLower_of_isBlank kind, kind] at lowered
      contradiction

end Text

/-- The words that ask for nothing. -/
def nothingWords : List (List Char) :=
  ["none".toList, "empty".toList]

theorem proper_of_mem_nothingWords {word : List Char} (listed : word ∈ nothingWords) :
    word ≠ [] ∧ ∀ c ∈ word, Text.isBlank c = false := by
  have solid : (nothingWords.all fun word => !word.isEmpty && word.all (!Text.isBlank ·)) := rfl
  simpa using List.all_eq_true.mp solid word listed

/-- A text that asks for nothing is no list of sections, if not the empty one. -/
theorem eq_nil_of_asksForNothing {value : String} (asks : AsksForNothing value)
    {parts : List Section}
    (named : Text.HasWords value.toList (parts.map fun part => part.name.toList)) :
    parts = [] := by
  rw [Text.hasWords_iff, ← Text.wordChars_trimChars, ← Text.toList_trim] at named
  rcases asks with blank | asked
  · rw [blank] at named
    exact List.map_eq_nil_iff.mp named.symm
  · have lowered : (Text.trim value).toList.map Char.toLower ∈ nothingWords := by
      simpa [nothingWords] using asked
    have others : ∀ part : Section, part.name.toList.map Char.toLower ∉ nothingWords := by
      intro part
      cases part <;> decide
    obtain ⟨filled, solid⟩ := proper_of_mem_nothingWords lowered
    have one : Text.wordChars (Text.trim value).toList = [(Text.trim value).toList] :=
      Text.wordChars_of_solid (fun none => filled (by rw [none]; rfl))
        (Text.solid_of_map_toLower solid)
    rw [one] at named
    cases parts with
    | nil => rfl
    | cons part rest =>
        have same : (Text.trim value).toList = part.name.toList := (List.cons.inj named).1
        rw [same] at lowered
        exact absurd lowered (others part)

/-! ## Names of sections -/

theorem Section.proper_name (part : Section) :
    part.name.toList ≠ [] ∧ ∀ c ∈ part.name.toList, Text.isBlank c = false := by
  have solid : (!part.name.toList.isEmpty && part.name.toList.all (!Text.isBlank ·)) := by
    cases part <;> rfl
  simpa using solid

/-- Words are read as sections if they are their names. -/
theorem sectionsOfWords_eq_ok_iff {words : List String} {parts : List Section} :
    sectionsOfWords words = .ok parts ↔ words = parts.map Section.name := by
  constructor
  · intro read
    induction words generalizing parts with
    | nil =>
        cases read
        rfl
    | cons word rest ih =>
        rw [sectionsOfWords] at read
        split at read
        · contradiction
        · rename_i part known
          cases further : sectionsOfWords rest with
          | error other =>
              rw [further] at read
              contradiction
          | ok others =>
              rw [further] at read
              cases read
              rw [List.map_cons, ← Section.ofName?_eq_some_iff.mp known, ← ih further]
  · rintro rfl
    induction parts with
    | nil => rfl
    | cons part rest ih =>
        rw [List.map_cons, sectionsOfWords, Section.ofName?_name, ih]
        rfl

/-- Words that are not read as sections have a first one that is no name. -/
theorem exists_of_sectionsOfWords_eq_error {words : List String} {word : String}
    (refused : sectionsOfWords words = .error word) :
    ∃ (parts : List Section) (rest : List String),
      words = parts.map Section.name ++ word :: rest ∧ ∀ part : Section, part.name ≠ word := by
  induction words with
  | nil => contradiction
  | cons first others ih =>
      rw [sectionsOfWords] at refused
      split at refused
      · rename_i unknown
        cases refused
        refine ⟨[], others, rfl, ?_⟩
        rintro part rfl
        rw [Section.ofName?_name] at unknown
        contradiction
      · rename_i part known
        cases further : sectionsOfWords others with
        | ok parts =>
            rw [further] at refused
            contradiction
        | error other =>
            rw [further] at refused
            cases refused
            obtain ⟨parts, rest, rfl, noName⟩ := ih further
            refine ⟨part :: parts, rest, ?_, noName⟩
            rw [Section.ofName?_eq_some_iff.mp known]
            rfl

/-! ## Orders -/

/-- A text is an order of sections: it asks for nothing, or it consists of names, which count
where they occur first. -/
def IsOrder (value : String) (order : List Section) : Prop :=
  AsksForNothing value ∧ order = [] ∨
    ∃ parts : List Section,
      Text.HasWords value.toList (parts.map fun part => part.name.toList) ∧
        FirstSeen parts order

theorem IsOrder.nodup {value : String} {order : List Section} (isOrder : IsOrder value order) :
    order.Nodup := by
  rcases isOrder with ⟨-, rfl⟩ | ⟨parts, -, seen⟩
  · exact List.nodup_nil
  · exact seen.nodup

/-- The words of a text are names of sections as texts if they are so as lists of
characters. -/
theorem words_trim_eq_map_iff (value : String) (words : List String) :
    Text.words (Text.trim value) = words ↔
      Text.HasWords value.toList (words.map String.toList) := by
  rw [Text.hasWords_iff, Text.words_eq_map, Text.toList_trim, Text.wordChars_trimChars]
  constructor
  · rintro rfl
    simp [Function.comp_def]
  · intro found
    rw [found]
    simp [Function.comp_def]

theorem parseSections_of_asksForNothing {value : String} (asks : AsksForNothing value) :
    parseSections value = .ok [] :=
  if_pos ((asksForNoSection_trim_iff value).mpr asks)

theorem parseSections_of_not_asksForNothing {value : String} (asks : ¬AsksForNothing value) :
    parseSections value =
      (sectionsOfWords (Text.words (Text.trim value))).map firstOccurrences :=
  if_neg fun asked => asks ((asksForNoSection_trim_iff value).mp asked)

/-- Reading an order accepts the texts that are one. -/
theorem parseSections_eq_ok_iff {value : String} {order : List Section} :
    parseSections value = .ok order ↔ IsOrder value order := by
  by_cases asks : AsksForNothing value
  · rw [parseSections_of_asksForNothing asks, Except.ok.injEq]
    constructor
    · rintro rfl
      exact .inl ⟨asks, rfl⟩
    · rintro (⟨-, rfl⟩ | ⟨parts, named, seen⟩)
      · rfl
      · rw [eq_nil_of_asksForNothing asks named] at seen
        exact (firstSeen_firstOccurrences []).eq seen
  · rw [parseSections_of_not_asksForNothing asks]
    constructor
    · intro read
      cases named : sectionsOfWords (Text.words (Text.trim value)) with
      | error word =>
          rw [named] at read
          cases read
      | ok parts =>
          rw [named] at read
          cases read
          have words := (words_trim_eq_map_iff value _).mp (sectionsOfWords_eq_ok_iff.mp named)
          rw [List.map_map] at words
          exact .inr ⟨parts, words, firstSeen_firstOccurrences parts⟩
    · rintro (⟨asked, -⟩ | ⟨parts, named, seen⟩)
      · exact absurd asked asks
      · have words : Text.words (Text.trim value) = parts.map Section.name := by
          rw [words_trim_eq_map_iff, List.map_map]
          exact named
        rw [sectionsOfWords_eq_ok_iff.mpr words, seen.eq (firstSeen_firstOccurrences parts)]
        rfl

/-- A text that is no order has a first word that is no name. -/
theorem exists_of_parseSections_eq_error {value word : String}
    (refused : parseSections value = .error word) :
    ∃ (parts : List Section) (rest : List (List Char)),
      Text.HasWords value.toList
          ((parts.map fun part => part.name.toList) ++ word.toList :: rest) ∧
        ∀ part : Section, part.name ≠ word := by
  have asks : ¬AsksForNothing value := by
    intro asked
    rw [parseSections_of_asksForNothing asked] at refused
    cases refused
  rw [parseSections_of_not_asksForNothing asks] at refused
  cases named : sectionsOfWords (Text.words (Text.trim value)) with
  | ok parts =>
      rw [named] at refused
      cases refused
  | error other =>
      rw [named] at refused
      cases refused
      obtain ⟨parts, rest, words, noName⟩ := exists_of_sectionsOfWords_eq_error named
      have found := (words_trim_eq_map_iff value _).mp words
      rw [List.map_append, List.map_map, List.map_cons] at found
      exact ⟨parts, rest.map String.toList, found, noName⟩

theorem isOrder_of_spaced {order : List Section} (apart : order.Nodup) {text : String}
    (spaced : Text.Spaced (order.map fun part => part.name.toList) text.toList) :
    IsOrder text order := by
  refine .inr ⟨order, spaced.hasWords ?_, firstSeen_of_nodup apart⟩
  intro word listed
  obtain ⟨part, -, rfl⟩ := List.mem_map.mp listed
  exact part.proper_name

example : IsOrder "stack  regs stack" [.stack, .registers] :=
  parseSections_eq_ok_iff.mp rfl

/-! ## The orders in force -/

theorem Change.parseSections_of_ofSections {value : String} {order : List Section}
    (read : (ofSections value).value = .ok (.sections order)) :
    parseSections value = .ok order := by
  rw [value_ofSections] at read
  split at read
  · rename_i other parsed
    cases read
    exact parsed
  · cases read

theorem Change.parseSections_of_ofText {name value : String} {order : List Section}
    (read : (ofText name value).value = .ok (.sections order)) :
    parseSections value = .ok order := by
  rw [value_ofText_of_ok (setting_of_ofText read).1] at read
  exact parseSections_of_ofSections read

/-- The order in force is changed only by one that was read. -/
theorem Settings.sections_applyRead_cases (settings : Settings) (read : Except Failure Change) :
    (settings.applyRead read).sections = settings.sections ∨
      read = .ok (.sections (settings.applyRead read).sections) := by
  cases read with
  | error cause => exact .inl rfl
  | ok change =>
      cases change with
      | sections order => exact .inr rfl
      | output destination => exact .inl rfl
      | sectionOutput part output => exact .inl rfl
      | switch which value => exact .inl (by cases which <;> rfl)
      | quantity which value => exact .inl (by cases which <;> rfl)
      | mark which text => exact .inl (by cases which <;> rfl)

theorem Operation.nodup_sections_settingsAfter (operation : Operation) {settings : Settings}
    (apart : settings.sections.Nodup) : (operation.settingsAfter settings).sections.Nodup := by
  cases operation with
  | set name value =>
      rcases settings.sections_applyRead_cases (Change.ofText name value).value with same | read
      · rwa [settingsAfter, same]
      · exact (parseSections_eq_ok_iff.mp (Change.parseSections_of_ofText read)).nodup
  | setSections value =>
      rcases settings.sections_applyRead_cases (Change.ofSections value).value with same | read
      · rwa [settingsAfter, same]
      · exact (parseSections_eq_ok_iff.mp (Change.parseSections_of_ofSections read)).nodup
  | setOutput key output => cases key <;> exact apart
  | _ => exact apart

namespace Situation

/-- The order in force never names a section twice. -/
theorem nodup_sections_run {situation : Situation}
    (apart : situation.session.settings.sections.Nodup)
    (steps : List (Inspector × Operation)) :
    (situation.run steps).value.1.session.settings.sections.Nodup := by
  apply run_keeps (fun situation => situation.session.settings.sections.Nodup)
  · rintro ⟨inspector, operation⟩ - earlier kept
    rw [settings_perform]
    exact operation.nodup_sections_settingsAfter kept
  · exact apart

variable (situation : Situation) (inspector : Inspector)

theorem perform_setSections (value : String) :
    (situation.perform inspector (.setSections value)).value =
      (situation.withSettings
          (situation.session.settings.applyRead (Change.ofSections value).value),
        outcomeOfRead (Change.ofSections value).value) :=
  rfl

/-- An order is put in force exactly if the text is one. -/
theorem perform_setSections_eq_done_iff (value : String) (order : List Section) :
    (situation.perform inspector (.setSections value)).value =
        (situation.withSettings { situation.session.settings with sections := order }, .done) ↔
      IsOrder value order := by
  rw [perform_setSections, ← parseSections_eq_ok_iff, Change.value_ofSections]
  cases parseSections value with
  | error word =>
      constructor
      · intro performed
        cases congrArg Prod.snd performed
      · nofun
  | ok other =>
      constructor
      · intro performed
        have sections : other = order :=
          congrArg (fun result => result.1.session.settings.sections) performed
        rw [sections]
      · rintro ⟨⟩
        rfl

/-- A text that is no order is refused with its first word that is no name. -/
theorem exists_of_not_isOrder {value : String} (none : ¬∃ order, IsOrder value order) :
    ∃ (parts : List Section) (word : String) (rest : List (List Char)),
      Text.HasWords value.toList
          ((parts.map fun part => part.name.toList) ++ word.toList :: rest) ∧
        (∀ part : Section, part.name ≠ word) ∧
        (situation.perform inspector (.setSections value)).value =
          (situation,
            .refused (.configuration "context-sections" ("invalid section " ++ word))) := by
  cases read : parseSections value with
  | ok order => exact absurd ⟨order, parseSections_eq_ok_iff.mp read⟩ none
  | error word =>
      obtain ⟨parts, rest, words, noName⟩ := exists_of_parseSections_eq_error read
      refine ⟨parts, word, rest, words, noName, ?_⟩
      rw [perform_setSections, Change.value_ofSections, read]
      rfl

/-! ## The main result -/

/-- An order of sections is put in force exactly if the text is one: after trimming it is empty
or one of two words, or all its words are names, which count where they occur first.  Any other
text is refused with its first word that is no name, and nothing changes.  The order in force
after any operations therefore names no section twice, and when its names are written down
again, with any blanks between them, what is written puts the same order in force. -/
theorem order_of_sections_is_read_as_written :
    (∀ (situation : Situation) (inspector : Inspector) (value : String),
      let after := (situation.perform inspector (.setSections value)).value
      (∀ order, after =
          (situation.withSettings { situation.session.settings with sections := order }, .done) ↔
        IsOrder value order) ∧
      ((¬∃ order, IsOrder value order) →
        ∃ (parts : List Section) (word : String) (rest : List (List Char)),
          Text.HasWords value.toList
              ((parts.map fun part => part.name.toList) ++ word.toList :: rest) ∧
            (∀ part : Section, part.name ≠ word) ∧
            after = (situation,
              .refused (.configuration "context-sections" ("invalid section " ++ word))))) ∧
    ∀ (highlighter : Highlighter) (width : BannerWidth) (world : World)
      (steps : List (Inspector × Operation)) (inspector : Inspector),
      let situation :=
        (Situation.run ⟨Session.fresh .initial highlighter width, world, 0⟩ steps).value.1
      let order := situation.session.settings.sections
      order.Nodup ∧
        ∀ text : String, Text.Spaced (order.map fun part => part.name.toList) text.toList →
          (situation.perform inspector (.setSections text)).value = (situation, .done) := by
  constructor
  · intro situation inspector value after
    constructor
    · exact situation.perform_setSections_eq_done_iff inspector value
    · exact situation.exists_of_not_isOrder inspector
  · intro highlighter width world steps inspector situation order
    have initial : Settings.initial.sections.Nodup := by decide
    have apart : order.Nodup := nodup_sections_run initial steps
    constructor
    · exact apart
    · intro text spaced
      exact (situation.perform_setSections_eq_done_iff inspector text order).mpr
        (isOrder_of_spaced apart spaced)

end Situation

end StopView
