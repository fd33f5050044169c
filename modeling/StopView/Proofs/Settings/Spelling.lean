import StopView.Inspector.Script
import StopView.Logging.Format
import StopView.Logging.Level
import StopView.Proofs.Settings.Order
import StopView.Proofs.Text.Case
import StopView.Proofs.Text.Trim

/-!
# Spellings of words

Levels and formats of log lines and the two positions of a switch are given as words.  A word may
be spelled in small and capital ASCII letters, that of a switch also with blanks around it, and in
no other way, although a whole text is brought to lower case before it is compared.  Any other
text is refused as it was given, and a refusal leaves the settings as they were.
-/

namespace StopView

/-! ## Levels and formats -/

/-- A reader takes the spellings of some words in ASCII letters for what the words mean, and
refuses all other texts as they are. -/
structure ReadsWords {α ε : Type} (words : List (String × α)) (parse : String → Except ε α)
    (refusal : String → ε) : Prop where
  ok_iff : ∀ text value, parse text = .ok value ↔
    ∃ word, (word, value) ∈ words ∧ equalIgnoringCase text word = true
  error_iff : ∀ text cause, parse text = .error cause ↔
    cause = refusal text ∧ ∀ entry ∈ words, equalIgnoringCase text entry.1 = false

theorem readsWords_of_lookup {α ε : Type} {words : List (String × α)}
    (isTable : Text.IsWordTable words) {parse : String → Except ε α} {refusal : String → ε}
    (looks : ∀ text, parse text =
      match words.lookup (Text.lower text) with
      | some value => .ok value
      | none => .error (refusal text)) : ReadsWords words parse refusal where
  ok_iff text value := by
    rw [looks, ← isTable.lookup_lower_eq_some_iff]
    cases words.lookup (Text.lower text) <;> simp
  error_iff text cause := by
    rw [looks, ← isTable.lookup_lower_eq_none_iff]
    cases words.lookup (Text.lower text) <;> simp [eq_comm]

/-- A text with a character beyond ASCII is no spelling of a word and is refused. -/
theorem ReadsWords.error_of_not_isAscii {α ε : Type} {words : List (String × α)}
    {parse : String → Except ε α} {refusal : String → ε} (reads : ReadsWords words parse refusal)
    (isTable : Text.IsWordTable words) {text : String} {c : Char} (listed : c ∈ text.toList)
    (beyond : ¬Text.IsAscii c) : parse text = .error (refusal text) := by
  rw [reads.error_iff]
  apply And.intro rfl
  intro entry entryMem
  rw [← Bool.not_eq_true]
  intro same
  exact beyond (Text.isAscii_of_equalIgnoringCase (isTable.small entry entryMem) same c listed)

theorem LogLevel.isWordTable_words : Text.IsWordTable words :=
  ⟨by decide, by decide⟩

theorem LogLevel.readsWords_parse : ReadsWords words parse .unknownLevel :=
  readsWords_of_lookup isWordTable_words fun text => by
    rw [parse]
    cases words.lookup (Text.lower text) <;> rfl

theorem LogFormat.isWordTable_words : Text.IsWordTable words :=
  ⟨by decide, by decide⟩

theorem LogFormat.readsWords_parse : ReadsWords words parse .unknownFormat :=
  readsWords_of_lookup isWordTable_words fun text => by
    rw [parse]
    cases words.lookup (Text.lower text) <;> rfl

/-! ## Switches -/

/-- A word stands in a text: some spelling of it in ASCII letters, and nothing but blanks around
it. -/
def StandsIn (word value : String) : Prop :=
  ∃ front letters back : String, value = front ++ letters ++ back ∧
    (∀ c ∈ front.toList ++ back.toList, Text.isBlank c = true) ∧
    equalIgnoringCase letters word = true

/-- The word that stands in a text is what trimming leaves of it. -/
theorem standsIn_iff {word : String} (filled : word.toList ≠ [])
    (small : Text.IsSmallWord word) (solid : ∀ c ∈ word.toList, Text.isBlank c = false)
    (value : String) :
    StandsIn word value ↔ equalIgnoringCase (Text.trim value) word = true := by
  constructor
  · rintro ⟨front, letters, back, rfl, blank, same⟩
    have lowered : letters.toList.map Char.toLower = word.toList := by
      rw [equalIgnoringCase, small.map_toLower, beq_iff_eq] at same
      exact same
    have lettersFilled : letters.toList ≠ [] := by
      intro none
      rw [none] at lowered
      exact filled lowered.symm
    have lettersSolid : ∀ c ∈ letters.toList, Text.isBlank c = false :=
      Text.solid_of_map_toLower (lowered ▸ solid)
    have left : Text.trim (front ++ letters ++ back) = letters := by
      rw [← String.toList_inj, Text.toList_trim, String.toList_append, String.toList_append]
      exact Text.trimChars_surrounded blank lettersFilled lettersSolid
    rwa [left]
  · intro same
    obtain ⟨gap, blank, whole⟩ :=
      Text.exists_eq_trimEndChars_append (value.toList.dropWhile Text.isBlank)
    have front : ∀ c ∈ value.toList.takeWhile Text.isBlank, Text.isBlank c = true :=
      List.all_eq_true.mp List.all_takeWhile
    refine ⟨.ofList (value.toList.takeWhile Text.isBlank), Text.trim value, .ofList gap, ?_, ?_,
      same⟩
    · rw [← String.toList_inj, String.toList_append, String.toList_append, String.toList_ofList,
        String.toList_ofList, Text.toList_trim, Text.trimChars, List.append_assoc, ← whole,
        List.takeWhile_append_dropWhile]
    · intro c listed
      rw [String.toList_ofList, String.toList_ofList] at listed
      rcases List.mem_append.mp listed with before | after
      · exact front c before
      · exact blank c after

theorem isWordTable_switchWords : Text.IsWordTable switchWords :=
  ⟨by decide, by decide⟩

theorem standsIn_iff_of_mem_switchWords {entry : String × Bool} (listed : entry ∈ switchWords)
    (value : String) :
    StandsIn entry.1 value ↔ equalIgnoringCase (Text.trim value) entry.1 = true := by
  have proper : ∀ entry ∈ switchWords,
      entry.1.toList ≠ [] ∧ entry.1.toList.all (fun c => !Text.isBlank c) = true := by decide
  obtain ⟨filled, plain⟩ := proper entry listed
  have solid : ∀ c ∈ entry.1.toList, Text.isBlank c = false := by
    intro c here
    have notBlank := List.all_eq_true.mp plain c here
    rwa [Bool.not_eq_true'] at notBlank
  exact standsIn_iff filled (isWordTable_switchWords.small entry listed) solid value

/-- Where a character beyond ASCII is left between the blanks, no word stands. -/
theorem not_standsIn_of_not_isAscii {entry : String × Bool} (listed : entry ∈ switchWords)
    {value : String} {c : Char} (left : c ∈ (Text.trim value).toList)
    (beyond : ¬Text.IsAscii c) : ¬StandsIn entry.1 value := by
  rw [standsIn_iff_of_mem_switchWords listed]
  intro same
  exact beyond (Text.isAscii_of_equalIgnoringCase (isWordTable_switchWords.small entry listed) same
    c left)

/-- A switch is read as the word that stands in the text. -/
theorem parseSwitch?_eq_some_iff {value : String} {flag : Bool} :
    parseSwitch? value = some flag ↔
      ∃ word, (word, flag) ∈ switchWords ∧ StandsIn word value := by
  rw [parseSwitch?, isWordTable_switchWords.lookup_lower_eq_some_iff]
  apply exists_congr
  intro word
  apply and_congr_right
  intro listed
  exact (standsIn_iff_of_mem_switchWords listed value).symm

theorem parseSwitch?_eq_none_iff {value : String} :
    parseSwitch? value = none ↔ ∀ entry ∈ switchWords, ¬StandsIn entry.1 value := by
  rw [parseSwitch?, isWordTable_switchWords.lookup_lower_eq_none_iff]
  apply forall₂_congr
  intro entry listed
  rw [standsIn_iff_of_mem_switchWords listed, Bool.not_eq_true]

namespace Situation

variable (situation : Situation) (inspector : Inspector)

/-- The refusal of a text for a switch. -/
def refusedSwitch (which : Switch) (value : String) : Outcome :=
  .refused (.configuration (Setting.switch which).name ("invalid value " ++ Text.quoted value))

theorem perform_set_switch (which : Switch) (value : String) :
    situation.perform inspector (.set (Setting.switch which).name value) =
      match parseSwitch? value with
      | some flag =>
          ⟨(situation.withSettings (situation.session.settings.setSwitch which flag), .done),
            [.settingGiven]⟩
      | none =>
          ⟨(situation, refusedSwitch which value),
            [.settingGiven, .valueRefused (Setting.switch which).name value]⟩ := by
  have named : Setting.ofName (Setting.switch which).name = .ok (.switch which) :=
    Setting.ofName_eq_ok_iff.mpr rfl
  simp only [perform, Change.ofText, named, Change.ofSetting]
  cases parseSwitch? value <;> rfl

/-- A switch is put in a position exactly if a word for this position stands in the text. -/
theorem perform_set_switch_eq_done_iff (which : Switch) (value : String) (flag : Bool) :
    (situation.perform inspector (.set (Setting.switch which).name value)).value =
        (situation.withSettings (situation.session.settings.setSwitch which flag), .done) ↔
      ∃ word, (word, flag) ∈ switchWords ∧ StandsIn word value := by
  rw [perform_set_switch, ← parseSwitch?_eq_some_iff]
  cases parseSwitch? value with
  | none =>
      constructor
      · intro performed
        cases congrArg Prod.snd performed
      · nofun
  | some other =>
      constructor
      · intro performed
        have settings := congrArg (fun result => result.1.session.settings.getSwitch which)
          performed
        have same : other = flag := by
          cases which <;> exact settings
        rw [same]
      · rintro ⟨⟩
        rfl

theorem perform_set_switch_of_none (which : Switch) {value : String}
    (none : ∀ entry ∈ switchWords, ¬StandsIn entry.1 value) :
    situation.perform inspector (.set (Setting.switch which).name value) =
      ⟨(situation, refusedSwitch which value),
        [.settingGiven, .valueRefused (Setting.switch which).name value]⟩ := by
  rw [perform_set_switch, parseSwitch?_eq_none_iff.mpr none]

/-- A level and a format of log lines are read from the spellings of their words in ASCII letters,
and a switch from those with blanks around them.  A character beyond ASCII stands in none of these
spellings, although one such letter has a small k for its lower-case form.  Every other text is
refused as it was given, and the settings stay. -/
theorem words_are_read_in_any_ascii_case :
    ReadsWords LogLevel.words LogLevel.parse .unknownLevel ∧
      ReadsWords LogFormat.words LogFormat.parse .unknownFormat ∧
      (∀ (situation : Situation) (inspector : Inspector) (which : Switch) (value : String),
        let given := situation.perform inspector (.set (Setting.switch which).name value)
        (∀ flag, given.value =
            (situation.withSettings (situation.session.settings.setSwitch which flag), .done) ↔
          ∃ word, (word, flag) ∈ switchWords ∧ StandsIn word value) ∧
        ((∀ entry ∈ switchWords, ¬StandsIn entry.1 value) →
          given = ⟨(situation, refusedSwitch which value),
            [.settingGiven, .valueRefused (Setting.switch which).name value]⟩)) ∧
      (∀ (text : String), ∀ c ∈ text.toList, ¬Text.IsAscii c →
        LogLevel.parse text = .error (.unknownLevel text) ∧
          LogFormat.parse text = .error (.unknownFormat text)) ∧
      (∀ (value : String), ∀ c ∈ (Text.trim value).toList, ¬Text.IsAscii c →
        ∀ entry ∈ switchWords, ¬StandsIn entry.1 value) ∧
      ∃ letter, ¬Text.IsAscii letter ∧ Text.lower (String.singleton letter) = "k" := by
  refine ⟨LogLevel.readsWords_parse, LogFormat.readsWords_parse, ?_, ?_, ?_, ?_⟩
  · intro situation inspector which value given
    exact ⟨perform_set_switch_eq_done_iff situation inspector which value,
      perform_set_switch_of_none situation inspector which⟩
  · intro text c listed beyond
    exact ⟨LogLevel.readsWords_parse.error_of_not_isAscii LogLevel.isWordTable_words listed beyond,
      LogFormat.readsWords_parse.error_of_not_isAscii LogFormat.isWordTable_words listed beyond⟩
  · intro value c left beyond entry listed
    exact not_standsIn_of_not_isAscii listed left beyond
  · exact ⟨Char.ofNat 0x212a, by decide, by decide +kernel⟩

/-- Blanks around the word of a switch do not count, those around the word for a level do, and a
dotted capital I is no letter of a word.  What is refused is told as it was given. -/
theorem blanks_and_dotted_letters_are_told_apart :
    let situation : Situation := ⟨.fresh .initial plainHighlighter 80, ⟨.initial, .fresh, none⟩, 0⟩
    let inspector := Script.blank.inspector
    let given := fun value =>
      situation.perform inspector (.set (Setting.switch .showFlags).name value)
    let dotted := String.ofList ['\u0130', 'n', 'f', 'o']
    StandsIn "off" "\u3000 oFf\n" ∧
      (given "\u3000 oFf\n").value =
        (situation.withSettings (situation.session.settings.setSwitch .showFlags false), .done) ∧
      (∀ entry ∈ switchWords, ¬StandsIn entry.1 dotted) ∧
      given dotted = ⟨(situation, refusedSwitch .showFlags dotted),
        [.settingGiven, .valueRefused "show-flags" dotted]⟩ ∧
      LogLevel.parse "WaRnInG" = .ok .warn ∧
      LogLevel.parse " warn" = .error (.unknownLevel " warn") ∧
      LogLevel.parse dotted = .error (.unknownLevel dotted) ∧
      LogFormat.parse "JSON" = .ok .json := by
  intro situation inspector given dotted
  obtain ⟨levels, formats, switches, refused, none, -⟩ := words_are_read_in_any_ascii_case
  have stands : StandsIn "off" "\u3000 oFf\n" :=
    ⟨"\u3000 ", "oFf", "\n", rfl, List.all_eq_true.mp (by decide), by decide⟩
  have beyond : ¬Text.IsAscii '\u0130' := by decide
  have left : '\u0130' ∈ (Text.trim dotted).toList := by decide
  have noWord := none dotted '\u0130' left beyond
  obtain ⟨accepts, -⟩ := switches situation inspector .showFlags "\u3000 oFf\n"
  obtain ⟨-, refuses⟩ := switches situation inspector .showFlags dotted
  refine ⟨stands, (accepts false).mpr ⟨"off", by decide, stands⟩, noWord, refuses noWord, ?_, ?_,
    ?_, ?_⟩
  · exact (levels.ok_iff _ _).mpr ⟨"warning", by decide, by decide⟩
  · exact (levels.error_iff _ _).mpr ⟨rfl, by decide⟩
  · exact (refused dotted '\u0130' (by decide) beyond).1
  · exact (formats.ok_iff _ _).mpr ⟨"json", by decide, by decide⟩

end Situation

end StopView
