import Mathlib.Data.List.TakeWhile
import StopView.Proofs.Delivery.Attempt
import StopView.Proofs.Session.Commands
import StopView.Proofs.Session.Notices
import StopView.Proofs.Text.Trim

/-!
# Requests for the same sections

Of a request only the letters count that its tokens begin with, and of the letters only the
sections that they ask for.  `HasLetters` says which letters these are without reference to how
tokens are trimmed.  Two requests for the same sections are one: they deliver the same batches
and leave the same session.  All that tells them apart is one warning for every letter that no
section answers to.
-/

namespace StopView

/-! ## Letters -/

/-- A token begins with a letter, blanks before it apart. -/
def BeginsWith (token : String) (letter : Char) : Prop :=
  ∃ gap rest : List Char, token.toList = gap ++ letter :: rest ∧
    (∀ c ∈ gap, Text.isBlank c = true) ∧ Text.isBlank letter = false

/-- The letters that the tokens of a request begin with.  Blank tokens have none. -/
inductive HasLetters : List String → List Char → Prop
  | none : HasLetters [] []
  | blank {token : String} {rest : List String} {letters : List Char}
      (blank : ∀ c ∈ token.toList, Text.isBlank c = true) (further : HasLetters rest letters) :
      HasLetters (token :: rest) letters
  | letter {token : String} {letter : Char} {rest : List String} {letters : List Char}
      (begins : BeginsWith token letter) (further : HasLetters rest letters) :
      HasLetters (token :: rest) (letter :: letters)

theorem blank_or_beginsWith (token : String) :
    (∀ c ∈ token.toList, Text.isBlank c = true) ∨ ∃ letter, BeginsWith token letter := by
  have split := List.takeWhile_append_dropWhile (p := Text.isBlank) (l := token.toList)
  cases rest : token.toList.dropWhile Text.isBlank with
  | nil => exact .inl (List.dropWhile_eq_nil_iff.mp rest)
  | cons letter others =>
      refine .inr ⟨letter, token.toList.takeWhile Text.isBlank, others, ?_, ?_, ?_⟩
      · rw [← rest, split]
      · exact fun c listed => List.mem_takeWhile_imp listed
      · have first := List.head?_dropWhile_not Text.isBlank token.toList
        rw [rest] at first
        simpa using first

theorem exists_hasLetters (tokens : List String) : ∃ letters, HasLetters tokens letters := by
  induction tokens with
  | nil => exact ⟨[], .none⟩
  | cons token rest ih =>
      obtain ⟨letters, has⟩ := ih
      rcases blank_or_beginsWith token with blank | ⟨letter, begins⟩
      · exact ⟨letters, .blank blank has⟩
      · exact ⟨letter :: letters, .letter begins has⟩

namespace Text

theorem head?_trimEndChars_cons {letter : Char} (solid : isBlank letter = false)
    (rest : List Char) : (trimEndChars (letter :: rest)).head? = some letter := by
  rw [trimEndChars, List.reverse_cons, List.dropWhile_append]
  split
  · simp [solid]
  · simp

/-- Trimming leaves the first letter behind the blanks in front. -/
theorem head?_trimChars_append_cons {gap : List Char} (blank : ∀ c ∈ gap, isBlank c = true)
    {letter : Char} (solid : isBlank letter = false) (rest : List Char) :
    (trimChars (gap ++ letter :: rest)).head? = some letter := by
  rw [trimChars, List.dropWhile_append_of_pos blank,
    List.dropWhile_cons_of_neg (by rw [solid]; exact Bool.false_ne_true)]
  exact head?_trimEndChars_cons solid rest

end Text

/-- The tokens of a request are read as its letters. -/
theorem HasLetters.filterMap_ofToken? {tokens : List String} {letters : List Char}
    (has : HasLetters tokens letters) :
    tokens.filterMap SectionKey.ofToken? = letters.map SectionKey.ofChar := by
  induction has with
  | none => rfl
  | blank blank further ih =>
      rw [List.filterMap_cons, SectionKey.ofToken?, Text.trimChars_eq_nil_iff.mpr blank]
      exact ih
  | letter begins further ih =>
      obtain ⟨gap, rest, shape, blank, solid⟩ := begins
      rw [List.filterMap_cons, SectionKey.ofToken?, shape,
        Text.head?_trimChars_append_cons blank solid, List.map_cons, ← ih]
      rfl

/-! ## Sections of a request -/

theorem World.only_deliverAll (world : World) (batches : List Batch) (clear : Bool) :
    (world.deliverAll batches clear).Only fun notice =>
      ∃ cause, notice = .deliveryFailed cause := by
  intro notice listed
  have failures := Delivery.notices_deliverAll ⟨world, .empty⟩ clear batches
  rw [World.deliverAll, failures] at listed
  obtain ⟨failure, -, rfl⟩ := List.mem_map.mp listed
  exact ⟨failure.2, rfl⟩

namespace Session

/-- The letters that no section answers to. -/
def unknownLetters (letters : List Char) : List Char :=
  letters.filter fun letter => (Section.ofLetter? letter).isNone

/-- Letters are keys for their sections, and a warning each where there is none. -/
theorem sectionsOfKeys_map_ofChar (letters : List Char) :
    sectionsOfKeys (letters.map .ofChar) =
      ⟨firstOccurrences (letters.filterMap Section.ofLetter?),
        (unknownLetters letters).map .sectionUnknown⟩ := by
  have known : SectionKey.part? ∘ SectionKey.ofChar = Section.ofLetter? := by
    funext letter
    rw [Function.comp_apply, SectionKey.ofChar]
    cases Section.ofLetter? letter <;> rfl
  rw [sectionsOfKeys, List.filterMap_map, known]
  congr 1
  induction letters with
  | nil => rfl
  | cons letter rest ih =>
      rw [List.map_cons, List.filterMap_cons, ih, SectionKey.ofChar]
      cases found : Section.ofLetter? letter <;> simp [unknownLetters, found]

/-- A request is for the sections that its letters ask for, by first occurrence, with a warning
for each of the other letters. -/
theorem requestedSections_of_hasLetters (settings : Settings) {tokens : List String}
    (given : tokens ≠ []) {letters : List Char} (has : HasLetters tokens letters)
    {parts : List Section} (seen : FirstSeen (letters.filterMap Section.ofLetter?) parts) :
    requestedSections settings tokens =
      ⟨parts, (unknownLetters letters).map .sectionUnknown⟩ := by
  rw [requestedSections, if_neg (by simpa using given), has.filterMap_ofToken?,
    sectionsOfKeys_map_ofChar, (firstSeen_firstOccurrences _).eq seen]

/-- What is shown of some sections, once the events that wait are recorded. -/
def showSections (inspector : Inspector) (world : World) (polled : Turn Unit)
    (sections : List Section) : Noted (Turn Delivery) := do
  let (lines, session) ← polled.session.renderSections inspector world.files sections
  let batches ←
    assemble session.settings session.palette world.terminal lines session.lifecycle.lines
  let delivery ← world.deliverAll batches session.settings.clearScreen
  return ⟨session, polled.checks, delivery⟩

variable (session : Session) (inspector : Inspector) (world : World)

/-- A refresh looks at its request for the sections only. -/
theorem refresh_eq_showSections (tokens : List String) :
    session.refresh inspector world tokens =
      let polled := session.pollEvents inspector
      let requested := requestedSections session.settings tokens
      let shown := showSections inspector world polled.value requested.value
      ⟨shown.value, polled.notices ++ requested.notices ++ shown.notices⟩ := by
  have noticed : (session.refresh inspector world tokens).notices =
      (session.pollEvents inspector).notices ++
        (requestedSections session.settings tokens).notices ++
        (showSections inspector world (session.pollEvents inspector).value
          (requestedSections session.settings tokens).value).notices := by
    simp only [refresh, compose, showSections, Noted.notices_bind, Noted.value_bind,
      Noted.notices_pure, Noted.value_pure, List.append_nil, List.append_assoc,
      settings_pollEvents]
  exact congrArg (Noted.mk (session.refresh inspector world tokens).value) noticed

theorem value_compose_congr (files : FileSystem) (terminal : Option Path)
    {first second : List String}
    (same : (requestedSections session.settings first).value =
      (requestedSections session.settings second).value) :
    (session.compose inspector files terminal first).value =
      (session.compose inspector files terminal second).value := by
  simp only [compose, Noted.value_bind, settings_pollEvents, same]

theorem only_showSections (polled : Turn Unit) (sections : List Section) :
    (showSections inspector world polled sections).Only fun notice =>
      notice.unknownLetter? = none := by
  apply Noted.Only.bind
  · refine Noted.Only.bind ?_ (Noted.only_pure _)
    exact (Scene.aboutProgram_blocks _ _ _).mono fun _ about => about.unknownLetter?
  apply Noted.Only.bind
  · exact (only_assemble _ _ _ _ _).mono fun _ merged => by rw [merged]; rfl
  · refine Noted.Only.bind ?_ (Noted.only_pure _)
    exact (World.only_deliverAll _ _ _).mono fun _ ⟨_, failed⟩ => by rw [failed]; rfl

theorem value_showSections_nil (polled : Turn Unit) :
    (showSections inspector world polled []).value =
      ⟨polled.session, polled.checks,
        (world.deliverAll [⟨polled.session.settings.output, polled.session.lifecycle.lines⟩]
          polled.session.settings.clearScreen).value⟩ := by
  rcases world with ⟨files, primary, terminal⟩
  cases terminal <;> rfl

/-! ## The main result -/

/-- Every request has letters.  Requests for the same sections, in the order in which they first
ask for them, are one: they compose the same batches, deliver them with the same report and leave
the same session, and the same is noticed, apart from one warning for each letter that no section
answers to, in the order of the tokens.  A request with tokens whose letters ask for no section
shows none, rather than those of the settings.  A request without tokens is the one for the names
of the sections in the settings, also when there are none. -/
theorem refresh_depends_on_sections_of_request :
    (∀ tokens, ∃ letters, HasLetters tokens letters) ∧
    (∀ (first second : List String) (firstLetters secondLetters : List Char)
      (parts : List Section), first ≠ [] → second ≠ [] →
      HasLetters first firstLetters → HasLetters second secondLetters →
      FirstSeen (firstLetters.filterMap Section.ofLetter?) parts →
      FirstSeen (secondLetters.filterMap Section.ofLetter?) parts →
      let refreshed := fun tokens => session.refresh inspector world tokens
      let composed := fun tokens =>
        session.compose inspector world.files world.terminal tokens
      let warnings := fun letters => (unknownLetters letters).map Notice.sectionUnknown
      (composed first).value = (composed second).value ∧
        (refreshed first).value = (refreshed second).value ∧
        ∃ before after : List Notice,
          (∀ notice ∈ before ++ after, notice.unknownLetter? = none) ∧
          (refreshed first).notices = before ++ warnings firstLetters ++ after ∧
          (refreshed second).notices = before ++ warnings secondLetters ++ after) ∧
    (∀ (tokens : List String) (letters : List Char), tokens ≠ [] → HasLetters tokens letters →
      letters.filterMap Section.ofLetter? = [] →
      let polled := (session.pollEvents inspector).value.session
      let turn := (session.refresh inspector world tokens).value
      turn.session = polled ∧
        turn.result =
          (world.deliverAll [⟨session.settings.output, polled.lifecycle.lines⟩]
            session.settings.clearScreen).value) ∧
    session.refresh inspector world (session.settings.sections.map Section.name) =
      session.refresh inspector world [] := by
  constructor
  · exact exists_hasLetters
  constructor
  · intro first second firstLetters secondLetters parts firstGiven secondGiven firstHas secondHas
      firstSeen secondSeen refreshed composed warnings
    let polled := session.pollEvents inspector
    let shown := showSections inspector world polled.value parts
    have shows : ∀ (tokens : List String) (letters : List Char), tokens ≠ [] →
        HasLetters tokens letters → FirstSeen (letters.filterMap Section.ofLetter?) parts →
        refreshed tokens = ⟨shown.value, polled.notices ++ warnings letters ++ shown.notices⟩ := by
      intro tokens letters given has seen
      change session.refresh inspector world tokens = _
      rw [refresh_eq_showSections, requestedSections_of_hasLetters _ given has seen]
    have firstShows := shows first firstLetters firstGiven firstHas firstSeen
    have secondShows := shows second secondLetters secondGiven secondHas secondSeen
    constructor
    · apply session.value_compose_congr
      rw [requestedSections_of_hasLetters _ firstGiven firstHas firstSeen,
        requestedSections_of_hasLetters _ secondGiven secondHas secondSeen]
    constructor
    · rw [firstShows, secondShows]
    · refine ⟨polled.notices, shown.notices, ?_, ?_, ?_⟩
      · intro notice listed
        rcases List.mem_append.mp listed with before | after
        · rw [session.only_pollEvents inspector notice before]
          rfl
        · exact only_showSections inspector world polled.value parts notice after
      · rw [firstShows]
      · rw [secondShows]
  constructor
  · intro tokens letters given has none polled turn
    have seen : FirstSeen (letters.filterMap Section.ofLetter?) [] := by
      rw [none]
      exact firstSeen_firstOccurrences []
    have shows : turn =
        (showSections inspector world (session.pollEvents inspector).value []).value := by
      change (session.refresh inspector world tokens).value = _
      rw [refresh_eq_showSections, requestedSections_of_hasLetters _ given has seen]
    rw [shows, value_showSections_nil]
    exact ⟨rfl, rfl⟩
  · exact session.refresh_names inspector world

/-- Blanks around a token, what follows its first letter, a repetition and letters without a
section make no difference to what is shown.  The letters are warned of, each for itself. -/
theorem blank_and_unknown_tokens_are_passed_over :
    let session := fresh .initial plainHighlighter 12
    let inspector := Script.blank.inspector
    let world : World := ⟨.initial, .fresh, none⟩
    let first := ["  stack", "z", "\t", "regs", "s", "?"]
    let second := ["s9", "r"]
    let refreshed := fun tokens => session.refresh inspector world tokens
    first ≠ [] ∧ second ≠ [] ∧
      HasLetters first ['s', 'z', 'r', 's', '?'] ∧ HasLetters second ['s', 'r'] ∧
      FirstSeen (['s', 'z', 'r', 's', '?'].filterMap Section.ofLetter?) [.stack, .registers] ∧
      FirstSeen (['s', 'r'].filterMap Section.ofLetter?) [.stack, .registers] ∧
      (refreshed first).value = (refreshed second).value ∧
      ((refreshed first).notices.filter fun notice => notice.unknownLetter?.isSome).map
          Notice.text =
        ["Unknown context section: z", "Unknown context section: ?"] := by
  intro session inspector world first second refreshed
  have blanks : ∀ c ∈ [' ', ' '], Text.isBlank c = true := List.all_eq_true.mp (by decide)
  have tab : ∀ c ∈ "\t".toList, Text.isBlank c = true := List.all_eq_true.mp (by decide)
  have none : ∀ c ∈ [], Text.isBlank c = true := List.forall_mem_nil _
  have firstHas : HasLetters first ['s', 'z', 'r', 's', '?'] := by
    refine .letter ⟨[' ', ' '], "tack".toList, rfl, blanks, by decide⟩ ?_
    refine .letter ⟨[], [], rfl, none, by decide⟩ ?_
    refine .blank tab ?_
    refine .letter ⟨[], "egs".toList, rfl, none, by decide⟩ ?_
    refine .letter ⟨[], [], rfl, none, by decide⟩ ?_
    exact .letter ⟨[], [], rfl, none, by decide⟩ .none
  have secondHas : HasLetters second ['s', 'r'] :=
    .letter ⟨[], ['9'], rfl, none, by decide⟩ (.letter ⟨[], [], rfl, none, by decide⟩ .none)
  have firstSeen : FirstSeen (['s', 'z', 'r', 's', '?'].filterMap Section.ofLetter?)
      [.stack, .registers] := firstSeen_firstOccurrences [Section.stack, .registers, .stack]
  have secondSeen : FirstSeen (['s', 'r'].filterMap Section.ofLetter?) [.stack, .registers] :=
    firstSeen_firstOccurrences [Section.stack, .registers]
  obtain ⟨-, requests, -⟩ := session.refresh_depends_on_sections_of_request inspector world
  obtain ⟨-, same, -⟩ := requests first second _ _ _ (by decide) (by decide) firstHas secondHas
    firstSeen secondSeen
  refine ⟨by decide, by decide, firstHas, secondHas, firstSeen, secondSeen, same, ?_⟩
  decide +kernel

end Session

end StopView
