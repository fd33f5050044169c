import StopView.Inspector.Script
import StopView.Proofs.Source.Alike
import StopView.Proofs.Source.Window
import StopView.Proofs.Text.Trim

/-!
# What the code section shows

The code section is a ladder.  It shows the source text around the current line, without that
pseudocode, and without both nothing at all.  What it takes to stand on a step is said here of the
answers of the inspector, the cache and the files, and not of the way in which they are asked.
Two of the answers that may be missing are warned of: a file that cannot be read, and a
decompiler that fails.
-/

namespace StopView

/-- What was warned of, without the details. -/
def Noted.warnings {α : Type} (noted : Noted α) : List Notice :=
  noted.notices.filter fun notice => notice.severity = .warning

/-- Where whatever is warned of is the only thing warned of, there is at most one warning. -/
theorem Noted.exists_warning {α : Type} {noted : Noted α} {told : Notice → Prop}
    (single : ∀ notice, told notice → noted.warnings = [notice])
    (quiet : (∀ notice, ¬told notice) → noted.warnings = []) :
    ∃ warning : Option Notice, noted.warnings = warning.toList ∧
      ∀ notice, warning = some notice ↔ told notice := by
  by_cases silent : ∀ notice, ¬told notice
  · refine ⟨none, quiet silent, ?_⟩
    intro notice
    exact iff_of_false (Option.some_ne_none notice).symm (silent notice)
  · obtain ⟨first, toldFirst⟩ := not_forall_not.mp silent
    refine ⟨some first, single first toldFirst, ?_⟩
    intro notice
    constructor
    · rintro ⟨⟩
      exact toldFirst
    · intro toldNotice
      have same := (single first toldFirst).symm.trans (single notice toldNotice)
      exact congrArg some (List.singleton_inj.mp same)

/-- A window has lines if the file has some and reaches far enough. -/
theorem windowLines_eq_nil_iff (settings : Settings) (palette : Palette) (source : List String)
    (line : Nat) :
    windowLines settings palette source line = [] ↔
      source.length + settings.sourceLines / 2 < line ∨ source = [] := by
  obtain ⟨ordered, inside⟩ := windowBounds_le line source.length settings.sourceLines
  rw [← List.length_eq_zero_iff (l := source), ← windowBounds_empty_iff, windowLines,
    ← List.length_eq_zero_iff, List.length_mapIdx, List.length_drop, List.length_take]
  omega

/-! ## Headings -/

namespace Palette

/-- The codes of styles hold no parenthesis. -/
theorem paren_mem_paint_iff (palette : Palette) (role : Role) (text : String) :
    '(' ∈ (palette.paint role text).toList ↔ '(' ∈ text.toList := by
  have codes : '(' ∉ role.style.opening.toList ∧ '(' ∉ role.style.closing.toList := by
    cases role <;> decide
  rw [paint]
  split
  · simp only [Style.apply, String.toList_append, List.mem_append, codes.1, codes.2, false_or,
      or_false]
  · rfl

theorem paren_not_mem_rule (palette : Palette) (length : Nat) :
    '(' ∉ (palette.rule length).toList := by
  rw [rule, paren_mem_paint_iff, Text.repeated, String.toList_ofList, List.mem_replicate]
  rintro ⟨-, same⟩
  contradiction

theorem paren_mem_banner_iff (palette : Palette) (title : String) :
    '(' ∈ (palette.banner title).toList ↔ '(' ∈ (Text.upper title).toList := by
  have ends : ∀ length, '(' ∉ (palette.rule length).toList := palette.paren_not_mem_rule
  have brackets : '(' ∉ "[ ".toList ∧ '(' ∉ " ]".toList := by decide
  rw [banner]
  split
  · rename_i untitled
    rw [untitled]
    exact iff_of_false (ends _) List.not_mem_nil
  · simp only [String.toList_append, List.mem_append, ends, paren_mem_paint_iff, brackets.1,
      brackets.2, false_or, or_false]

/-- The headings of the two kinds of code differ, whatever the width and the colour. -/
theorem banner_source_ne_banner_pseudocode (palette : Palette) :
    palette.banner "Source (code)" ≠ palette.banner "Decompiled pseudocode" := by
  intro same
  have titles : '(' ∈ (Text.upper "Source (code)").toList ∧
      '(' ∉ (Text.upper "Decompiled pseudocode").toList := by decide +kernel
  apply titles.2
  rw [← paren_mem_banner_iff palette, ← same, paren_mem_banner_iff]
  exact titles.1

end Palette

namespace Scene

variable (scene : Scene)

/-! ## Source text -/

/-- The selected frame is at a location in a source text. -/
def StopsAt (location : SourceLocation) : Prop :=
  ∃ frame, scene.inspector.selectedFrame = .ok frame ∧
    scene.inspector.sourceLocation frame = some location

/-- The question for the file of a location. -/
def fileQuestion (location : SourceLocation) : SourceQuestion :=
  ⟨scene.files, ⟨location.file⟩, scene.settings.syntaxHighlight⟩

/-- The file of the current location is not kept, and reading it gives some lines. -/
structure Reads (sources : SourceCache) (location : SourceLocation) (source : List String) :
    Prop where
  stops : scene.StopsAt location
  absent : sources.find? ⟨location.file⟩ = none
  read : (scene.fileQuestion location).read? scene.highlighter = some source

/-- The file of the current location is not kept, and cannot be read. -/
structure FailsToRead (sources : SourceCache) (location : SourceLocation) (cause : IoFailure) :
    Prop where
  stops : scene.StopsAt location
  absent : sources.find? ⟨location.file⟩ = none
  failed : scene.files.read ⟨location.file⟩ = .error cause

/-- There are source lines around the current one: the file is kept or can be read, and it is
neither empty nor too short. -/
structure HasSource (sources : SourceCache) (location : SourceLocation) (source : List String) :
    Prop where
  stops : scene.StopsAt location
  known : sources.find? ⟨location.file⟩ = some source ∨ scene.Reads sources location source
  filled : source ≠ []
  reached : location.line ≤ source.length + scene.settings.sourceLines / 2

variable {scene} {sources : SourceCache} {location : SourceLocation}

theorem currentLocation?_eq_some_iff :
    scene.currentLocation? = some location ↔ scene.StopsAt location := by
  rw [currentLocation?, Option.bind_eq_some_iff]
  simp only [toOption_eq_some_iff, StopsAt]

theorem StopsAt.unique {other : SourceLocation} (stops : scene.StopsAt location)
    (alsoStops : scene.StopsAt other) : location = other := by
  rw [← currentLocation?_eq_some_iff] at stops alsoStops
  exact Option.some.inj (stops.symm.trans alsoStops)

theorem FailsToRead.not_hasSource {other : SourceLocation} {cause : IoFailure}
    {source : List String} (fails : scene.FailsToRead sources location cause) :
    ¬scene.HasSource sources other source := by
  intro has
  cases fails.stops.unique has.stops
  rcases has.known with found | reads
  · cases fails.absent.symm.trans found
  · have read := reads.read
    rw [SourceQuestion.read?_eq_map, fileQuestion, fails.failed] at read
    cases read

theorem sourceWindow_of_not_stopsAt (nowhere : ∀ location, ¬scene.StopsAt location)
    (sources : SourceCache) : scene.sourceWindow sources = ⟨([], sources), []⟩ := by
  have none : scene.currentLocation? = none := by
    rw [Option.eq_none_iff_forall_ne_some]
    intro location located
    exact nowhere location (currentLocation?_eq_some_iff.mp located)
  rw [sourceWindow, none]
  rfl

theorem sourceWindow_of_find? (stops : scene.StopsAt location) {source : List String}
    (found : sources.find? ⟨location.file⟩ = some source) :
    scene.sourceWindow sources =
      ⟨(windowLines scene.settings scene.palette source location.line, sources), []⟩ := by
  rw [sourceWindow, currentLocation?_eq_some_iff.mpr stops]
  dsimp only
  rw [SourceCache.lines, found]
  rfl

theorem sourceWindow_of_reads {source : List String}
    (reads : scene.Reads sources location source) :
    scene.sourceWindow sources =
      ⟨(windowLines scene.settings scene.palette source location.line,
        sources.insert ⟨location.file⟩ source), [.sourceRead]⟩ := by
  have read := reads.read
  rw [SourceQuestion.read?_eq_map, Option.map_eq_some_iff] at read
  obtain ⟨bytes, readable, rfl⟩ := read
  have readable : scene.files.read ⟨location.file⟩ = .ok bytes :=
    toOption_eq_some_iff.mp readable
  rw [sourceWindow, currentLocation?_eq_some_iff.mpr reads.stops]
  dsimp only
  rw [SourceCache.lines, reads.absent, readable]
  rfl

theorem sourceWindow_of_failsToRead {cause : IoFailure}
    (fails : scene.FailsToRead sources location cause) :
    scene.sourceWindow sources =
      ⟨([], sources), [.sourceUnavailable location.file (.io cause)]⟩ := by
  rw [sourceWindow, currentLocation?_eq_some_iff.mpr fails.stops]
  dsimp only
  rw [SourceCache.lines, fails.absent, fails.failed]
  rfl

variable (scene sources)

/-- There is no location, or the file there is kept, or it is read, or it cannot be read. -/
theorem source_cases :
    (∀ location, ¬scene.StopsAt location) ∨
      ∃ location, scene.StopsAt location ∧
        ((∃ source, sources.find? ⟨location.file⟩ = some source) ∨
          (∃ source, scene.Reads sources location source) ∨
            ∃ cause, scene.FailsToRead sources location cause) := by
  by_cases nowhere : ∀ location, ¬scene.StopsAt location
  · exact .inl nowhere
  · obtain ⟨location, stops⟩ := not_forall_not.mp nowhere
    refine .inr ⟨location, stops, ?_⟩
    cases found : sources.find? ⟨location.file⟩ with
    | some source => exact .inl ⟨source, rfl⟩
    | none =>
        cases read : (scene.fileQuestion location).read? scene.highlighter with
        | some source => exact .inr (.inl ⟨source, stops, found, read⟩)
        | none =>
            obtain ⟨cause, failed⟩ := SourceQuestion.exists_error_of_read?_eq_none read
            exact .inr (.inr ⟨cause, stops, found, failed⟩)

variable {scene sources}

/-- The lines around the current one are the window. -/
theorem sourceWindow_of_hasSource {source : List String}
    (has : scene.HasSource sources location source) :
    (scene.sourceWindow sources).value.1 =
      windowLines scene.settings scene.palette source location.line := by
  rcases has.known with found | reads
  · rw [sourceWindow_of_find? has.stops found]
  · rw [sourceWindow_of_reads reads]

theorem HasSource.windowLines_ne_nil {source : List String}
    (has : scene.HasSource sources location source) :
    windowLines scene.settings scene.palette source location.line ≠ [] := by
  rw [ne_eq, windowLines_eq_nil_iff]
  rintro (short | empty)
  · exact absurd has.reached (Nat.not_le_of_lt short)
  · exact has.filled empty

theorem sourceWindow_eq_nil (none : ∀ location source, ¬scene.HasSource sources location source) :
    (scene.sourceWindow sources).value.1 = [] := by
  have empty : ∀ location source, scene.StopsAt location →
      (sources.find? ⟨location.file⟩ = some source ∨ scene.Reads sources location source) →
        windowLines scene.settings scene.palette source location.line = [] := by
    intro location source stops known
    rw [windowLines_eq_nil_iff]
    by_contra shown
    obtain ⟨reached, filled⟩ := not_or.mp shown
    exact none location source ⟨stops, known, filled, Nat.le_of_not_lt reached⟩
  rcases scene.source_cases sources with
    nowhere | ⟨location, stops, ⟨source, found⟩ | ⟨source, reads⟩ | ⟨cause, fails⟩⟩
  · rw [sourceWindow_of_not_stopsAt nowhere]
  · rw [sourceWindow_of_find? stops found]
    exact empty location source stops (.inl found)
  · rw [sourceWindow_of_reads reads]
    exact empty location source stops (.inr reads)
  · rw [sourceWindow_of_failsToRead fails]

theorem warnings_sourceWindow_of_succeeds
    (succeeds : ∀ location cause, ¬scene.FailsToRead sources location cause) :
    (scene.sourceWindow sources).warnings = [] := by
  rcases scene.source_cases sources with
    nowhere | ⟨location, stops, ⟨source, found⟩ | ⟨source, reads⟩ | ⟨cause, fails⟩⟩
  · rw [sourceWindow_of_not_stopsAt nowhere]
    rfl
  · rw [sourceWindow_of_find? stops found]
    rfl
  · rw [sourceWindow_of_reads reads]
    rfl
  · exact absurd fails (succeeds location cause)

theorem sourcesAfter_of_reads {source : List String}
    (reads : scene.Reads sources location source) :
    scene.sourcesAfter sources = sources.insert ⟨location.file⟩ source := by
  rw [sourcesAfter, sourceWindow_of_reads reads]

theorem sourcesAfter_of_not_reads
    (unread : ∀ location source, ¬scene.Reads sources location source) :
    scene.sourcesAfter sources = sources := by
  rw [sourcesAfter]
  rcases scene.source_cases sources with
    nowhere | ⟨location, stops, ⟨source, found⟩ | ⟨source, reads⟩ | ⟨cause, fails⟩⟩
  · rw [sourceWindow_of_not_stopsAt nowhere]
  · rw [sourceWindow_of_find? stops found]
  · exact absurd reads (unread location source)
  · rw [sourceWindow_of_failsToRead fails]

variable (scene sources)

/-! ## Pseudocode -/

/-- What a decompiler answers for the current instruction, if there is one of each. -/
def Decompiles (pc : Address) (answer : Except Failure (Option String)) : Prop :=
  ∃ decompile, scene.inspector.decompiler = some decompile ∧
    scene.inspector.programCounter = .ok pc ∧
    decompile pc (scene.settings.sourceLines / 2) = answer

/-- There is pseudocode, and it is not blank. -/
structure HasPseudocode (code : String) : Prop where
  answered : ∃ pc, scene.Decompiles pc (.ok (some code))
  filled : ∃ c ∈ code.toList, Text.isBlank c = false

variable {scene sources}

theorem Decompiles.unique {pc other : Address} {answer alsoAnswer : Except Failure (Option String)}
    (decompiles : scene.Decompiles pc answer) (also : scene.Decompiles other alsoAnswer) :
    pc = other ∧ answer = alsoAnswer := by
  obtain ⟨decompile, attached, reads, rfl⟩ := decompiles
  obtain ⟨alsoDecompile, alsoAttached, alsoReads, rfl⟩ := also
  cases attached.symm.trans alsoAttached
  cases reads.symm.trans alsoReads
  exact ⟨rfl, rfl⟩

theorem pseudocodeLines_of_hasPseudocode {code : String} (has : scene.HasPseudocode code) :
    scene.pseudocodeLines =
      ⟨scene.palette.banner "Decompiled pseudocode" :: Text.lines code, []⟩ := by
  obtain ⟨⟨pc, decompile, attached, reads, answered⟩, c, listed, solid⟩ := has
  have filled : (Text.trimChars code.toList).isEmpty = false := by
    rw [← Bool.not_eq_true, List.isEmpty_iff, Text.trimChars_eq_nil_iff]
    intro blank
    rw [blank c listed] at solid
    contradiction
  rw [pseudocodeLines, attached, reads]
  dsimp only
  rw [answered]
  dsimp only
  rw [if_neg (Bool.not_eq_true _ ▸ filled)]
  rfl

theorem pseudocodeLines_of_error {pc : Address} {cause : Failure}
    (fails : scene.Decompiles pc (.error cause)) :
    scene.pseudocodeLines = ⟨[], [.decompilerFailed pc cause]⟩ := by
  obtain ⟨decompile, attached, reads, answered⟩ := fails
  rw [pseudocodeLines, attached, reads]
  dsimp only
  rw [answered]

theorem value_pseudocodeLines_of_none (none : ∀ code, ¬scene.HasPseudocode code) :
    scene.pseudocodeLines.value = [] := by
  rw [pseudocodeLines]
  split
  · rename_i decompile pc attached reads
    cases answered : decompile pc (scene.settings.sourceLines / 2) with
    | error cause => rfl
    | ok answer =>
        cases answer with
        | none => rfl
        | some code =>
            have blank : Text.trimChars code.toList = [] := by
              rw [Text.trimChars_eq_nil_iff]
              intro c listed
              by_contra solid
              exact none code ⟨⟨pc, decompile, attached, reads, answered⟩, c, listed,
                Bool.not_eq_true _ ▸ solid⟩
            dsimp only
            rw [blank]
            rfl
  · rfl

theorem notices_pseudocodeLines_of_succeeds
    (succeeds : ∀ pc cause, ¬scene.Decompiles pc (.error cause)) :
    scene.pseudocodeLines.notices = [] := by
  rw [pseudocodeLines]
  split
  · rename_i decompile pc attached reads
    cases answered : decompile pc (scene.settings.sourceLines / 2) with
    | error cause => exact absurd ⟨decompile, attached, reads, answered⟩ (succeeds pc cause)
    | ok answer => cases answer <;> rfl
  · rfl

/-! ## The choice -/

theorem codeBlock_of_hasSource {memory : ViewMemory} {source : List String}
    (has : scene.HasSource memory.sources location source) :
    scene.codeBlock memory =
      ⟨⟨scene.sourceHeading location ++
          windowLines scene.settings scene.palette source location.line,
        { memory with sources := scene.sourcesAfter memory.sources }⟩,
        (scene.sourceWindow memory.sources).notices⟩ := by
  have shown := sourceWindow_of_hasSource has
  have filled := has.windowLines_ne_nil
  rw [← shown] at filled ⊢
  rw [codeBlock, currentLocation?_eq_some_iff.mpr has.stops, sourcesAfter]
  generalize scene.sourceWindow memory.sources = window at filled ⊢
  obtain ⟨⟨lines, after⟩, notices⟩ := window
  cases lines with
  | nil => contradiction
  | cons first rest => exact congrArg (Noted.mk _) (List.append_nil notices)

theorem codeBlock_of_not_hasSource {memory : ViewMemory}
    (none : ∀ location source, ¬scene.HasSource memory.sources location source) :
    scene.codeBlock memory =
      ⟨⟨scene.pseudocodeLines.value,
        { memory with sources := scene.sourcesAfter memory.sources }⟩,
        (scene.sourceWindow memory.sources).notices ++ scene.pseudocodeLines.notices⟩ := by
  have empty := sourceWindow_eq_nil none
  have noMore := List.append_nil scene.pseudocodeLines.notices
  rw [codeBlock, sourcesAfter]
  generalize scene.sourceWindow memory.sources = window at empty ⊢
  obtain ⟨⟨lines, after⟩, notices⟩ := window
  cases empty
  cases scene.currentLocation? with
  | none => exact congrArg (fun more => Noted.mk _ (notices ++ more)) noMore
  | some location => exact congrArg (fun more => Noted.mk _ (notices ++ more)) noMore

variable (scene sources) (memory : ViewMemory)

/-- The code section has source lines, or pseudocode, or nothing. -/
theorem lines_codeBlock_cases :
    (∃ location source, scene.HasSource memory.sources location source ∧
        (scene.codeBlock memory).value.lines = scene.sourceHeading location ++
          windowLines scene.settings scene.palette source location.line) ∨
      (¬∃ location source, scene.HasSource memory.sources location source) ∧
        ((∃ code, scene.HasPseudocode code ∧ (scene.codeBlock memory).value.lines =
            scene.palette.banner "Decompiled pseudocode" :: Text.lines code) ∨
          (¬∃ code, scene.HasPseudocode code) ∧ (scene.codeBlock memory).value.lines = []) := by
  by_cases hasSource : ∃ location source, scene.HasSource memory.sources location source
  · obtain ⟨location, source, has⟩ := hasSource
    exact .inl ⟨location, source, has, by rw [codeBlock_of_hasSource has]⟩
  · refine .inr ⟨hasSource, ?_⟩
    rw [codeBlock_of_not_hasSource (fun location source has => hasSource ⟨location, source, has⟩)]
    by_cases hasPseudocode : ∃ code, scene.HasPseudocode code
    · obtain ⟨code, has⟩ := hasPseudocode
      exact .inl ⟨code, has, by rw [pseudocodeLines_of_hasPseudocode has]⟩
    · refine .inr ⟨hasPseudocode, value_pseudocodeLines_of_none ?_⟩
      exact fun code has => hasPseudocode ⟨code, has⟩

/-- The heading tells which of the two is shown. -/
theorem head?_lines_codeBlock :
    ((scene.codeBlock memory).value.lines.head? = some (scene.palette.banner "Source (code)") ↔
        ∃ location source, scene.HasSource memory.sources location source) ∧
      ((scene.codeBlock memory).value.lines.head? =
          some (scene.palette.banner "Decompiled pseudocode") ↔
        (¬∃ location source, scene.HasSource memory.sources location source) ∧
          ∃ code, scene.HasPseudocode code) := by
  have apart := scene.palette.banner_source_ne_banner_pseudocode
  rcases scene.lines_codeBlock_cases memory with
    ⟨location, source, has, lines⟩ | ⟨noSource, ⟨code, has, lines⟩ | ⟨noPseudocode, lines⟩⟩
  · have hasSource : ∃ location source, scene.HasSource memory.sources location source :=
      ⟨location, source, has⟩
    rw [lines]
    exact ⟨iff_of_true rfl hasSource,
      iff_of_false (fun same => apart (Option.some.inj same)) fun both => both.1 hasSource⟩
  · rw [lines]
    exact ⟨iff_of_false (fun same => apart (Option.some.inj same).symm) noSource,
      iff_of_true rfl ⟨noSource, code, has⟩⟩
  · rw [lines]
    exact ⟨iff_of_false nofun noSource, iff_of_false nofun fun both => noPseudocode both.2⟩

/-- Without both the section has no heading either. -/
theorem lines_codeBlock_eq_nil_iff :
    (scene.codeBlock memory).value.lines = [] ↔
      (¬∃ location source, scene.HasSource memory.sources location source) ∧
        ¬∃ code, scene.HasPseudocode code := by
  rcases scene.lines_codeBlock_cases memory with
    ⟨location, source, has, lines⟩ | ⟨noSource, ⟨code, has, lines⟩ | ⟨noPseudocode, lines⟩⟩
  · rw [lines]
    exact iff_of_false nofun fun both => both.1 ⟨location, source, has⟩
  · rw [lines]
    exact iff_of_false nofun fun both => both.2 ⟨code, has⟩
  · exact iff_of_true lines ⟨noSource, noPseudocode⟩

/-- A file that cannot be read is warned of, and nothing else on the way to the window. -/
theorem exists_warning_sourceWindow :
    ∃ ofFile : Option Notice, (scene.sourceWindow sources).warnings = ofFile.toList ∧
      ∀ notice, ofFile = some notice ↔ ∃ location cause,
        scene.FailsToRead sources location cause ∧
          notice = .sourceUnavailable location.file (.io cause) := by
  apply Noted.exists_warning
  · rintro notice ⟨location, cause, fails, rfl⟩
    rw [sourceWindow_of_failsToRead fails]
    rfl
  · intro none
    apply warnings_sourceWindow_of_succeeds
    intro location cause fails
    exact none _ ⟨location, cause, fails, rfl⟩

/-- A decompiler that fails is warned of, and nothing else on the way to pseudocode. -/
theorem exists_warning_pseudocodeLines :
    ∃ ofDecompiler : Option Notice, scene.pseudocodeLines.warnings = ofDecompiler.toList ∧
      ∀ notice, ofDecompiler = some notice ↔ ∃ pc cause,
        scene.Decompiles pc (.error cause) ∧ notice = .decompilerFailed pc cause := by
  apply Noted.exists_warning
  · rintro notice ⟨pc, cause, fails, rfl⟩
    rw [pseudocodeLines_of_error fails]
    rfl
  · intro none
    have quiet : scene.pseudocodeLines.notices = [] := by
      apply notices_pseudocodeLines_of_succeeds
      intro pc cause fails
      exact none _ ⟨pc, cause, fails, rfl⟩
    rw [Noted.warnings, quiet]
    rfl

/-- The code section warns of a file that cannot be read and, if no source lines are shown, of a
decompiler that fails. -/
theorem exists_warnings_codeBlock :
    ∃ ofFile ofDecompiler : Option Notice,
      (scene.codeBlock memory).warnings = ofFile.toList ++ ofDecompiler.toList ∧
        (∀ notice, ofFile = some notice ↔ ∃ location cause,
          scene.FailsToRead memory.sources location cause ∧
            notice = .sourceUnavailable location.file (.io cause)) ∧
        ∀ notice, ofDecompiler = some notice ↔
          (¬∃ location source, scene.HasSource memory.sources location source) ∧
            ∃ pc cause, scene.Decompiles pc (.error cause) ∧
              notice = .decompilerFailed pc cause := by
  obtain ⟨ofFile, warnings, told⟩ := scene.exists_warning_sourceWindow memory.sources
  by_cases hasSource : ∃ location source, scene.HasSource memory.sources location source
  · obtain ⟨location, source, has⟩ := hasSource
    refine ⟨ofFile, none, ?_, told, ?_⟩
    · rw [codeBlock_of_hasSource has, Option.toList_none, List.append_nil]
      exact warnings
    · intro notice
      exact iff_of_false nofun fun both => both.1 ⟨location, source, has⟩
  · obtain ⟨ofDecompiler, more, alsoTold⟩ := scene.exists_warning_pseudocodeLines
    refine ⟨ofFile, ofDecompiler, ?_, told, ?_⟩
    · rw [codeBlock_of_not_hasSource
        (fun location source has => hasSource ⟨location, source, has⟩), Noted.warnings,
        List.filter_append, ← more, ← warnings]
      rfl
    · intro notice
      rw [alsoTold, and_iff_right hasSource]

/-- The code section shows source lines under their headings if there are any, otherwise all lines
of the pseudocode if there is some, and otherwise nothing; each of the three exactly then.  A file
that was read for it is kept in any case, one that could not be read is not, and the cache is
otherwise as before.  It warns of that file, and, where it comes to ask for pseudocode, of a
decompiler that fails. -/
theorem code_is_source_or_pseudocode_or_nothing :
    let block := scene.block .code memory
    let lines := block.value.lines
    let kept := block.value.memory.sources
    let hasSource := ∃ location source, scene.HasSource memory.sources location source
    let hasPseudocode := ∃ code, scene.HasPseudocode code
    ((lines.head? = some (scene.palette.banner "Source (code)") ↔ hasSource) ∧
      (lines.head? = some (scene.palette.banner "Decompiled pseudocode") ↔
        ¬hasSource ∧ hasPseudocode) ∧
      (lines = [] ↔ ¬hasSource ∧ ¬hasPseudocode)) ∧
      (∀ location source, scene.HasSource memory.sources location source →
        let window := windowLines scene.settings scene.palette source location.line
        window ≠ [] ∧
          lines = scene.palette.banner "Source (code)" :: ("In file: " ++ location.file) ::
            window) ∧
      (∀ code, ¬hasSource → scene.HasPseudocode code →
        lines = scene.palette.banner "Decompiled pseudocode" :: Text.lines code) ∧
      (block.value.memory.snapshot = memory.snapshot ∧
        (∀ location source, scene.Reads memory.sources location source →
          kept = memory.sources.insert ⟨location.file⟩ source ∧
            kept.find? ⟨location.file⟩ = some source) ∧
        ((∀ location source, ¬scene.Reads memory.sources location source) →
          kept = memory.sources) ∧
        ∀ location cause, scene.FailsToRead memory.sources location cause →
          kept.find? ⟨location.file⟩ = none) ∧
      ∃ ofFile ofDecompiler : Option Notice,
        block.warnings = ofFile.toList ++ ofDecompiler.toList ∧
          (∀ notice, ofFile = some notice ↔ ∃ location cause,
            scene.FailsToRead memory.sources location cause ∧
              notice = .sourceUnavailable location.file (.io cause)) ∧
          ∀ notice, ofDecompiler = some notice ↔ ¬hasSource ∧
            ∃ pc cause, scene.Decompiles pc (.error cause) ∧
              notice = .decompilerFailed pc cause := by
  intro block lines kept hasSource hasPseudocode
  have cache : kept = scene.sourcesAfter memory.sources := scene.sources_codeBlock memory
  obtain ⟨source, pseudocode⟩ := scene.head?_lines_codeBlock memory
  refine ⟨⟨source, pseudocode, scene.lines_codeBlock_eq_nil_iff memory⟩, ?_, ?_, ⟨?_, ?_, ?_, ?_⟩,
    scene.exists_warnings_codeBlock memory⟩
  · intro location source has window
    refine ⟨has.windowLines_ne_nil, ?_⟩
    change (scene.codeBlock memory).value.lines = _
    rw [codeBlock_of_hasSource has]
    rfl
  · intro code noSource has
    change (scene.codeBlock memory).value.lines = _
    rw [codeBlock_of_not_hasSource (fun location source has => noSource ⟨location, source, has⟩),
      pseudocodeLines_of_hasPseudocode has]
  · exact scene.snapshot_codeBlock memory
  · intro location source reads
    have found : (memory.sources.insert ⟨location.file⟩ source).find? ⟨location.file⟩ =
        some source := by
      rw [SourceCache.find?_insert reads.absent, if_pos (Path.Same.refl _)]
    rw [cache, sourcesAfter_of_reads reads]
    exact ⟨rfl, found⟩
  · intro unread
    rw [cache, sourcesAfter_of_not_reads unread]
  · intro location cause fails
    rw [cache, sourcesAfter, sourceWindow_of_failsToRead fails]
    exact fails.absent

/-- A file of three lines has a window of ten lines around its eighth line, and none around its
ninth.  Without the file a decompiler that fails leaves nothing, and two warnings. -/
theorem window_reaches_half_its_size_beyond_the_file :
    let scene := fun line decompiler =>
      let frame : ScriptFrame := ⟨none, .chainEnd, .chainEnd, some ⟨"main.c", line⟩⟩
      let script := { Script.blank with
        registers := [("rip", 0x1000)], frames := [(⟨0⟩, frame)], selected := some ⟨0⟩,
        decompiler := some decompiler }
      (⟨script.inspector, .initial, ⟨false, 20⟩, .initial, plainHighlighter⟩ : Scene)
    let kept : ViewMemory := ⟨.empty, SourceCache.empty.insert ⟨"main.c"⟩ ["a", "b", "c"]⟩
    let shown := fun line decompiler memory => (scene line decompiler).block .code memory
    let palette : Palette := ⟨false, 20⟩
    (shown 8 (.code "x\ny") kept).value.lines =
        [palette.banner "Source (code)", "In file: main.c", "   3 c"] ∧
      (shown 9 (.code "x\ny") kept).value.lines =
        [palette.banner "Decompiled pseudocode", "x", "y"] ∧
      (shown 8 .failing .empty).value.lines = [] ∧
      (shown 8 .failing .empty).warnings =
        [.sourceUnavailable "main.c" (.io (.os .notFound)),
          .decompilerFailed ⟨0x1000⟩ (.backend "decompiler crashed")] := by
  intro scene kept shown palette
  have stops : ∀ line decompiler, (scene line decompiler).StopsAt ⟨"main.c", line⟩ :=
    fun _ _ => ⟨⟨0⟩, rfl, rfl⟩
  refine ⟨?_, ?_, ?_⟩
  · have has : (scene 8 (.code "x\ny")).HasSource kept.sources ⟨"main.c", 8⟩ ["a", "b", "c"] :=
      ⟨stops _ _, .inl rfl, by decide, by decide⟩
    obtain ⟨-, source, -⟩ := (scene 8 (.code "x\ny")).code_is_source_or_pseudocode_or_nothing kept
    refine (source _ _ has).2.trans ?_
    decide +kernel
  · have noSource : ¬∃ location source,
        (scene 9 (.code "x\ny")).HasSource kept.sources location source := by
      rintro ⟨location, source, has⟩
      cases (stops 9 _).unique has.stops
      rcases has.known with found | reads
      · cases found
        exact absurd has.reached (by decide)
      · exact nomatch reads.absent
    have has : (scene 9 (.code "x\ny")).HasPseudocode "x\ny" :=
      ⟨⟨⟨0x1000⟩, _, rfl, rfl, rfl⟩, 'x', by decide, by decide⟩
    obtain ⟨-, -, pseudocode, -⟩ :=
      (scene 9 (.code "x\ny")).code_is_source_or_pseudocode_or_nothing kept
    refine (pseudocode _ noSource has).trans ?_
    decide +kernel
  · have fails : (scene 8 .failing).FailsToRead ViewMemory.empty.sources ⟨"main.c", 8⟩
        (.os .notFound) := ⟨stops _ _, rfl, by decide +kernel⟩
    have crashes : (scene 8 .failing).Decompiles ⟨0x1000⟩
        (.error (.backend "decompiler crashed")) := ⟨_, rfl, rfl, rfl⟩
    have noSource : ¬∃ location source,
        (scene 8 .failing).HasSource ViewMemory.empty.sources location source := by
      rintro ⟨location, source, has⟩
      exact fails.not_hasSource has
    have noPseudocode : ¬∃ code, (scene 8 .failing).HasPseudocode code := by
      rintro ⟨code, ⟨pc, answered⟩, -⟩
      exact nomatch (crashes.unique answered).2
    obtain ⟨⟨-, -, nothing⟩, -, -, -, ofFile, ofDecompiler, warnings, file, decompiler⟩ :=
      (scene 8 .failing).code_is_source_or_pseudocode_or_nothing .empty
    have first := (file _).mpr ⟨_, _, fails, rfl⟩
    have second := (decompiler _).mpr ⟨noSource, _, _, crashes, rfl⟩
    refine ⟨nothing.mpr ⟨noSource, noPseudocode⟩, warnings.trans ?_⟩
    rw [first, second]
    rfl

end Scene

end StopView
