import StopView.Proofs.Text.Escape
import StopView.Source.Cache

/-!
# What a source cache keeps

A question for a file is answered from the cache if any spelling of the path has been answered
before, and otherwise by reading the file.  What was read is kept, so that the cache afterwards
finds what it found before and, under every spelling of this path, the lines just read; a file
that cannot be read changes nothing.  Kept lines hold no line feed and end in no blank.
-/

namespace StopView

/-! ## Lines -/

namespace Text

/-- A line without a line feed in it and without a blank at its end. -/
structure Trimmed (line : String) : Prop where
  oneLine : '\n' ∉ line.toList
  noBlank : ∀ last, line.toList.getLast? = some last → isBlank last = false

theorem lineFeed_not_mem_of_mem_lines {text line : String} (listed : line ∈ lines text) :
    '\n' ∉ line.toList := by
  obtain ⟨chars, charsMem, rfl⟩ := List.mem_map.mp listed
  obtain ⟨piece, pieceMem, part⟩ := exists_subset_of_mem_linesOfPieces charsMem
  rw [String.toList_ofList]
  intro there
  have cut := cut_eq_false_of_mem_pieces pieceMem (part there)
  contradiction

theorem isBlank_getLast_trimEnd {text : String} {last : Char}
    (ends : (trimEnd text).toList.getLast? = some last) : isBlank last = false := by
  rw [toList_trimEnd, trimEndChars, List.getLast?_reverse] at ends
  have first := List.head?_dropWhile_not isBlank text.toList.reverse
  rw [ends] at first
  simpa using first

end Text

namespace SourceCache

/-- The lines that are kept of a text are trimmed. -/
theorem trimmed_linesOfText {text line : String} (listed : line ∈ linesOfText text) :
    Text.Trimmed line := by
  obtain ⟨whole, wholeMem, rfl⟩ := List.mem_map.mp listed
  constructor
  · rw [Text.toList_trimEnd]
    exact fun there => Text.lineFeed_not_mem_of_mem_lines wholeMem
      (Text.trimEndChars_subset whole.toList there)
  · exact fun last => Text.isBlank_getLast_trimEnd

variable {cache : SourceCache}

/-! ## Looking up -/

theorem find?_congr {path other : Path} (same : Path.Same path other) :
    cache.find? path = cache.find? other := by
  rw [find?, find?]
  congr 2
  funext item
  exact decide_eq_decide.mpr ⟨fun found => found.trans same, fun found => found.trans same.symm⟩

/-- What is not found was never kept under any spelling. -/
theorem not_same_of_find?_eq_none {path : Path} (absent : cache.find? path = none) :
    ∀ item ∈ cache.files, ¬Path.Same item.1 path := by
  intro item listed
  have none := List.find?_eq_none.mp (Option.map_eq_none_iff.mp absent) item listed
  simpa using none

end SourceCache

/-! ## One question -/

/-- A question to a source cache: the files as they are, the spelling of the path, and whether
the text is to be highlighted. -/
structure SourceQuestion where
  files : FileSystem
  path : Path
  highlight : Bool

namespace SourceQuestion

/-- The lines that reading the file gives: those of its text, highlighted under this spelling
if that is asked for, each without blanks at its end. -/
def read? (question : SourceQuestion) (highlighter : Highlighter) : Option (List String) :=
  match question.files.read question.path with
  | .ok bytes =>
      let text := Text.decodeLossy bytes
      let shown := if question.highlight then highlighter text question.path else text
      some ((Text.lines shown).map Text.trimEnd)
  | .error _ => none

/-- The cache's answer to a question. -/
def answer (question : SourceQuestion) (cache : SourceCache) (highlighter : Highlighter) :
    CacheAnswer :=
  (cache.lines question.files highlighter question.path question.highlight).value

variable {question : SourceQuestion} {cache : SourceCache} {highlighter : Highlighter}

theorem answer_of_find?_eq_some {lines : List String}
    (found : cache.find? question.path = some lines) :
    question.answer cache highlighter = ⟨.ok lines, cache⟩ := by
  rw [answer, SourceCache.lines, found]
  rfl

theorem answer_of_error (absent : cache.find? question.path = none) {cause : IoFailure}
    (failed : question.files.read question.path = .error cause) :
    question.answer cache highlighter = ⟨.error (.io cause), cache⟩ := by
  rw [answer, SourceCache.lines, absent, failed]
  rfl

theorem answer_of_read? (absent : cache.find? question.path = none) {lines : List String}
    (read : question.read? highlighter = some lines) :
    question.answer cache highlighter = ⟨.ok lines, cache.insert question.path lines⟩ := by
  rw [read?] at read
  rw [answer, SourceCache.lines, absent]
  cases content : question.files.read question.path with
  | error cause =>
      rw [content] at read
      contradiction
  | ok bytes =>
      rw [content] at read
      cases read
      rfl

/-- Without an answer by reading there is a reason. -/
theorem exists_error_of_read?_eq_none (failed : question.read? highlighter = none) :
    ∃ cause, question.files.read question.path = .error cause := by
  rw [read?] at failed
  cases content : question.files.read question.path with
  | error cause => exact ⟨cause, rfl⟩
  | ok bytes =>
      rw [content] at failed
      contradiction

theorem trimmed_of_read? {lines : List String} (read : question.read? highlighter = some lines) :
    ∀ line ∈ lines, Text.Trimmed line := by
  rw [read?] at read
  cases content : question.files.read question.path with
  | error cause =>
      rw [content] at read
      contradiction
  | ok bytes =>
      rw [content] at read
      cases read
      exact fun line => SourceCache.trimmed_linesOfText

variable (question cache highlighter)

/-- A question is answered from the cache, from the file, or not at all. -/
theorem answer_cases :
    (∃ lines, cache.find? question.path = some lines ∧
        question.answer cache highlighter = ⟨.ok lines, cache⟩) ∨
      cache.find? question.path = none ∧
        ((∃ lines, question.read? highlighter = some lines ∧
            question.answer cache highlighter =
              ⟨.ok lines, cache.insert question.path lines⟩) ∨
          question.read? highlighter = none ∧
            ∃ cause, question.files.read question.path = .error cause ∧
              question.answer cache highlighter = ⟨.error (.io cause), cache⟩) := by
  cases found : cache.find? question.path with
  | some lines => exact .inl ⟨lines, rfl, answer_of_find?_eq_some found⟩
  | none =>
      apply Or.inr
      apply And.intro rfl
      cases read : question.read? highlighter with
      | some lines => exact .inl ⟨lines, rfl, answer_of_read? found read⟩
      | none =>
          obtain ⟨cause, failed⟩ := exists_error_of_read?_eq_none read
          exact .inr ⟨rfl, cause, failed, answer_of_error found failed⟩

/-- After a question the cache finds what it found before, and otherwise what was read for the
same path. -/
theorem find?_answer (path : Path) :
    (question.answer cache highlighter).cache.find? path =
      (cache.find? path).or
        (if Path.Same question.path path then question.read? highlighter else none) := by
  rcases question.answer_cases cache highlighter with
    ⟨lines, found, answered⟩ | ⟨absent, ⟨lines, read, answered⟩ | ⟨unread, cause, _, answered⟩⟩
  · rw [answered]
    by_cases same : Path.Same question.path path
    · rw [← SourceCache.find?_congr same, found]
      rfl
    · rw [if_neg same, Option.or_none]
  · rw [answered, SourceCache.find?_insert absent, read]
    by_cases same : Path.Same question.path path
    · rw [if_pos same, if_pos same, ← SourceCache.find?_congr same, absent]
      rfl
    · rw [if_neg same, if_neg same, Option.or_none]
  · rw [answered, unread, ite_self, Option.or_none]

/-- A question that is asked again changes nothing more. -/
theorem cache_answer_again :
    (question.answer (question.answer cache highlighter).cache highlighter).cache =
      (question.answer cache highlighter).cache := by
  rcases question.answer_cases cache highlighter with
    ⟨lines, found, answered⟩ | ⟨absent, ⟨lines, read, answered⟩ | ⟨unread, cause, _, answered⟩⟩
  · rw [answered, answered]
  · have kept : (cache.insert question.path lines).find? question.path = some lines := by
      rw [SourceCache.find?_insert absent, if_pos (Path.Same.refl _)]
    rw [answered, answer_of_find?_eq_some kept]
  · rw [answered, answered]

end SourceQuestion

end StopView
