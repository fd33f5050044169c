import StopView.Proofs.Section.Colour
import StopView.Proofs.Session.Deliveries
import StopView.Proofs.Source.Kept

/-!
# Source files over a whole run

A source cache is asked for files, directly or by a view of the code, and forgets everything
when it is reset.  In between files may change and highlighting may be switched.  What the
cache finds for a path is what the first successful reading gave that was made for it, under
any spelling, since the latest reset.  The cache of a session is used by the views that show
the code and reset when the session starts or ends, and by nothing else.
-/

namespace StopView

/-- The question that a scene asks: for the file of its current location. -/
def Scene.question? (scene : Scene) : Option SourceQuestion :=
  scene.currentLocation?.map fun location =>
    ⟨scene.files, ⟨location.file⟩, scene.settings.syntaxHighlight⟩

/-- What is done with a source cache: it is asked, a scene's code is viewed, or it is reset. -/
inductive SourceUse where
  | ask (question : SourceQuestion)
  | view (scene : Scene)
  | reset

/-- The cache after one use. -/
def SourceCache.use (highlighter : Highlighter) (cache : SourceCache) : SourceUse → SourceCache
  | .ask question => (question.answer cache highlighter).cache
  | .view scene => { scene with highlighter }.sourcesAfter cache
  | .reset => .empty

/-- The code section when a question for a file is answered in some way: the window of the
lines that are answered, if there are any, and otherwise pseudocode. -/
def Scene.codeLines (scene : Scene) (answered : SourceQuestion → Except Failure (List String)) :
    List String :=
  match scene.currentLocation? with
  | none => scene.pseudocodeLines.value
  | some location =>
      match answered ⟨scene.files, ⟨location.file⟩, scene.settings.syntaxHighlight⟩ with
      | .error _ => scene.pseudocodeLines.value
      | .ok source =>
          let window := windowLines scene.settings scene.palette source location.line
          if window.isEmpty then scene.pseudocodeLines.value
          else scene.sourceHeading location ++ window

theorem Scene.lines_codeBlock_eq_codeLines (scene : Scene) (memory : ViewMemory) :
    (scene.codeBlock memory).value.lines =
      scene.codeLines fun question =>
        (question.answer memory.sources scene.highlighter).lines := by
  rw [lines_codeBlock, codeLines, value_sourceWindow]
  cases scene.currentLocation? with
  | none => rfl
  | some location =>
      dsimp only [sourceAnswer, SourceQuestion.answer]
      generalize (memory.sources.lines scene.files scene.highlighter ⟨location.file⟩
        scene.settings.syntaxHighlight).value.lines = answer
      cases answer <;> rfl

/-! ## The account of the past -/

/-- The questions since the latest reset, after one more use. -/
def SourceUse.askedAfter (asked : List SourceQuestion) : SourceUse → List SourceQuestion
  | .ask question => asked ++ [question]
  | .view scene => asked ++ scene.question?.toList
  | .reset => []

/-- The questions since the latest reset. -/
def askedSinceReset (uses : List SourceUse) : List SourceQuestion :=
  uses.foldl SourceUse.askedAfter []

/-- The lines of the first of several questions for a path, under any spelling, that can be
answered by reading. -/
def firstRead? (highlighter : Highlighter) (asked : List SourceQuestion) (path : Path) :
    Option (List String) :=
  (asked.filter fun question => Path.Same question.path path).findSome? fun question =>
    question.read? highlighter

/-- A further question matters if there was no answer yet and it is for the same path. -/
theorem firstRead?_concat (highlighter : Highlighter) (asked : List SourceQuestion)
    (question : SourceQuestion) (path : Path) :
    firstRead? highlighter (asked ++ [question]) path =
      (firstRead? highlighter asked path).or
        (if Path.Same question.path path then question.read? highlighter else none) := by
  rw [firstRead?, firstRead?, List.filter_append, List.findSome?_append]
  congr 1
  by_cases same : Path.Same question.path path
  · rw [List.filter_cons_of_pos (by simpa using same), if_pos same]
    simp
  · rw [List.filter_cons_of_neg (by simpa using same), if_neg same]
    rfl

/-! ## The invariant -/

namespace SourceCache

/-- A cache holds what some questions were answered with: it finds the first reading for each
path, has each path once, and its lines are trimmed. -/
structure Holds (highlighter : Highlighter) (asked : List SourceQuestion) (cache : SourceCache) :
    Prop where
  found : ∀ path, cache.find? path = firstRead? highlighter asked path
  apart : cache.files.Pairwise fun left right => ¬Path.Same left.1 right.1
  trimmed : ∀ item ∈ cache.files, ∀ line ∈ item.2, Text.Trimmed line

theorem holds_empty (highlighter : Highlighter) : Holds highlighter [] .empty where
  found _ := rfl
  apart := .nil
  trimmed _ listed := nomatch listed

variable {highlighter : Highlighter} {asked : List SourceQuestion} {cache : SourceCache}

theorem pairwise_insert {path : Path} {lines : List String} (absent : cache.find? path = none)
    (apart : cache.files.Pairwise fun left right => ¬Path.Same left.1 right.1) :
    (cache.insert path lines).files.Pairwise fun left right => ¬Path.Same left.1 right.1 := by
  apply List.pairwise_append.mpr
  apply And.intro apart
  apply And.intro (List.pairwise_singleton _ _)
  intro item listed last lastMem
  rw [List.mem_singleton.mp lastMem]
  exact not_same_of_find?_eq_none absent item listed

theorem holds_answer (now : cache.Holds highlighter asked) (question : SourceQuestion) :
    (question.answer cache highlighter).cache.Holds highlighter (asked ++ [question]) where
  found path := by
    rw [question.find?_answer cache highlighter path, firstRead?_concat, now.found]
  apart := by
    -- Only a file that was not found and could be read brings in an entry.
    rcases question.answer_cases cache highlighter with
      ⟨_, _, answered⟩ | ⟨absent, ⟨_, _, answered⟩ | ⟨_, _, _, answered⟩⟩ <;> rw [answered]
    · exact now.apart
    · exact pairwise_insert absent now.apart
    · exact now.apart
  trimmed := by
    rcases question.answer_cases cache highlighter with
      ⟨_, _, answered⟩ | ⟨_, ⟨_, read, answered⟩ | ⟨_, _, _, answered⟩⟩ <;> rw [answered]
    · exact now.trimmed
    · intro item listed
      rcases List.mem_append.mp listed with earlier | last
      · exact now.trimmed item earlier
      · rw [List.mem_singleton.mp last]
        exact SourceQuestion.trimmed_of_read? read
    · exact now.trimmed

theorem use_view (highlighter : Highlighter) (cache : SourceCache) (scene : Scene) :
    cache.use highlighter (.view scene) =
      match scene.question? with
      | some question => (question.answer cache highlighter).cache
      | none => cache := by
  have located : { scene with highlighter }.currentLocation? = scene.currentLocation? := rfl
  rw [use, Scene.sourcesAfter, Scene.value_sourceWindow, located, Scene.question?]
  cases scene.currentLocation? with
  | none => rfl
  | some location => rfl

/-- A view of the code that comes a second time changes nothing more. -/
theorem use_view_again (highlighter : Highlighter) (cache : SourceCache) (scene : Scene) :
    (cache.use highlighter (.view scene)).use highlighter (.view scene) =
      cache.use highlighter (.view scene) := by
  rw [use_view, use_view]
  cases scene.question? with
  | none => rfl
  | some question => exact question.cache_answer_again cache highlighter

theorem holds_use (now : cache.Holds highlighter asked) (use : SourceUse) :
    (cache.use highlighter use).Holds highlighter (use.askedAfter asked) := by
  cases use with
  | ask question => exact holds_answer now question
  | reset => exact holds_empty highlighter
  | view scene =>
      rw [use_view, SourceUse.askedAfter]
      cases scene.question? with
      | none =>
          rw [Option.toList_none, List.append_nil]
          exact now
      | some question => exact holds_answer now question

/-- A cache holds what it was asked for since it was reset. -/
theorem holds_uses (highlighter : Highlighter) (uses : List SourceUse) :
    (uses.foldl (SourceCache.use highlighter) .empty).Holds highlighter (askedSinceReset uses) := by
  -- For the induction the cache and the account start anywhere, as long as they agree.
  have goesOn : ∀ cache asked, Holds highlighter asked cache →
      (uses.foldl (SourceCache.use highlighter) cache).Holds highlighter
        (uses.foldl SourceUse.askedAfter asked) := by
    induction uses with
    | nil => exact fun _ _ now => now
    | cons use rest ih =>
        intro cache asked now
        exact ih _ _ (holds_use now use)
  exact goesOn .empty [] (holds_empty highlighter)

end SourceCache

/-! ## The cache of a session -/

namespace Situation

/-- What a command does with the source cache: only a view that shows the code asks it. -/
def commandUse? (situation : Situation) (inspector : Inspector) : Command → Option SourceUse
  | .context tokens =>
      if .code ∈ Session.namedSections situation.session.settings tokens then
        some (.view (situation.session.scene inspector situation.world.files))
      else none
  | .registers _ => none

/-- What an operation does with the source cache. -/
def sourceUse? (situation : Situation) (inspector : Inspector) :
    Operation → Option SourceUse
  | .start | .finish => some .reset
  | operation => (operation.command? inspector).bind (situation.commandUse? inspector)

/-- What the operations of a run do with the source cache. -/
def sourceUses (situation : Situation) : List (Inspector × Operation) → List SourceUse
  | [] => []
  | (inspector, operation) :: rest =>
      (situation.sourceUse? inspector operation).toList ++
        (situation.perform inspector operation).value.1.sourceUses rest

variable (situation : Situation)

theorem sources_perform_eq_foldl (inspector : Inspector) (operation : Operation) :
    (situation.perform inspector operation).value.1.session.memory.sources =
      (situation.sourceUse? inspector operation).toList.foldl
        (SourceCache.use situation.session.highlighter) situation.session.memory.sources := by
  have viewed : ∀ tokens,
      (if .code ∈ Session.namedSections situation.session.settings tokens then
          (situation.session.scene inspector situation.world.files).sourcesAfter
            situation.session.memory.sources
        else situation.session.memory.sources) =
      (situation.commandUse? inspector (.context tokens)).toList.foldl
        (SourceCache.use situation.session.highlighter) situation.session.memory.sources := by
    intro tokens
    rw [commandUse?]
    split <;> rfl
  rw [sources_perform]
  cases operation with
  | start => rfl
  | finish => rfl
  | refresh tokens => exact viewed tokens
  | command words =>
      rcases Command.accept_cases inspector words with
        ⟨tokens, read⟩ | ⟨names, read⟩ | ⟨cause, read⟩
      · simp only [sourceUse?, Operation.command?, read]
        exact viewed tokens
      · simp only [sourceUse?, Operation.command?, read]
        rfl
      · simp only [sourceUse?, Operation.command?, read]
        rfl
  | _ => rfl

/-- A run leaves the cache as its uses of it do. -/
theorem sources_run (steps : List (Inspector × Operation)) :
    (situation.run steps).value.1.session.memory.sources =
      (situation.sourceUses steps).foldl (SourceCache.use situation.session.highlighter)
        situation.session.memory.sources := by
  induction steps generalizing situation with
  | nil => rfl
  | cons step rest ih =>
      rcases step with ⟨inspector, operation⟩
      have further := ih (situation.perform inspector operation).value.1
      rw [highlighter_perform, sources_perform_eq_foldl, ← List.foldl_append] at further
      exact further

/-- The code section of a view after a run shows what is answered by a cache that was used as
the run used it. -/
theorem linesOf_rendered_code_run (steps : List (Inspector × Operation)) (inspector : Inspector)
    {tokens : List String}
    (named : .code ∈ Session.namedSections
      (situation.run steps).value.1.session.settings tokens) :
    let highlighter := situation.session.highlighter
    let reached := (situation.run steps).value.1
    let cache := (situation.sourceUses steps).foldl (SourceCache.use highlighter)
      situation.session.memory.sources
    Session.linesOf (reached.session.rendered inspector reached.world.files tokens) .code =
      (reached.session.scene inspector reached.world.files).codeLines fun question =>
        (question.answer cache highlighter).lines := by
  intro highlighter reached cache
  have shown := (reached.session.linesOf_rendered inspector named).trans
    ((reached.session.scene inspector reached.world.files).lines_codeBlock_eq_codeLines
      reached.session.memory)
  have same : (reached.session.scene inspector reached.world.files).highlighter = highlighter :=
    situation.highlighter_run steps
  rw [shown, same, situation.sources_run steps]

end Situation

/-! ## The main result -/

namespace SourceCache

/-- A cache answers a question for a file with what the first successful reading since it was
reset gave for the path under any spelling: the lines of the text that the file had then,
highlighted under the spelling of then if highlighting was on then, each without the blanks at
its end.  As long as there was none the file is read as it is now.  If that fails, the answer
is the failure and nothing is kept; otherwise the lines are kept for this path and every other
path is answered as before.  No path is kept twice, and kept lines are trimmed.  A view of the
code asks one such question and shows what is answered.  The cache of a session is used by its
views of the code and reset by its starts and ends, and by nothing else. -/
theorem answers_with_first_reading_since_reset (highlighter : Highlighter) :
    (∀ uses : List SourceUse,
      let cache := uses.foldl (SourceCache.use highlighter) .empty
      let first := firstRead? highlighter (askedSinceReset uses)
      (∀ question : SourceQuestion,
        let answer := question.answer cache highlighter
        (∀ lines, first question.path = some lines → answer = ⟨.ok lines, cache⟩) ∧
        (first question.path = none →
          match question.files.read question.path with
          | .error cause => answer = ⟨.error (.io cause), cache⟩
          | .ok bytes =>
              let text := Text.decodeLossy bytes
              let shown := if question.highlight then highlighter text question.path else text
              let lines := (Text.lines shown).map Text.trimEnd
              answer.lines = .ok lines ∧
                ∀ path, answer.cache.find? path =
                  if Path.Same question.path path then some lines else cache.find? path)) ∧
      (∀ path, cache.find? path = first path) ∧
      (cache.files.Pairwise fun left right => ¬Path.Same left.1 right.1) ∧
      (∀ item ∈ cache.files, ∀ line ∈ item.2, Text.Trimmed line) ∧
      ∀ (scene : Scene) (snapshot : Snapshot), scene.highlighter = highlighter →
        let block := (scene.codeBlock ⟨snapshot, cache⟩).value
        block.lines = scene.codeLines (fun question =>
            (question.answer cache highlighter).lines) ∧
          block.memory.sources =
            match scene.question? with
            | some question => (question.answer cache highlighter).cache
            | none => cache) ∧
    ∀ (settings : Settings) (width : BannerWidth) (world : World) (checks : Nat)
      (steps : List (Inspector × Operation)),
      let situation : Situation := ⟨.fresh settings highlighter width, world, checks⟩
      let reached := (situation.run steps).value.1
      let cache := (situation.sourceUses steps).foldl (SourceCache.use highlighter) .empty
      reached.session.memory.sources = cache ∧
      ∀ inspector tokens,
        .code ∈ Session.namedSections reached.session.settings tokens →
        Session.linesOf (reached.session.rendered inspector reached.world.files tokens) .code =
          (reached.session.scene inspector reached.world.files).codeLines fun question =>
            (question.answer cache highlighter).lines := by
  constructor
  · intro uses cache first
    have now : cache.Holds highlighter (askedSinceReset uses) := holds_uses highlighter uses
    refine ⟨?_, now.found, now.apart, now.trimmed, ?_⟩
    · intro question answer
      constructor
      · intro lines before
        exact SourceQuestion.answer_of_find?_eq_some ((now.found question.path).trans before)
      · intro before
        have absent := (now.found question.path).trans before
        cases content : question.files.read question.path with
        | error cause => exact SourceQuestion.answer_of_error absent content
        | ok bytes =>
            have read : question.read? highlighter =
                some (linesOfBytes highlighter question.path question.highlight bytes) := by
              rw [SourceQuestion.read?, content]
              rfl
            have answered := SourceQuestion.answer_of_read? absent read
            constructor
            · exact congrArg CacheAnswer.lines answered
            · intro path
              exact (congrArg (fun now => now.cache.find? path) answered).trans
                (find?_insert absent)
    · rintro scene snapshot rfl block
      constructor
      · exact scene.lines_codeBlock_eq_codeLines ⟨snapshot, cache⟩
      · exact (scene.sources_codeBlock ⟨snapshot, cache⟩).trans
          (use_view scene.highlighter cache scene)
  · intro settings width world checks steps situation reached cache
    constructor
    · exact situation.sources_run steps
    · intro inspector tokens named
      exact situation.linesOf_rendered_code_run steps inspector named

end SourceCache

end StopView
