import StopView.Proofs.Source.History

/-!
# Files that differ elsewhere

Of all files a view looks at one only, the source file of the selected frame, and of this file
at its content only: why it cannot be read does not show.  Two file systems that have the same
content there, or both none that can be read, give the same view.
-/

namespace StopView

/-! ## Questions -/

namespace SourceQuestion

variable (question : SourceQuestion) (cache : SourceCache) (highlighter : Highlighter)

theorem read?_eq_map :
    question.read? highlighter =
      (question.files.read question.path).toOption.map
        (SourceCache.linesOfBytes highlighter question.path question.highlight) := by
  rw [read?]
  cases question.files.read question.path <;> rfl

/-- The lines that are answered are those that were kept, or else those that can be read. -/
theorem toOption_lines_answer :
    (question.answer cache highlighter).lines.toOption =
      (cache.find? question.path).or (question.read? highlighter) := by
  rcases question.answer_cases cache highlighter with
    ⟨lines, found, answered⟩ | ⟨absent, ⟨lines, read, answered⟩ | ⟨unread, cause, _, answered⟩⟩
  · rw [answered, found]
    rfl
  · rw [answered, absent, read]
    rfl
  · rw [answered, absent, unread]
    rfl

theorem cache_answer :
    (question.answer cache highlighter).cache =
      match cache.find? question.path, question.read? highlighter with
      | none, some lines => cache.insert question.path lines
      | _, _ => cache := by
  rcases question.answer_cases cache highlighter with
    ⟨lines, found, answered⟩ | ⟨absent, ⟨lines, read, answered⟩ | ⟨unread, cause, _, answered⟩⟩
  · rw [answered, found]
  · rw [answered, absent, read]
  · rw [answered, absent, unread]

end SourceQuestion

/-! ## Scenes -/

/-- The source file of the selected frame has the same content in two file systems, or can be
read in neither. -/
def Inspector.SourceAlike (inspector : Inspector) (left right : FileSystem) : Prop :=
  ∀ frame location, inspector.selectedFrame = .ok frame →
    inspector.sourceLocation frame = some location →
    (left.read ⟨location.file⟩).toOption = (right.read ⟨location.file⟩).toOption

namespace Scene

/-- The code section shows whether the current file was answered and with which lines, and not
why it was not. -/
theorem codeLines_congr {scene : Scene}
    {left right : SourceQuestion → Except Failure (List String)}
    (same : ∀ question, scene.question? = some question →
      (left question).toOption = (right question).toOption) :
    scene.codeLines left = scene.codeLines right := by
  rw [codeLines, codeLines]
  cases current : scene.currentLocation? with
  | none => rfl
  | some location =>
      have answered := same ⟨scene.files, ⟨location.file⟩, scene.settings.syntaxHighlight⟩
        (by rw [question?, current]; rfl)
      dsimp only
      generalize left _ = one at answered ⊢
      generalize right _ = other at answered ⊢
      cases one with
      | error cause =>
          cases other with
          | error cause => rfl
          | ok source => contradiction
      | ok source =>
          cases other with
          | error cause => contradiction
          | ok source =>
              cases answered
              rfl

variable {scene : Scene} {files : FileSystem}
  (alike : scene.inspector.SourceAlike scene.files files)

include alike

/-- The question for the current source file can be answered by reading in both, with the same
lines, or in neither. -/
theorem read?_of_sourceAlike {question : SourceQuestion} (asked : scene.question? = some question)
    (highlighter : Highlighter) :
    SourceQuestion.read? { question with files } highlighter = question.read? highlighter := by
  obtain ⟨location, current, rfl⟩ := Option.map_eq_some_iff.mp asked
  obtain ⟨frame, selected, located⟩ := Option.bind_eq_some_iff.mp current
  rw [SourceQuestion.read?_eq_map, SourceQuestion.read?_eq_map,
    alike frame location (toOption_eq_some_iff.mp selected) located]

theorem sourcesAfter_inFiles (sources : SourceCache) :
    (scene.inFiles files).sourcesAfter sources = scene.sourcesAfter sources := by
  have used := SourceCache.use_view scene.highlighter sources
  have moved : (scene.inFiles files).question? =
      scene.question?.map fun question => { question with files } := by
    rw [question?, question?, Option.map_map]
    rfl
  change SourceCache.use _ _ (.view (scene.inFiles files)) = SourceCache.use _ _ (.view scene)
  rw [used, used, moved]
  cases asked : scene.question? with
  | none => rfl
  | some question =>
      change (SourceQuestion.answer { question with files } sources scene.highlighter).cache =
        (question.answer sources scene.highlighter).cache
      rw [SourceQuestion.cache_answer, SourceQuestion.cache_answer,
        read?_of_sourceAlike alike asked]

theorem lines_codeBlock_inFiles (memory : ViewMemory) :
    ((scene.inFiles files).codeBlock memory).value.lines =
      (scene.codeBlock memory).value.lines := by
  rw [lines_codeBlock_eq_codeLines, lines_codeBlock_eq_codeLines]
  change scene.codeLines (fun question =>
    (SourceQuestion.answer { question with files } memory.sources scene.highlighter).lines) = _
  apply codeLines_congr
  intro question asked
  rw [SourceQuestion.toOption_lines_answer, SourceQuestion.toOption_lines_answer,
    read?_of_sourceAlike alike asked]

end Scene

/-! ## Views -/

namespace Session

variable (session : Session) {inspector : Inspector} {left right : FileSystem}
  (alike : inspector.SourceAlike left right)

include alike

theorem linesAlone_of_sourceAlike (part : Section) :
    session.linesAlone inspector right part = session.linesAlone inspector left part := by
  cases part with
  | code =>
      let polled := (session.pollEvents inspector).value.session
      exact @Scene.lines_codeBlock_inFiles (polled.scene inspector left) right alike polled.memory
  | _ => rfl

/-- A view has the same batches. -/
theorem result_compose_of_sourceAlike (terminal : Option Path) (tokens : List String) :
    (session.compose inspector right terminal tokens).value.result =
      (session.compose inspector left terminal tokens).value.result := by
  rw [result_compose_linesAlone, result_compose_linesAlone,
    funext (session.linesAlone_of_sourceAlike alike)]

theorem sourcesAfter_of_sourceAlike (sources : SourceCache) :
    (session.scene inspector right).sourcesAfter sources =
      (session.scene inspector left).sourcesAfter sources :=
  @Scene.sourcesAfter_inFiles (session.scene inspector left) right alike sources

end Session

end StopView
