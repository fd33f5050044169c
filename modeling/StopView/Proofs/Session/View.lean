import StopView.Proofs.Session.Rendering

/-!
# What a view delivers

A refresh delivers the batches of the sections that are asked for, with the lines that
rendering gave for each.  Every section is in exactly one batch, no two batches of
split sections have the same destination, and none of them is for the terminal that
shows the main batch.
-/

namespace StopView.Session

/-- What is composed are the batches of the view. -/
theorem result_compose (session : Session) (inspector : Inspector) (files : FileSystem)
    (terminal : Option Path) (tokens : List String) :
    (session.compose inspector files terminal tokens).value.result =
      viewBatches session.settings session.palette terminal
        (requestedSections session.settings tokens).value
        (linesOf (session.rendered inspector files tokens))
        (session.pollEvents inspector).value.session.lifecycle.lines := by
  let parts := (requestedSections session.settings tokens).value
  let block := linesOf (session.rendered inspector files tokens)
  let lifecycle := (session.pollEvents inspector).value.session.lifecycle.lines
  calc
    (session.compose inspector files terminal tokens).value.result =
        (assemble session.settings session.palette terminal
          (session.rendered inspector files tokens) lifecycle).value := rfl
    _ = (assemble session.settings session.palette terminal
          ((renderingOrder session.settings parts).map fun part => ⟨part, block part⟩)
          lifecycle).value :=
        congrArg
          (fun items => (assemble session.settings session.palette terminal items lifecycle).value)
          (session.rendered_eq_map inspector files tokens)
    _ = viewBatches session.settings session.palette terminal parts block lifecycle := by
        rw [value_assemble, viewBatches_renderingOrder]

theorem result_refresh (session : Session) (inspector : Inspector) (world : World)
    (tokens : List String) :
    (session.refresh inspector world tokens).value.result =
      (world.deliverAll
        (viewBatches session.settings session.palette world.terminal
          (requestedSections session.settings tokens).value
          (linesOf (session.rendered inspector world.files tokens))
          (session.pollEvents inspector).value.session.lifecycle.lines)
        session.settings.clearScreen).value := by
  rw [← session.result_compose inspector world.files world.terminal tokens]
  rfl

/-- A refresh hands the router the main batch and then one batch for every other
destination.  The main batch holds the legend, the sections without a destination of
their own, those for its terminal, a rule below them, and what is told of the latest
event; every other batch holds the sections that go to its destination.  The sections
are those that the request names, by first occurrence, each with the lines that it was
rendered to.  None of them is lost or delivered twice. -/
theorem refresh_delivers_every_section_once (session : Session) (inspector : Inspector)
    (world : World) (tokens : List String) :
    let settings := session.settings
    let outputs := settings.sectionOutputs
    let parts := (requestedSections settings tokens).value
    let rendered := session.rendered inspector world.files tokens
    let lifecycle := (session.pollEvents inspector).value.session.lifecycle
    let own := outputs.ownShares world.terminal parts
    let batches : List Batch :=
      ⟨settings.output,
        mainLines session.palette outputs world.terminal parts (linesOf rendered) ++
          lifecycle.lines⟩ ::
        own.map fun share => share.batch (linesOf rendered)
    FirstSeen (namedSections settings tokens) parts ∧
      rendered = (renderingOrder settings parts).map (fun part => ⟨part, linesOf rendered part⟩) ∧
      rendered.map SectionLines.lines =
        ((session.scene inspector world.files).blocks (renderingOrder settings parts)
          session.memory).value.1 ∧
      (session.compose inspector world.files world.terminal tokens).value.result = batches ∧
      (session.refresh inspector world tokens).value.result =
        (world.deliverAll batches settings.clearScreen).value ∧
      (outputs.mainParts world.terminal parts ++ own.flatMap Share.parts).Perm parts ∧
      own.Pairwise (fun left right =>
        ¬Destination.Same left.destination right.destination) ∧
      ∀ device, world.terminal = some device →
        ∀ share ∈ own, ¬Destination.Same share.destination (.path device) := by
  intro settings outputs parts rendered lifecycle own batches
  have elsewhere : ∀ device, world.terminal = some device →
      ∀ share ∈ own, ¬Destination.Same share.destination (.path device) := by
    intro device attached share listed
    have listedThere : share ∈ outputs.ownShares (some device) parts := by
      rw [← attached]
      exact listed
    exact SectionOutputs.not_same_terminal_of_mem_ownShares listedThere
  exact ⟨firstSeen_requestedSections settings tokens,
    session.rendered_eq_map inspector world.files tokens,
    session.map_lines_rendered inspector world.files tokens,
    session.result_compose inspector world.files world.terminal tokens,
    session.result_refresh inspector world tokens,
    outputs.perm_mainParts_ownShares world.terminal parts,
    outputs.pairwise_ownShares world.terminal parts, elsewhere⟩

end StopView.Session
