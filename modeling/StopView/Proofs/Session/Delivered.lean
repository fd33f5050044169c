import StopView.Inspector.Script
import StopView.Proofs.Delivery
import StopView.Proofs.Session.View
import StopView.Session.Operation

/-!
# What is left of a view after its own deliveries

The batches of split sections have distinct destinations, none of which is the terminal
of the main batch.  Nothing of the kind holds between them and the main batch: a section
may be sent to the very destination that the main batch has, and the file then keeps what
was delivered last.  Different spellings may lead to one file as well.  Apart from this,
every destination is delivered to once and keeps all that was meant for it.
-/

namespace StopView

theorem infix_flatMap {α β : Type} (f : α → List β) {items : List α} {item : α}
    (listed : item ∈ items) : f item <:+: items.flatMap f := by
  rw [List.flatMap_def]
  exact List.infix_of_mem_flatten (List.mem_map_of_mem listed)

theorem infix_mainLines (palette : Palette) {outputs : SectionOutputs} {terminal : Option Path}
    {parts : List Section} {part : Section} (block : Section → List String)
    (listed : part ∈ outputs.mainParts terminal parts) :
    block part <:+: mainLines palette outputs terminal parts block := by
  have inner := infix_flatMap block listed
  have upper : block part <:+: legendLines palette outputs parts ++
      (outputs.mainParts terminal parts).flatMap block :=
    inner.trans (List.suffix_append _ _).isInfix
  rw [mainLines]
  by_cases empty : legendLines palette outputs parts ++
      (outputs.mainParts terminal parts).flatMap block = []
  · rw [empty] at upper
    rw [if_pos empty]
    exact upper
  · rw [if_neg empty]
    exact upper.trans (List.prefix_append _ _).isInfix

/-- The lines of every section are in a batch for its destination. -/
theorem exists_mem_viewBatches (settings : Settings) (palette : Palette) (terminal : Option Path)
    {parts : List Section} {part : Section} (listed : part ∈ parts)
    (block : Section → List String) (lifecycle : List String) :
    ∃ batch ∈ viewBatches settings palette terminal parts block lifecycle,
      Destination.Same batch.destination
          (settings.sectionOutputs.destinationOf settings.output terminal part) ∧
        block part <:+: batch.lines := by
  let outputs := settings.sectionOutputs
  let main : Batch :=
    ⟨settings.output, mainLines palette outputs terminal parts block ++ lifecycle⟩
  have inMain : part ∈ outputs.mainParts terminal parts → block part <:+: main.lines := fun mem =>
    (infix_mainLines palette block mem).trans (List.prefix_append _ _).isInfix
  cases ownPart : outputs.own? part with
  | none =>
      have there : outputs.destinationOf settings.output terminal part = settings.output := by
        rw [SectionOutputs.destinationOf, ownPart]
      rw [there]
      exact ⟨main, List.mem_cons_self, Destination.Same.refl _,
        inMain (SectionOutputs.mem_mainParts_of_none listed ownPart terminal)⟩
  | some own =>
      have there : outputs.destinationOf settings.output terminal part =
          if own.isTerminal? terminal then settings.output else own := by
        rw [SectionOutputs.destinationOf, ownPart]
      rw [there]
      cases shown : own.isTerminal? terminal with
      | true =>
          exact ⟨main, List.mem_cons_self, Destination.Same.refl _,
            inMain (SectionOutputs.mem_mainParts_of_isTerminal listed ownPart shown)⟩
      | false =>
          obtain ⟨share, shareMem, same, partMem⟩ :=
            SectionOutputs.exists_mem_ownShares listed ownPart shown
          apply Exists.intro (share.batch block)
          constructor
          · exact List.mem_cons_of_mem _ (List.mem_map_of_mem shareMem)
          · exact ⟨same, infix_flatMap block partMem⟩

/-- No destination has more than two batches of a view, and one has two if it is that of
the main batch and sections are sent there as well. -/
theorem length_filter_same_viewBatches (settings : Settings) (palette : Palette)
    (terminal : Option Path) (parts : List Section) (block : Section → List String)
    (lifecycle : List String) (destination : Destination) :
    let count := ((viewBatches settings palette terminal parts block lifecycle).filter fun batch =>
      Destination.Same batch.destination destination).length
    count ≤ 2 ∧
      (count = 2 ↔
        Destination.Same settings.output destination ∧
          ∃ share ∈ settings.sectionOutputs.ownShares terminal parts,
            Destination.Same share.destination destination) := by
  intro count
  let own := settings.sectionOutputs.ownShares terminal parts
  let others := (own.map fun share => share.batch block).filter fun batch =>
    Destination.Same batch.destination destination
  have few : others.length ≤ 1 :=
    (apart_map_batch block
      (settings.sectionOutputs.pairwise_ownShares terminal parts)).length_filter_same_le_one
      destination
  have any : 0 < others.length ↔ ∃ share ∈ own, Destination.Same share.destination destination :=
    length_filter_map_batch_pos_iff own block destination
  by_cases main : Destination.Same settings.output destination
  · have countEq : count = others.length + 1 := by
      change (List.filter _ (_ :: _)).length = _
      rw [List.filter_cons_of_pos (by simpa using main), List.length_cons]
    constructor
    · omega
    · rw [← any]
      constructor
      · intro two
        exact ⟨main, by omega⟩
      · rintro ⟨_, some⟩
        omega
  · have countEq : count = others.length := by
      change (List.filter _ (_ :: _)).length = _
      rw [List.filter_cons_of_neg (by simpa using main)]
    constructor
    · omega
    · constructor
      · intro two
        omega
      · rintro ⟨same, _⟩
        exact absurd same main

namespace Session

/-- A refresh delivers every section once, in a batch for its destination.  A destination
has two batches if it is that of the main batch and sections are sent there on their own,
and otherwise one at most.  If every delivery works, a file reads as the last batch that
leads to it, and the primary stream has stored its batches in order, each behind the code
that clears the screen if that is asked for. -/
theorem refresh_keeps_last_batch_for_each_file (session : Session) (inspector : Inspector)
    (world : World) (tokens : List String) :
    let settings := session.settings
    let parts := (requestedSections settings tokens).value
    let block := linesOf (session.rendered inspector world.files tokens)
    let own := settings.sectionOutputs.ownShares world.terminal parts
    let batches := viewBatches settings session.palette world.terminal parts block
      (session.pollEvents inspector).value.session.lifecycle.lines
    let delivery := (session.refresh inspector world tokens).value.result
    delivery.report.attempted.Perm (batches.map Batch.destination) ∧
      (∀ part ∈ parts, ∃ batch ∈ batches,
        Destination.Same batch.destination
            (settings.sectionOutputs.destinationOf settings.output world.terminal part) ∧
          block part <:+: batch.lines) ∧
      (∀ destination,
        let count := (batches.filter fun batch =>
          Destination.Same batch.destination destination).length
        count ≤ 2 ∧
          (count = 2 ↔
            Destination.Same settings.output destination ∧
              ∃ share ∈ own, Destination.Same share.destination destination)) ∧
      (delivery.report.isComplete = true →
        delivery.report.delivered = batches.map Batch.destination ∧
          delivery.world.primary.stored =
            world.primary.stored ++
              String.join ((batches.filter fun batch => batch.destination = .primary).map
                fun batch => primaryText batch.lines settings.clearScreen) ∧
          ∀ earlier batch later path, batches = earlier ++ batch :: later →
            batch.destination = .path path →
            ∃ place, world.files.writePlace path = .ok place ∧
              ((∀ device, world.files.entryAt place ≠ some (.device device)) →
                (∀ other ∈ later, ¬other.Opens world.files place) →
                delivery.world.files.read path = .ok (joinLines batch.lines).toUTF8)) := by
  intro settings parts block own batches delivery
  have delivered : delivery = (world.deliverAll batches settings.clearScreen).value :=
    session.result_refresh inspector world tokens
  constructor
  · rw [delivered]
    apply (Delivery.perm_attempted_deliverAll batches).trans
    rw [Report.attempted, Report.empty, List.map_nil, List.append_nil, List.append_nil]
  constructor
  · intro part listed
    exact exists_mem_viewBatches settings session.palette world.terminal listed block _
  constructor
  · intro destination
    exact length_filter_same_viewBatches settings session.palette world.terminal parts block _
      destination
  · intro complete
    rw [delivered] at complete ⊢
    constructor
    · exact Delivery.delivered_deliverAll complete
    constructor
    · exact Delivery.stored_deliverAll complete
    · intro earlier batch later path split isPath
      rw [split] at complete ⊢
      exact Delivery.read_deliverAll complete isPath

/-- A program with one word on its stack. -/
def oneWordScript : Script :=
  { Script.blank with registers := [("rsp", 1)], stack := .lines ["word"] }

/-- A view of the frames and the stack after some settings were changed. -/
def viewAfter (changes : List (String × String)) : Situation × List Outcome :=
  let start : Situation :=
    ⟨.fresh .initial plainHighlighter 12, ⟨.initial, .fresh, none⟩, 0⟩
  (start.run
    ((changes.map fun change => (oneWordScript.inspector, .set change.1 change.2)) ++
      [(oneWordScript.inspector, .refresh ["b", "s"])])).value

/-- The main batch is lost when the stack goes to the same file, and a section is lost when
another goes to the same file under another spelling.  The screen is cleared twice when the
stack goes to the primary stream on its own, and the null device keeps nothing. -/
theorem refresh_overwrites_shared_destinations :
    let palette : Palette := ⟨true, 12⟩
    let main := [palette.legend, palette.banner "backtrace", palette.banner ""]
    let stack := [palette.banner "stack", "word"]
    let shared := viewAfter [("context-output", "pane"), ("context-output-stack", "pane")]
    let respelled := viewAfter [("context-output-backtrace", "./pane"),
      ("context-output-stack", "pane")]
    let cleared := viewAfter [("context-clear-screen", "on"), ("context-output-stack", "stdout")]
    let discarded := viewAfter [("context-output-stack", "/dev/null")]
    (shared.2.getLast? = some (.delivered ⟨[.path ⟨"pane"⟩, .path ⟨"pane"⟩], []⟩) ∧
        shared.1.world.files.read ⟨"pane"⟩ = .ok (joinLines stack).toUTF8) ∧
      (respelled.2.getLast? =
          some (.delivered ⟨[.primary, .path ⟨"./pane"⟩, .path ⟨"pane"⟩], []⟩) ∧
        respelled.1.world.files.read ⟨"./pane"⟩ = .ok (joinLines stack).toUTF8) ∧
      (cleared.2.getLast? = some (.delivered ⟨[.primary, .primary], []⟩) ∧
        cleared.1.world.primary.stored = primaryText main true ++ primaryText stack true) ∧
      discarded.2.getLast? = some (.delivered ⟨[.primary, .path ⟨"/dev/null"⟩], []⟩) ∧
        discarded.1.world.files.read ⟨"/dev/null"⟩ = .ok ByteArray.empty := by
  decide +kernel

end Session

end StopView
