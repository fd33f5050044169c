import StopView.Proofs.Delivery.Attempt
import StopView.Proofs.Session.Notices
import StopView.Proofs.Session.Order

/-!
# Failed deliveries

A view is composed before any of it is delivered.  What the outside does to the deliveries
therefore changes neither what is attempted nor what the session is afterwards: in two
worlds where the current source file reads the same, the same batches are attempted and the
same session is left, however many destinations fail in either of them.
-/

namespace StopView

/-- The source file of the selected frame reads the same in two file systems. -/
def Inspector.ReadsSame (inspector : Inspector) (left right : FileSystem) : Prop :=
  ∀ frame location, inspector.selectedFrame = .ok frame →
    inspector.sourceLocation frame = some location →
    left.read ⟨location.file⟩ = right.read ⟨location.file⟩

namespace Session

variable (session : Session) (inspector : Inspector)

theorem readsSame_scene {left right : FileSystem} (same : inspector.ReadsSame left right) :
    (session.scene inspector left).ReadsSame right := by
  intro location current
  obtain ⟨frame, selected, located⟩ := Option.bind_eq_some_iff.mp current
  change inspector.selectedFrame.toOption = some frame at selected
  cases answer : inspector.selectedFrame with
  | error cause =>
      rw [answer] at selected
      contradiction
  | ok found =>
      rw [answer] at selected
      cases selected
      exact same frame location answer located

theorem renderSections_congr {left right : FileSystem} (same : inspector.ReadsSame left right)
    (sections : List Section) :
    session.renderSections inspector left sections =
      session.renderSections inspector right sections := by
  have blocks := fun order =>
    Scene.blocks_inFiles (session.readsSame_scene inspector same) order session.memory
  have elsewhere : (session.scene inspector left).inFiles right = session.scene inspector right :=
    rfl
  rw [elsewhere] at blocks
  simp only [renderSections, blocks]

theorem compose_congr {left right : FileSystem} (same : inspector.ReadsSame left right)
    (terminal : Option Path) (tokens : List String) :
    session.compose inspector left terminal tokens =
      session.compose inspector right terminal tokens := by
  have rendered := fun polled : Session => polled.renderSections_congr inspector same
  simp only [compose, rendered]

/-- The deliveries of a view are accounted for, and each failure is noticed once. -/
theorem accountsFor_refresh (world : World) (tokens : List String) :
    let batches := (session.compose inspector world.files world.terminal tokens).value.result
    let attempts := world.attempted session.settings.clearScreen batches
    let turn := session.refresh inspector world tokens
    turn.value.result.report.AccountsFor attempts ∧
      turn.notices.filterMap Notice.deliveryFailure? =
        turn.value.result.report.failures.map Prod.snd := by
  intro batches attempts turn
  have accounts : turn.value.result.report.AccountsFor attempts :=
    world.accountsFor_deliverAll session.settings.clearScreen batches
  have noticed : turn.notices =
      (session.compose inspector world.files world.terminal tokens).notices ++
        (world.deliverAll batches session.settings.clearScreen).notices := by
    change _ ++ (_ ++ []) = _
    rw [List.append_nil]
    rfl
  have failed : (world.deliverAll batches session.settings.clearScreen).notices =
      (attempts.filterMap Attempt.failure?).map fun failure => .deliveryFailed failure.2 :=
    Delivery.notices_deliverAll ⟨world, .empty⟩ session.settings.clearScreen batches
  have causes : (Notice.deliveryFailure? ∘ fun failure : Destination × Failure =>
      Notice.deliveryFailed failure.2) = some ∘ Prod.snd := rfl
  constructor
  · exact accounts
  · rw [noticed, List.filterMap_append,
      (session.noDelivery_compose inspector world.files world.terminal tokens).filterMap_eq_nil,
      failed, accounts.failures, List.nil_append, List.filterMap_map, causes,
      List.filterMap_eq_map]

/-- Two worlds in which the current source file reads the same have the same batches
attempted, each of them once and in the same order, whatever can be written in either.  The
report divides the attempted destinations between those that were written and the failures,
each failure is noticed once, and what becomes of a batch does not depend on how the primary
stream treats the others.  The session is the same afterwards, all of it. -/
theorem refresh_keeps_failed_deliveries_apart (tokens : List String) {world other : World}
    (terminal : world.terminal = other.terminal)
    (sources : inspector.ReadsSame world.files other.files) :
    let batches := (session.compose inspector world.files world.terminal tokens).value.result
    let clear := session.settings.clearScreen
    let turn := fun outside => session.refresh inspector outside tokens
    (∀ outside, outside = world ∨ outside = other →
      let report := (turn outside).value.result.report
      let attempts := outside.attempted clear batches
      (turn outside).value.result = (outside.deliverAll batches clear).value ∧
        attempts.map Attempt.batch = batches ∧
        report.AccountsFor attempts ∧
        (turn outside).notices.filterMap Notice.deliveryFailure? =
          report.failures.map Prod.snd) ∧
    (∀ (outside : World) (treated otherwise : List (StreamMood × Batch)),
      treated.map Prod.snd = batches → otherwise.map Prod.snd = batches →
        ∀ (index : Nat) (batch : Batch), batches[index]? = some batch →
          (batch.destination = .primary →
            (treated.map Prod.fst)[index]? = (otherwise.map Prod.fst)[index]?) →
          (outside.attempts clear treated)[index]? =
            (outside.attempts clear otherwise)[index]?) ∧
    (turn world).value.session = (turn other).value.session := by
  intro batches clear turn
  have composed : session.compose inspector world.files world.terminal tokens =
      session.compose inspector other.files other.terminal tokens := by
    rw [← terminal]
    exact session.compose_congr inspector sources world.terminal tokens
  have shared : ∀ outside, outside = world ∨ outside = other →
      (session.compose inspector outside.files outside.terminal tokens).value.result =
        batches := by
    rintro outside (rfl | rfl)
    · rfl
    · rw [← composed]
  constructor
  · intro outside either report attempts
    obtain ⟨accounts, noticed⟩ := session.accountsFor_refresh inspector outside tokens
    rw [shared outside either] at accounts
    have delivered : (turn outside).value.result =
        (outside.deliverAll (session.compose inspector outside.files outside.terminal
          tokens).value.result clear).value := rfl
    rw [shared outside either] at delivered
    exact ⟨delivered, outside.map_batch_attempted clear batches, accounts, noticed⟩
  constructor
  · intro outside treated otherwise treatedAll otherwiseAll index batch here mood
    apply World.getElem?_attempts_congr
    · rfl
    · rw [treatedAll, otherwiseAll]
    · intro found foundHere primary
      rw [treatedAll, here] at foundHere
      cases foundHere
      exact mood primary
  · calc
      (turn world).value.session =
          (session.compose inspector world.files world.terminal tokens).value.session := rfl
      _ = (session.compose inspector other.files other.terminal tokens).value.session := by
        rw [composed]
      _ = (turn other).value.session := rfl

/-- One world takes everything; in the other the stream is closed and the directory for the
registers is missing.  The source file reads the same in both.  Everything fails in the
second, but the session is the same after the same attempts. -/
theorem session_is_same_when_everything_fails :
    let inspector := firstLineScript.inspector
    let source := FileSystem.initial.put ["work", "main.c"] (.file "one\ntwo\n".toUTF8)
    let world : World := ⟨source.put ["work", "logs"] .directory, .fresh, none⟩
    let other : World := ⟨source, { PrimaryStream.fresh with mood := .refusing }, none⟩
    let path : Path := ⟨"logs/registers"⟩
    let outputs := { SectionOutputs.together with registers := .split (.path path) }
    let session := fresh { Settings.initial with sectionOutputs := outputs } plainHighlighter 12
    let turn := fun outside => (session.refresh inspector outside ["r", "c"]).value
    inspector.ReadsSame world.files other.files ∧
      (turn world).result.report = ⟨[.primary, .path path], []⟩ ∧
      (turn other).result.report =
        ⟨[], [(.primary, .io .streamClosed), (.path path, .delivery path (.os .notFound))]⟩ ∧
      (turn world).session.memory.sources.files.map Prod.fst = [⟨"main.c"⟩] ∧
      (turn world).session = (turn other).session := by
  intro inspector source world other path outputs session turn
  have sources : inspector.ReadsSame world.files other.files := by
    intro frame location selected located
    cases selected
    cases located
    decide +kernel
  have terminal : world.terminal = other.terminal := rfl
  constructor
  · exact sources
  constructor
  · decide +kernel
  constructor
  · decide +kernel
  constructor
  · decide +kernel
  · exact (session.refresh_keeps_failed_deliveries_apart inspector ["r", "c"] terminal
      sources).2.2

end Session

end StopView
