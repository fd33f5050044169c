import StopView.Lifecycle

/-!
# What is told of an event

The lines of a record depend on the latest event only, and on whether a recording is
replayed.  As long as the same inspector answers, that is the same for every event.
-/

namespace StopView

/-- The lines that tell of an event. -/
def LifecycleEvent.message (inspector : Inspector) (palette : Palette) (replay : Bool) :
    LifecycleEvent → List String
  | .stopped (.signal name) =>
      [signalLine palette name
        (if name = segmentationFault then faultDetail inspector replay else "")]
  | .stopped (.breakpoint locations) =>
      locations.map fun location => palette.paint .breakpointMessage ("Breakpoint " ++ location)
  | .exited (some code) => [palette.paint .exitMessage ("Exited: " ++ toString code)]
  | .stopped .other | .exited none | .continued => []

namespace LifecycleRecord

variable (record : LifecycleRecord) (inspector : Inspector) (palette : Palette)

/-- Whether a recording is replayed, as it is remembered or would be found out. -/
def replays : Bool :=
  record.replay.getD (inspector.hasExtension replayExtension)

theorem lines_record (event : LifecycleEvent) :
    (record.record inspector palette event).record.lines =
      event.message inspector palette (record.replays inspector) := by
  cases event with
  | continued => rfl
  | exited code => cases code <;> rfl
  | stopped kind =>
      cases kind with
      | breakpoint locations => rfl
      | other => rfl
      | signal name =>
          rw [LifecycleRecord.record, recordSignal, LifecycleEvent.message]
          by_cases fault : name = segmentationFault
          · rw [if_pos fault, if_pos fault]
            rfl
          · rw [if_neg fault, if_neg fault]

/-- What is recorded does not depend on the width of the view. -/
theorem recordAll_congr {palette other : Palette} (same : palette.colour = other.colour)
    (events : List LifecycleEvent) :
    record.recordAll inspector palette events = record.recordAll inspector other events := by
  rcases palette with ⟨colour, width⟩
  rcases other with ⟨otherColour, otherWidth⟩
  cases same
  have each : ∀ (record : LifecycleRecord) event,
      record.record inspector ⟨colour, width⟩ event =
        record.record inspector ⟨colour, otherWidth⟩ event := by
    intro record event
    rfl
  induction events generalizing record with
  | nil => rfl
  | cons event rest ih => simp only [recordAll, each, ih]

theorem replays_record (event : LifecycleEvent) :
    (record.record inspector palette event).record.replays inspector =
      record.replays inspector := by
  cases event with
  | continued => rfl
  | exited code => cases code <;> rfl
  | stopped kind =>
      cases kind with
      | breakpoint locations => rfl
      | other => rfl
      | signal name =>
          rw [LifecycleRecord.record, recordSignal]
          by_cases fault : name = segmentationFault
          · rw [if_pos fault]
            rfl
          · rw [if_neg fault]
            rfl

/-- Whether a recording is replayed is remembered from the first segmentation fault. -/
theorem replay_record (event : LifecycleEvent) :
    (record.record inspector palette event).record.replay =
      if event = .stopped (.signal segmentationFault) then some (record.replays inspector)
      else record.replay := by
  cases event with
  | continued => rfl
  | exited code => cases code <;> rfl
  | stopped kind =>
      cases kind with
      | breakpoint locations => rfl
      | other => rfl
      | signal name =>
          rw [LifecycleRecord.record, recordSignal]
          by_cases fault : name = segmentationFault
          · rw [if_pos fault]
            exact (if_pos (by rw [fault])).symm
          · rw [if_neg fault, if_neg (by simpa using fault)]

theorem record_recordAll_concat (events : List LifecycleEvent) (event : LifecycleEvent) :
    (record.recordAll inspector palette (events ++ [event])).record =
      ((record.recordAll inspector palette events).record.record inspector palette
        event).record := by
  rw [recordAll_append]
  rfl

theorem replays_recordAll (events : List LifecycleEvent) :
    (record.recordAll inspector palette events).record.replays inspector =
      record.replays inspector := by
  induction events generalizing record with
  | nil => rfl
  | cons event rest ih =>
      exact (ih (record.record inspector palette event).record).trans
        (record.replays_record inspector palette event)

/-- Whether a recording is replayed is settled by the first segmentation fault among the
events. -/
theorem replay_recordAll (events : List LifecycleEvent) :
    (record.recordAll inspector palette events).record.replay =
      if .stopped (.signal segmentationFault) ∈ events then some (record.replays inspector)
      else record.replay := by
  induction events generalizing record with
  | nil => rfl
  | cons event rest ih =>
      have further := ih (record.record inspector palette event).record
      rw [replays_record, replay_record] at further
      refine Eq.trans further ?_
      by_cases later : .stopped (.signal segmentationFault) ∈ rest
      · rw [if_pos later, if_pos (List.mem_cons_of_mem event later)]
      · by_cases first : event = .stopped (.signal segmentationFault)
        · rw [if_neg later, if_pos first, if_pos (List.mem_cons.mpr (.inl first.symm))]
        · rw [if_neg later, if_neg first, if_neg]
          rw [List.mem_cons, not_or]
          exact ⟨Ne.symm first, later⟩

/-- The lines after several events tell of the latest one. -/
theorem lines_recordAll (events : List LifecycleEvent) :
    (record.recordAll inspector palette events).record.lines =
      match events.getLast? with
      | some event => event.message inspector palette (record.replays inspector)
      | none => record.lines := by
  rcases List.eq_nil_or_concat events with rfl | ⟨before, last, rfl⟩
  · rfl
  · rw [List.concat_eq_append, record_recordAll_concat, lines_record, replays_recordAll,
      List.getLast?_concat]

end LifecycleRecord

end StopView
