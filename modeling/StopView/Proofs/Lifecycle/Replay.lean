import StopView.Proofs.Session.Restart

/-!
# The question whether a recording is replayed

An inspector is asked whether a recording is replayed when the first segmentation fault is
recorded, and not again before the next boundary, although it might answer otherwise by then.
Until there every segmentation fault is told as that first answer has it: with the program counter
if a recording is replayed, and with the address that caused the fault if none is.  Nothing else
makes a session ask, and nothing else is told with more than the event itself.
-/

namespace StopView

/-! ## What is told of an event -/

/-- The lines that tell of an event and of nothing else. -/
def LifecycleEvent.bareMessage (palette : Palette) : LifecycleEvent → List String
  | .stopped (.signal name) =>
      [palette.paint .signalMessage ("Program received signal " ++ name)]
  | .stopped (.breakpoint locations) =>
      locations.map fun location => palette.paint .breakpointMessage ("Breakpoint " ++ location)
  | .exited (some code) => [palette.paint .exitMessage ("Exited: " ++ toString code)]
  | .stopped .other | .exited none | .continued => []

/-- An event at the moment at which it is recorded: the inspector that answers, and the palette. -/
structure Occurrence where
  inspector : Inspector
  palette : Palette
  event : LifecycleEvent

namespace Occurrence

/-- Whether a segmentation fault occurs. -/
def isFault (occurrence : Occurrence) : Bool :=
  occurrence.event = .stopped (.signal segmentationFault)

/-- What would be answered if it were asked now whether a recording is replayed. -/
def answer (occurrence : Occurrence) : Bool :=
  occurrence.inspector.hasExtension replayExtension

/-- The line that tells of a segmentation fault, with something behind it. -/
def faultLine (occurrence : Occurrence) (detail : String) : String :=
  signalLine occurrence.palette segmentationFault detail

/-- A line tells of a segmentation fault: with the program counter exactly if a recording is
replayed, with the address that caused the fault exactly if none is, and with nothing behind it if
the one that belongs there is not known. -/
structure TellsFault (occurrence : Occurrence) (replayed : Bool) (line : String) : Prop where
  counter_iff : ∀ pc, occurrence.inspector.programCounter = .ok pc →
    (line = occurrence.faultLine (" (current pc: " ++ pc.text ++ ")") ↔ replayed = true)
  address_iff : ∀ address, occurrence.inspector.faultAddress = .ok (some address) →
    (line = occurrence.faultLine (" (fault address " ++ address.text ++ ")") ↔ replayed = false)
  no_counter : (∀ pc, occurrence.inspector.programCounter ≠ .ok pc) → replayed = true →
    line = occurrence.faultLine ""
  no_address : (∀ address, occurrence.inspector.faultAddress ≠ .ok (some address)) →
    replayed = false → line = occurrence.faultLine ""

theorem faultLine_inj {occurrence : Occurrence} {first second : String} :
    occurrence.faultLine first = occurrence.faultLine second ↔ first = second := by
  rw [faultLine, faultLine, signalLine, signalLine, Palette.paint, Palette.paint]
  by_cases colour : occurrence.palette.colour = true
  · rw [if_pos colour, if_pos colour, Style.apply, Style.apply, String.append_left_inj,
      String.append_right_inj, String.append_right_inj]
  · rw [if_neg colour, if_neg colour, String.append_right_inj]

theorem counter_ne_address (pc address : String) :
    " (current pc: " ++ pc ++ ")" ≠ " (fault address " ++ address ++ ")" := by
  intro same
  have letters := congrArg String.toList same
  simp [String.toList_append] at letters

theorem append_paren_ne_empty (text : String) : text ++ ")" ≠ "" := by
  intro same
  have letters := congrArg String.toList same
  simp [String.toList_append] at letters

/-- The line with the detail that belongs to it tells of a fault. -/
theorem tellsFault_faultLine (occurrence : Occurrence) (replayed : Bool) :
    occurrence.TellsFault replayed
      (occurrence.faultLine (faultDetail occurrence.inspector replayed)) where
  counter_iff := by
    intro pc readable
    rw [faultLine_inj, faultDetail]
    cases replayed with
    | true => simp [readable]
    | false =>
        refine iff_of_false ?_ (by decide)
        rw [if_neg Bool.false_ne_true]
        split
        · exact (counter_ne_address _ _).symm
        · exact (append_paren_ne_empty _).symm
  address_iff := by
    intro address known
    rw [faultLine_inj, faultDetail]
    cases replayed with
    | false => simp [known]
    | true =>
        refine iff_of_false ?_ (by decide)
        rw [if_pos rfl]
        split
        · exact counter_ne_address _ _
        · exact (append_paren_ne_empty _).symm
  no_counter := by
    rintro unreadable rfl
    rw [faultDetail, if_pos rfl]
    cases read : occurrence.inspector.programCounter with
    | ok pc => exact absurd read (unreadable pc)
    | error cause => rfl
  no_address := by
    rintro unknown rfl
    rw [faultDetail]
    cases read : occurrence.inspector.faultAddress with
    | error cause => rfl
    | ok address =>
        cases address with
        | none => rfl
        | some address => exact absurd read (unknown address)

end Occurrence

namespace LifecycleEvent

theorem message_eq_bareMessage {event : LifecycleEvent}
    (other : event ≠ .stopped (.signal segmentationFault)) (inspector : Inspector)
    (palette : Palette) (replay : Bool) :
    event.message inspector palette replay = event.bareMessage palette := by
  cases event with
  | continued => rfl
  | exited code => cases code <;> rfl
  | stopped kind =>
      cases kind with
      | breakpoint locations => rfl
      | other => rfl
      | signal name =>
          have notFault : name ≠ segmentationFault := fun same => other (by rw [same])
          rw [message, bareMessage, if_neg notFault, signalLine, String.append_empty]

end LifecycleEvent

/-! ## Records of occurrences -/

namespace LifecycleRecord

variable (record : LifecycleRecord)

/-- The record after several occurrences, from the first to the last, each with an inspector and
a palette of its own. -/
def recordEach (record : LifecycleRecord) : List Occurrence → Recorded
  | [] => ⟨record, 0⟩
  | occurrence :: rest =>
      let first := record.record occurrence.inspector occurrence.palette occurrence.event
      let last := first.record.recordEach rest
      ⟨last.record, first.checks + last.checks⟩

theorem recordEach_append (first second : List Occurrence) :
    record.recordEach (first ++ second) =
      let before := record.recordEach first
      let after := before.record.recordEach second
      ⟨after.record, before.checks + after.checks⟩ := by
  induction first generalizing record with
  | nil => simp [recordEach]
  | cons occurrence rest ih => simp [recordEach, ih, Nat.add_assoc]

theorem recordAll_eq_recordEach (inspector : Inspector) (palette : Palette)
    (events : List LifecycleEvent) :
    record.recordAll inspector palette events =
      record.recordEach (events.map (Occurrence.mk inspector palette)) := by
  induction events generalizing record with
  | nil => rfl
  | cons event rest ih => rw [recordAll, List.map_cons, recordEach, ih]

theorem checks_record (inspector : Inspector) (palette : Palette) (event : LifecycleEvent) :
    let recorded := record.record inspector palette event
    record.replay.isSome.toNat + recorded.checks = recorded.record.replay.isSome.toNat := by
  cases event with
  | continued => rfl
  | exited code => cases code <;> rfl
  | stopped kind =>
      cases kind with
      | breakpoint locations => rfl
      | other => rfl
      | signal name =>
          rw [LifecycleRecord.record, recordSignal]
          by_cases fault : name = segmentationFault
          · rw [if_pos fault]
            cases record.replay <;> rfl
          · rw [if_neg fault]
            rfl

theorem checks_recordEach (occurrences : List Occurrence) :
    let recorded := record.recordEach occurrences
    record.replay.isSome.toNat + recorded.checks = recorded.record.replay.isSome.toNat := by
  induction occurrences generalizing record with
  | nil => rfl
  | cons occurrence rest ih =>
      have first :=
        record.checks_record occurrence.inspector occurrence.palette occurrence.event
      have further := ih
        (record.record occurrence.inspector occurrence.palette occurrence.event).record
      dsimp only [recordEach] at first further ⊢
      -- What is known in the end is what was known in between and what the rest asked for.
      rw [← further, ← first, Nat.add_assoc]

theorem replay_recordEach (occurrences : List Occurrence) :
    (record.recordEach occurrences).record.replay =
      record.replay.or ((occurrences.find? Occurrence.isFault).map Occurrence.answer) := by
  induction occurrences generalizing record with
  | nil => exact (Option.or_none).symm
  | cons occurrence rest ih =>
      have first :=
        record.replay_record occurrence.inspector occurrence.palette occurrence.event
      dsimp only [recordEach]
      rw [ih, first]
      by_cases fault : occurrence.event = .stopped (.signal segmentationFault)
      · have found : occurrence.isFault = true := decide_eq_true fault
        rw [if_pos fault, List.find?_cons_of_pos found, Option.some_or, Option.map_some,
          Option.or_some]
        rfl
      · have passed : ¬occurrence.isFault = true := by simpa [Occurrence.isFault] using fault
        rw [if_neg fault, List.find?_cons_of_neg passed]

/-- From the empty record on, it is asked once if there is a fault at all. -/
theorem checks_recordEach_empty (occurrences : List Occurrence) :
    (empty.recordEach occurrences).checks =
      (occurrences.find? Occurrence.isFault).isSome.toNat := by
  have balance := empty.checks_recordEach occurrences
  dsimp only at balance
  rw [replay_recordEach] at balance
  simpa [empty] using balance

/-- The last occurrence makes the session ask if it is the first fault. -/
theorem checks_recordEach_concat (past : List Occurrence) (occurrence : Occurrence) :
    (empty.recordEach (past ++ [occurrence])).checks =
      (empty.recordEach past).checks +
        if occurrence.isFault = true ∧ ∀ earlier ∈ past, earlier.isFault = false then 1
        else 0 := by
  rw [checks_recordEach_empty, checks_recordEach_empty, List.find?_append]
  cases found : past.find? Occurrence.isFault with
  | some first =>
      have fault := List.find?_some found
      have listed := List.mem_of_find?_eq_some found
      rw [if_neg, Option.some_or, Nat.add_zero]
      rintro ⟨-, none⟩
      rw [none first listed] at fault
      contradiction
  | none =>
      have none : ∀ earlier ∈ past, earlier.isFault = false := by
        simpa using found
      cases now : occurrence.isFault with
      | false => simp [now]
      | true =>
          rw [if_pos ⟨rfl, none⟩]
          simp [now]

theorem lines_recordEach_concat (past : List Occurrence) (occurrence : Occurrence) :
    let first := (past.find? Occurrence.isFault).getD occurrence
    (empty.recordEach (past ++ [occurrence])).record.lines =
      if occurrence.isFault then
        [occurrence.faultLine (faultDetail occurrence.inspector first.answer)]
      else occurrence.event.bareMessage occurrence.palette := by
  intro first
  have told : (empty.recordEach (past ++ [occurrence])).record.lines =
      occurrence.event.message occurrence.inspector occurrence.palette
        ((empty.recordEach past).record.replays occurrence.inspector) := by
    rw [recordEach_append]
    exact lines_record _ occurrence.inspector occurrence.palette occurrence.event
  have answered : (empty.recordEach past).record.replays occurrence.inspector = first.answer := by
    rw [replays, replay_recordEach]
    dsimp only [first]
    cases past.find? Occurrence.isFault <;> rfl
  rw [told, answered]
  by_cases fault : occurrence.event = .stopped (.signal segmentationFault)
  · have isFault : occurrence.isFault = true := decide_eq_true fault
    rw [if_pos isFault, fault, LifecycleEvent.message, if_pos rfl]
    rfl
  · have notFault : ¬occurrence.isFault = true := by simpa [Occurrence.isFault] using fault
    rw [if_neg notFault, LifecycleEvent.message_eq_bareMessage fault]

end LifecycleRecord

/-! ## Occurrences along a run -/

/-- What an operation records: if it polls, what waits and then what is reported. -/
def Operation.occurrences (session : Session) (inspector : Inspector) (operation : Operation) :
    List Occurrence :=
  if operation.polls inspector then
    (session.waiting ++ (operation.arrival? none).toList).map
      (Occurrence.mk inspector session.palette)
  else []

namespace Situation

variable (situation : Situation)

/-- What is recorded along a run, by the inspectors and in the palettes of the moment. -/
def occurrences (situation : Situation) : List (Inspector × Operation) → List Occurrence
  | [] => []
  | (inspector, operation) :: rest =>
      operation.occurrences situation.session inspector ++
        (situation.perform inspector operation).value.1.occurrences rest

theorem checks_perform_refresh (inspector : Inspector) (tokens : List String) :
    (situation.perform inspector (.refresh tokens)).value.1.checks =
      situation.checks +
        (situation.session.lifecycle.recordAll inspector situation.session.palette
          situation.session.waiting).checks :=
  rfl

/-- A poll asks as often as recording what had waited and then what is reported does. -/
theorem checks_perform_of_polls {inspector : Inspector} {operation : Operation}
    (polls : operation.polls inspector = true) :
    (situation.perform inspector operation).value.1.checks =
      situation.checks +
        (situation.session.lifecycle.recordAll inspector situation.session.palette
          (situation.session.waiting ++ (operation.arrival? none).toList)).checks := by
  cases operation with
  | refresh tokens =>
      have alone : situation.session.waiting ++
          ((Operation.refresh tokens).arrival? none).toList = situation.session.waiting :=
        List.append_nil _
      rw [alone, checks_perform_refresh]
  | command words =>
      have alone : situation.session.waiting ++
          ((Operation.command words).arrival? none).toList = situation.session.waiting :=
        List.append_nil _
      rcases Command.accept_cases inspector words with
        ⟨tokens, read⟩ | ⟨names, read⟩ | ⟨cause, read⟩
      · rw [perform_command_of_context situation inspector read, alone, checks_perform_refresh]
      · simp [Operation.polls, read] at polls
      · simp [Operation.polls, read] at polls
  | report event =>
      rw [LifecycleRecord.recordAll_append]
      rfl
  | _ => contradiction

theorem checks_perform_of_not_polls {inspector : Inspector} {operation : Operation}
    (idle : operation.polls inspector = false) :
    (situation.perform inspector operation).value.1.checks = situation.checks := by
  cases operation with
  | refresh tokens => contradiction
  | report event => contradiction
  | command words =>
      rcases Command.accept_cases inspector words with
        ⟨tokens, read⟩ | ⟨names, read⟩ | ⟨cause, read⟩
      · simp [Operation.polls, read] at idle
      · rw [perform_command_of_registers situation inspector read]
        rfl
      · rw [perform_command_of_error situation inspector read]
  | _ => rfl

/-- Between boundaries the record after an operation is that of what it records, and the session
asks as often as recording it does. -/
theorem recorded_perform (inspector : Inspector) {operation : Operation}
    (inside : ∀ boundary : Boundary, operation ≠ boundary.operation) :
    let reached := (situation.perform inspector operation).value.1
    let recorded := situation.session.lifecycle.recordEach
      (operation.occurrences situation.session inspector)
    reached.session.lifecycle = recorded.record ∧
      reached.checks = situation.checks + recorded.checks := by
  intro reached recorded
  cases polls : operation.polls inspector with
  | true =>
      have all : recorded =
          situation.session.lifecycle.recordAll inspector situation.session.palette
            (situation.session.waiting ++ (operation.arrival? none).toList) := by
        dsimp only [recorded]
        rw [Operation.occurrences, if_pos polls, LifecycleRecord.recordAll_eq_recordEach]
      rw [all]
      exact ⟨lifecycle_perform_of_polls none polls, situation.checks_perform_of_polls polls⟩
  | false =>
      have none : recorded = ⟨situation.session.lifecycle, 0⟩ := by
        dsimp only [recorded]
        rw [Operation.occurrences, polls]
        rfl
      rw [none]
      exact ⟨lifecycle_perform_of_not_polls (inside .start) (inside .finish) polls,
        situation.checks_perform_of_not_polls polls⟩

/-- Between boundaries the record after a run is that of all that is recorded, and the session
asks as often as recording it does. -/
theorem recorded_run {steps : List (Inspector × Operation)}
    (inside : ∀ step ∈ steps, ∀ boundary : Boundary, step.2 ≠ boundary.operation) :
    let reached := (situation.run steps).value.1
    let recorded := situation.session.lifecycle.recordEach (situation.occurrences steps)
    reached.session.lifecycle = recorded.record ∧
      reached.checks = situation.checks + recorded.checks := by
  induction steps generalizing situation with
  | nil => exact ⟨rfl, rfl⟩
  | cons step rest ih =>
      rcases step with ⟨inspector, operation⟩
      obtain ⟨record, checks⟩ := situation.recorded_perform inspector
        (inside (inspector, operation) List.mem_cons_self)
      have further := ih (situation.perform inspector operation).value.1
        (fun later listed => inside later (List.mem_cons_of_mem _ listed))
      -- The rest goes on from the record and the count that the first operation leaves.
      dsimp only at record checks further ⊢
      rw [record, checks, Nat.add_assoc] at further
      rw [occurrences, LifecycleRecord.recordEach_append]
      exact further

/-- A session that has just been made or has just passed a boundary has recorded nothing. -/
theorem lifecycle_run_boundary {situation : Situation}
    (blank : situation.session.lifecycle = .empty) {steps : List (Inspector × Operation)}
    (opens : ∀ step, steps.getLast? = some step → ∃ boundary : Boundary,
      step.2 = boundary.operation) :
    (situation.run steps).value.1.session.lifecycle = .empty := by
  rcases List.eq_nil_or_concat steps with rfl | ⟨before, ⟨inspector, operation⟩, rfl⟩
  · exact blank
  · rw [List.concat_eq_append] at opens ⊢
    obtain ⟨boundary, same⟩ := opens _ List.getLast?_concat
    dsimp only at same
    subst same
    rw [value_run_append]
    exact congrArg (fun performed => performed.1.session.lifecycle)
      ((situation.run before).value.1.perform_boundary inspector boundary)

/-! ## The main result -/

/-- A session asks at most once between two boundaries whether a recording is replayed, whatever
the inspectors of the moments would answer: from when it is made or has passed a boundary, over
every run up to the next one, it asks exactly if a segmentation fault is recorded, and does so at
the first.  Every segmentation fault that is recorded is told with the program counter exactly if
that first answer was that a recording is replayed, and otherwise with the address that caused it.
Every other event is told by itself, and no boundary makes the session ask. -/
theorem replay_is_asked_once_at_first_fault (settings : Settings) (highlighter : Highlighter)
    (width : BannerWidth) (world : World) (checks : Nat) (before : List (Inspector × Operation))
    (opens : ∀ step, before.getLast? = some step → ∃ boundary : Boundary,
      step.2 = boundary.operation)
    (steps : List (Inspector × Operation))
    (inside : ∀ step ∈ steps, ∀ boundary : Boundary, step.2 ≠ boundary.operation) :
    let opened := (run ⟨.fresh settings highlighter width, world, checks⟩ before).value.1
    let reached := (opened.run steps).value.1
    let occurrences := opened.occurrences steps
    let recorded := LifecycleRecord.empty.recordEach
    reached.session.lifecycle = (recorded occurrences).record ∧
    reached.checks = opened.checks + (recorded occurrences).checks ∧
    (recorded occurrences).checks =
      (if ∃ occurrence ∈ occurrences, occurrence.isFault = true then 1 else 0) ∧
    (∀ past occurrence later, occurrences = past ++ occurrence :: later →
      let after := recorded (past ++ [occurrence])
      (after.checks = (recorded past).checks +
        if occurrence.isFault = true ∧ ∀ earlier ∈ past, earlier.isFault = false then 1
        else 0) ∧
      (occurrence.isFault = true →
        ∃ first line, occurrences.find? Occurrence.isFault = some first ∧
          after.record.lines = [line] ∧ occurrence.TellsFault first.answer line) ∧
      (occurrence.isFault = false →
        after.record.lines = occurrence.event.bareMessage occurrence.palette)) ∧
    ∀ inspector (boundary : Boundary),
      let closed := (reached.perform inspector boundary.operation).value.1
      closed.checks = reached.checks ∧ closed.session.lifecycle = .empty := by
  intro opened reached occurrences recorded
  have blank : opened.session.lifecycle = .empty := lifecycle_run_boundary rfl opens
  obtain ⟨record, asked⟩ := opened.recorded_run inside
  rw [blank] at record asked
  constructor
  · exact record
  constructor
  · exact asked
  constructor
  · have once := LifecycleRecord.checks_recordEach_empty occurrences
    refine once.trans ?_
    by_cases fault : ∃ occurrence ∈ occurrences, occurrence.isFault = true
    · rw [if_pos fault, List.find?_isSome.mpr fault]
      rfl
    · rw [if_neg fault, Bool.eq_false_iff.mpr (mt List.find?_isSome.mp fault)]
      rfl
  constructor
  · intro past occurrence later split after
    have lines := LifecycleRecord.lines_recordEach_concat past occurrence
    constructor
    · exact LifecycleRecord.checks_recordEach_concat past occurrence
    constructor
    · intro fault
      have first : occurrences.find? Occurrence.isFault =
          some ((past.find? Occurrence.isFault).getD occurrence) := by
        rw [split, List.find?_append, List.find?_cons_of_pos fault, Option.or_some]
      exact ⟨_, _, first, lines.trans (if_pos fault), occurrence.tellsFault_faultLine _⟩
    · intro other
      exact lines.trans (if_neg (by rw [other]; decide))
  · intro inspector boundary closed
    have bounded : closed = { reached with session := reached.session.reset } :=
      congrArg Prod.fst (reached.perform_boundary inspector boundary)
    rw [bounded]
    exact ⟨rfl, rfl⟩

/-- A program that is replayed at its first fault and not at its second: the second is told with
the program counter nevertheless, and it is not asked again.  After the end of the session the
next fault is told with the address that caused it, and by then it has been asked twice. -/
theorem second_fault_is_told_by_first_answer :
    let replayed := { Script.blank with extensions := [replayExtension] }.inspector
    let native :=
      { Script.blank with registers := [("rip", 0x30)], fault := .address ⟨0x40⟩ }.inspector
    let fault : LifecycleEvent := .stopped (.signal segmentationFault)
    let settings := { Settings.initial with colour := false }
    let world : World := ⟨.initial, .fresh, none⟩
    let after := fun steps => (run ⟨.fresh settings plainHighlighter 12, world, 0⟩ steps).value.1
    let before : List (Inspector × Operation) := [(replayed, .start)]
    let steps : List (Inspector × Operation) :=
      [(replayed, .report fault), (native, .subscribe), (native, .send 0 fault),
        (native, .refresh ["s"])]
    let ended := before ++ steps ++ [(native, .finish)]
    let again : List (Inspector × Operation) := [(native, .report fault)]
    let second := ((after before).run steps).value.1
    let third := ((after ended).run again).value.1
    second.checks = 1 ∧
      second.session.lifecycle.lines =
        ["Program received signal SIGSEGV (current pc: 0x30)"] ∧
      third.checks = 2 ∧
      third.session.lifecycle.lines =
        ["Program received signal SIGSEGV (fault address 0x40)"] := by
  intro replayed native fault settings world after before steps ended again second third
  have inside : ∀ step ∈ steps ++ again, ∀ boundary : Boundary,
      step.2 ≠ boundary.operation := by
    intro step listed boundary
    simp only [steps, again, List.cons_append, List.nil_append, List.mem_cons, List.not_mem_nil,
      or_false] at listed
    rcases listed with rfl | rfl | rfl | rfl | rfl <;> cases boundary <;> nofun
  obtain ⟨-, asked, once, -⟩ := replay_is_asked_once_at_first_fault settings plainHighlighter 12
    world 0 before (fun step last => ⟨.start, by rw [← Option.some.inj last]; rfl⟩) steps
    (fun step listed => inside step (List.mem_append_left _ listed))
  obtain ⟨-, askedAgain, onceAgain, -⟩ := replay_is_asked_once_at_first_fault settings
    plainHighlighter 12 world 0 ended
    (fun step last => ⟨.finish, by rw [← Option.some.inj last]; rfl⟩) again
    (fun step listed => inside step (List.mem_append_right _ listed))
  rw [once, if_pos (by decide +kernel)] at asked
  rw [onceAgain, if_pos (by decide +kernel)] at askedAgain
  have unasked : (after before).checks = 0 := by decide +kernel
  have askedBefore : (after ended).checks = 1 := by decide +kernel
  constructor
  · exact asked.trans (congrArg (· + 1) unasked)
  constructor
  · decide +kernel
  constructor
  · exact askedAgain.trans (congrArg (· + 1) askedBefore)
  · decide +kernel

end Situation

end StopView
