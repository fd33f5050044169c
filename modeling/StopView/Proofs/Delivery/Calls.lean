import StopView.Proofs.Delivery.Alike

/-!
# Runs of the router

A router is called again and again: each call hands it a batch, says whether the screen is to
be cleared first, and meets a primary stream and a file that may treat this call otherwise than
the one before.  What is left in the end can be read off the calls.  The stream has stored the
texts that it took, one after the other; a file holds what it took of the latest call for its
place, which is all of its lines if that call worked; and whether a call works depends on the
directories and devices that were there before all of them, and on how it is treated itself.
-/

namespace StopView

/-- The file system with its files in one mood. -/
def FileSystem.inMood (files : FileSystem) (mood : FileMood) : FileSystem :=
  { files with moods := fun _ => mood }

theorem FileSystem.sameTree_inMood (files : FileSystem) (mood : FileMood) :
    SameTree files (files.inMood mood) :=
  ⟨rfl, fun _ => Iff.rfl, fun _ _ => Iff.rfl⟩

/-- Whether a stream in this mood keeps what it is given. -/
def StreamMood.stores : StreamMood → Bool
  | .accepting | .refusingFlush => true
  | .refusing | .takingNothing => false

/-- A call of the router: what is delivered, whether the screen is cleared first, and how the
primary stream and the file that is opened treat what they are given. -/
structure RouterCall where
  batch : Batch
  clear : Bool
  mood : StreamMood
  fileMood : FileMood

namespace RouterCall

variable (call : RouterCall)

/-- Whether a call has something for the primary stream. -/
def reachesStream : Bool :=
  decide (call.batch.destination = .primary) && (call.clear || !call.batch.lines.isEmpty)

/-- Whether a call has something for the primary stream and the stream keeps it. -/
def isStored : Bool :=
  call.reachesStream && call.mood.stores

/-- Lines as they are written, each with its end. -/
def fileText : String :=
  String.join (call.batch.lines.map fun line => line ++ "\n")

/-- What a call has for the primary stream: the code that clears the screen if that is asked
for, and then the lines. -/
def streamText : String :=
  (if call.clear then clearCode else "") ++ call.fileText

/-- What the file that a call opens keeps of its lines. -/
def kept : ByteArray :=
  call.fileMood.kept call.fileText.toUTF8

/-- The place that a call opens for writing. -/
def place? (files : FileSystem) : Option Place :=
  match call.batch.destination with
  | .primary => none
  | .path path =>
      match files.openPlace path with
      | .ok place => some place
      | .error _ => none

/-- A call's own writing works.  For the primary stream, the stream accepts what there is for
it; for a path, the path opens a place, and if there are any lines this place takes all of
them. -/
def Works (files : FileSystem) : Prop :=
  match call.batch.destination with
  | .primary => call.reachesStream = true → call.mood = .accepting
  | .path _ =>
      ∃ place, call.place? files = some place ∧
        (call.batch.lines = [] ∨ (files.inMood call.fileMood).TakesAll place)

variable {call}

theorem place?_eq_some_iff {files : FileSystem} {place : Place} :
    call.place? files = some place ↔
      ∃ path, call.batch.destination = .path path ∧ files.openPlace path = .ok place := by
  rw [place?]
  cases call.batch.destination with
  | primary => simp
  | path path => cases opens : files.openPlace path <;> simp [opens]

theorem isEmpty_fileText (call : RouterCall) :
    call.fileText.toUTF8.isEmpty = true ↔ call.batch.lines = [] := by
  change (joinLines call.batch.lines).toUTF8.isEmpty = true ↔ _
  rw [isEmpty_toUTF8_joinLines, List.isEmpty_iff]

theorem works_iff_of_place? {files : FileSystem} {place : Place}
    (opens : call.place? files = some place)
    (file : ∀ device, files.entryAt place ≠ some (.device device)) :
    call.Works files ↔ call.fileMood.outcome call.fileText.toUTF8 = .ok () := by
  have takes : (files.inMood call.fileMood).TakesAll place ↔ call.fileMood = .accepting := by
    constructor
    · rintro (found | ⟨_, accepting⟩)
      · exact absurd found (file .null)
      · exact accepting
    · exact fun accepting => .inr ⟨file, accepting⟩
  obtain ⟨path, destination, _⟩ := place?_eq_some_iff.mp opens
  rw [FileMood.outcome_eq_ok_iff, isEmpty_fileText, ← takes, Works, destination]
  simp [opens]

theorem reachesStream_primary_iff (lines : List String) (clear : Bool) (mood : StreamMood)
    (fileMood : FileMood) :
    reachesStream ⟨⟨.primary, lines⟩, clear, mood, fileMood⟩ = true ↔
      ¬primaryText lines clear = "" := by
  rw [primaryText_eq_empty_iff, reachesStream]
  cases clear <;> simp

theorem place?_congr {before after : FileSystem} (same : FileSystem.SameTree before after) :
    call.place? after = call.place? before := by
  apply Option.ext
  intro place
  simp only [place?_eq_some_iff, same.openPlace_eq_ok_iff]

theorem works_congr {before after : FileSystem} (same : FileSystem.SameTree before after) :
    call.Works after ↔ call.Works before := by
  rw [Works, Works]
  cases call.batch.destination with
  | primary => exact Iff.rfl
  | path path =>
      have inMood : FileSystem.SameTree (before.inMood call.fileMood)
          (after.inMood call.fileMood) := ⟨same.home, same.directory, same.device⟩
      have takes : ∀ place, (after.inMood call.fileMood).TakesAll place ↔
          (before.inMood call.fileMood).TakesAll place := fun _ => inMood.takesAll_iff rfl
      simp only [place?_congr same, takes]

/-- The latest of several calls that opens a place. -/
def latest? (files : FileSystem) (calls : List RouterCall) (place : Place) : Option RouterCall :=
  (calls.filter fun call => call.place? files = some place).getLast?

theorem latest?_cons (files : FileSystem) (call : RouterCall) (rest : List RouterCall)
    (place : Place) :
    latest? files (call :: rest) place =
      (latest? files rest place).or
        (if call.place? files = some place then some call else none) := by
  rw [latest?, latest?]
  by_cases opens : call.place? files = some place
  · rw [List.filter_cons_of_pos (by simpa using opens), List.getLast?_cons, if_pos opens]
    cases ((rest.filter fun call => call.place? files = some place).getLast?) <;> rfl
  · rw [List.filter_cons_of_neg (by simpa using opens), if_neg opens, Option.or_none]

theorem place?_of_latest? {files : FileSystem} {calls : List RouterCall} {place : Place}
    (last : latest? files calls place = some call) : call.place? files = some place :=
  of_decide_eq_true (List.mem_filter.mp (List.mem_of_getLast? last)).2

theorem latest?_congr {before after : FileSystem} (same : FileSystem.SameTree before after)
    (calls : List RouterCall) (place : Place) :
    latest? after calls place = latest? before calls place := by
  simp only [latest?, place?_congr same]

end RouterCall

namespace World

variable (world : World) (call : RouterCall)

/-- The world as a call meets it. -/
def meeting : World :=
  { world.inMood call.mood with files := world.files.inMood call.fileMood }

theorem openPlace_meeting {path : Path} (destination : call.batch.destination = .path path)
    (place : Place) :
    (world.meeting call).files.openPlace path = .ok place ↔
      call.place? world.files = some place := by
  rw [RouterCall.place?_eq_some_iff]
  simp only [destination, Destination.path.injEq, exists_eq_left']
  exact (world.files.sameTree_inMood call.fileMood).openPlace_eq_ok_iff

/-- Carry out a call of the router. -/
def handle : World × Except Failure Unit :=
  (world.meeting call).deliver call.batch.destination call.batch.lines call.clear

/-- Carry out calls, one after the other: the world after them, and what each of them
answered. -/
def handleAll (world : World) : List RouterCall → World × List (Except Failure Unit)
  | [] => (world, [])
  | call :: rest =>
      let first := world.handle call
      let others := first.1.handleAll rest
      (others.1, first.2 :: others.2)

/-! ## One call -/

/-- A call writes to the primary stream once, if it has something for it, and the stream is
flushed if it has taken that. -/
theorem primary_handle :
    (world.handle call).1.primary =
      if call.reachesStream then
        ⟨call.mood, world.primary.stored ++ (if call.mood.stores then call.streamText else ""),
          world.primary.writes + 1, world.primary.flushes + (if call.mood.stores then 1 else 0)⟩
      else { world.primary with mood := call.mood } := by
  rcases call with ⟨⟨destination, lines⟩, clear, mood, fileMood⟩
  cases destination with
  | path path => rfl
  | primary =>
      have reaches := RouterCall.reachesStream_primary_iff lines clear mood fileMood
      rw [handle, deliver, deliverPrimary]
      dsimp only
      by_cases empty : primaryText lines clear = ""
      · rw [if_pos empty, if_neg (mt reaches.mp (not_not_intro empty))]
        rfl
      · rw [if_neg empty, if_pos (reaches.mpr empty)]
        cases mood <;> simp [PrimaryStream.write, meeting, inMood, StreamMood.stores, primaryText,
          RouterCall.streamText, RouterCall.fileText, joinLines]

theorem sameTree_handle : FileSystem.SameTree world.files (world.handle call).1.files := by
  have delivered := (world.meeting call).sameTree_deliver call.batch.destination
    call.batch.lines call.clear
  exact ⟨delivered.home, delivered.directory, delivered.device⟩

/-- A call answers that all is well exactly if its own writing works. -/
theorem handle_eq_ok_iff : (world.handle call).2 = .ok () ↔ call.Works world.files := by
  rcases call with ⟨⟨destination, lines⟩, clear, mood, fileMood⟩
  let call : RouterCall := ⟨⟨destination, lines⟩, clear, mood, fileMood⟩
  cases destination with
  | path path =>
      have delivered : (world.handle call).2 = .ok () ↔
          ((world.meeting call).files.overwrite path (joinLines lines).toUTF8).2 = .ok () :=
        (world.meeting call).deliverPath_eq_ok_iff path
      rw [delivered, FileSystem.overwrite_eq_ok_iff, isEmpty_toUTF8_joinLines,
        List.isEmpty_iff]
      simp only [world.openPlace_meeting call rfl]
      exact Iff.rfl
  | primary =>
      have reaches := RouterCall.reachesStream_primary_iff lines clear mood fileMood
      rw [RouterCall.Works, handle, deliver, deliverPrimary, reaches]
      dsimp only
      by_cases empty : primaryText lines clear = ""
      · rw [if_pos empty]
        exact iff_of_true rfl fun written => absurd empty written
      · rw [if_neg empty]
        cases mood <;> simp [PrimaryStream.write, meeting, inMood, Except.mapError, empty]

/-- A call puts what the file keeps of its lines at the place that it opens, and leaves every
other file. -/
theorem entryAt_handle {place : Place}
    (file : ∀ device, world.files.entryAt place ≠ some (.device device)) :
    (world.handle call).1.files.entryAt place =
      if call.place? world.files = some place then some (.file call.kept)
      else world.files.entryAt place := by
  cases destination : call.batch.destination with
  | primary =>
      have none : call.place? world.files ≠ some place := by
        simp [RouterCall.place?, destination]
      rw [handle, destination, deliver, files_deliverPrimary, if_neg none]
      rfl
  | path path =>
      rw [handle, destination, deliver, files_deliverPath]
      simp only [← world.openPlace_meeting call destination]
      split
      · rename_i opens
        exact FileSystem.entryAt_overwrite opens file
      · rename_i elsewhere
        exact FileSystem.entryAt_overwrite_of_ne elsewhere

/-! ## Several calls -/

theorem sameTree_handleAll (calls : List RouterCall) :
    FileSystem.SameTree world.files (world.handleAll calls).1.files := by
  induction calls generalizing world with
  | nil => exact FileSystem.SameTree.refl _
  | cons call rest ih => exact (world.sameTree_handle call).trans (ih (world.handle call).1)

/-- The primary stream has stored what it took, in the order of the calls, and was written to
and flushed once for each text. -/
theorem primary_handleAll (calls : List RouterCall) :
    (world.handleAll calls).1.primary.stored =
        world.primary.stored ++
          String.join ((calls.filter RouterCall.isStored).map RouterCall.streamText) ∧
      (world.handleAll calls).1.primary.writes =
        world.primary.writes + (calls.filter RouterCall.reachesStream).length ∧
      (world.handleAll calls).1.primary.flushes =
        world.primary.flushes + (calls.filter RouterCall.isStored).length := by
  induction calls generalizing world with
  | nil => exact ⟨String.append_empty.symm, rfl, rfl⟩
  | cons call rest ih =>
      obtain ⟨stored, writes, flushes⟩ := ih (world.handle call).1
      rw [handleAll, stored, writes, flushes, primary_handle]
      cases reaches : call.reachesStream with
      | false => simp [RouterCall.isStored, reaches]
      | true =>
          cases keeps : call.mood.stores with
          | false => simp [RouterCall.isStored, reaches, keeps]; omega
          | true =>
              simp [RouterCall.isStored, reaches, keeps, String.append_assoc]
              omega

/-- A file holds what it kept of the latest call for its place, and what it held before if there
is none. -/
theorem entryAt_handleAll (calls : List RouterCall) {place : Place}
    (file : ∀ device, world.files.entryAt place ≠ some (.device device)) :
    (world.handleAll calls).1.files.entryAt place =
      match RouterCall.latest? world.files calls place with
      | some call => some (.file call.kept)
      | none => world.files.entryAt place := by
  induction calls generalizing world with
  | nil => rfl
  | cons call rest ih =>
      have same := world.sameTree_handle call
      have further := ih (world.handle call).1 fun device =>
        mt (same.device place device).mp (file device)
      rw [handleAll, further, RouterCall.latest?_congr same, world.entryAt_handle call file,
        RouterCall.latest?_cons]
      cases RouterCall.latest? world.files rest place with
      | some later => rfl
      | none =>
          by_cases opens : call.place? world.files = some place
          · rw [if_pos opens, if_pos opens]
            rfl
          · rw [if_neg opens, if_neg opens]
            rfl

/-- Every call answers whether its own writing has worked. -/
theorem forall₂_handleAll (calls : List RouterCall) :
    List.Forall₂ (fun (call : RouterCall) answer => answer = .ok () ↔ call.Works world.files) calls
      (world.handleAll calls).2 := by
  induction calls generalizing world with
  | nil => exact .nil
  | cons call rest ih =>
      constructor
      · exact world.handle_eq_ok_iff call
      · apply (ih (world.handle call).1).imp
        intro later answer answers
        exact answers.trans (RouterCall.works_congr (world.sameTree_handle call))

/-- After any calls, and however the primary stream and the files treat each of them: the stream
has stored the texts that it took, one after the other, and was written to once for each text that
there was for it and flushed once for each that it took.  A file reads as what it kept of the latest
call for its place, under every path that opens this place.  That is the lines of the call and
nothing else if the call worked; if the file has refused some of them, it is the part that it took
in front of those.  Every other place is as it was.  Each call answers that all is well exactly if
its own writing has worked. -/
theorem calls_account_for_every_text (calls : List RouterCall) :
    let after := (world.handleAll calls).1
    let latest := RouterCall.latest? world.files calls
    let isDevice := fun place => ∃ device, world.files.entryAt place = some (.device device)
    after.primary.stored =
        world.primary.stored ++
          String.join ((calls.filter RouterCall.isStored).map RouterCall.streamText) ∧
      after.primary.writes =
        world.primary.writes + (calls.filter RouterCall.reachesStream).length ∧
      after.primary.flushes =
        world.primary.flushes + (calls.filter RouterCall.isStored).length ∧
      (∀ place call, latest place = some call → ¬isDevice place →
        ∃ content, after.files.entryAt place = some (.file content) ∧
          (∀ path, world.files.openPlace path = .ok place →
            after.files.read path = .ok content) ∧
          (call.Works world.files → content = call.fileText.toUTF8) ∧
          (¬call.Works world.files → ∃ taken cause refused,
            call.fileMood = .refusing taken cause ∧ content.size ≤ taken ∧
              refused ≠ ByteArray.empty ∧ content ++ refused = call.fileText.toUTF8)) ∧
      (∀ place, latest place = none ∨ isDevice place →
        after.files.entryAt place = world.files.entryAt place) ∧
      List.Forall₂ (fun (call : RouterCall) answer => answer = .ok () ↔ call.Works world.files)
        calls (world.handleAll calls).2 := by
  intro after latest isDevice
  obtain ⟨stored, writes, flushes⟩ := world.primary_handleAll calls
  have same := world.sameTree_handleAll calls
  have holds : ∀ place, ¬isDevice place → after.files.entryAt place =
      match latest place with
      | some call => some (.file call.kept)
      | none => world.files.entryAt place := fun place file =>
    world.entryAt_handleAll calls fun device found => file ⟨device, found⟩
  constructor
  · exact stored
  constructor
  · exact writes
  constructor
  · exact flushes
  constructor
  · intro place call last notDevice
    have file : ∀ device, world.files.entryAt place ≠ some (.device device) :=
      fun device found => notDevice ⟨device, found⟩
    have entry := holds place notDevice
    rw [last] at entry
    have works := RouterCall.works_iff_of_place? (RouterCall.place?_of_latest? last) file
    refine ⟨call.kept, entry, ?_, ?_, ?_⟩
    · intro path opens
      obtain ⟨checked, opened⟩ := FileSystem.openPlace_eq_ok_iff.mp opens
      exact FileSystem.read_of_writePlace checked (same.writePlace_eq_ok_iff.mpr opened) entry
    · exact fun done => FileMood.kept_of_outcome (works.mp done)
    · intro failed
      exact FileMood.exists_refused (mt works.mpr failed)
  constructor
  · intro place untouched
    by_cases device : isDevice place
    · obtain ⟨which, found⟩ := device
      rw [found]
      exact (same.device place which).mpr found
    · have entry := holds place device
      rw [untouched.resolve_right device] at entry
      exact entry
  · exact world.forall₂_handleAll calls

/-- A file without space is emptied nevertheless: what the first call has put there is gone, and of
the second there is only what the file took.  The code that clears the screen is not added to a
file, but it may be what is delivered. -/
theorem failed_call_leaves_part_of_its_text :
    let world : World := ⟨.initial, .fresh, none⟩
    let path : Path := ⟨"pane"⟩
    let first : RouterCall := ⟨⟨.path path, ["one", "two"]⟩, true, .accepting, .accepting⟩
    let second : RouterCall :=
      ⟨⟨.path path, ["three"]⟩, true, .accepting, .refusing 2 (.os .noSpace)⟩
    let third : RouterCall := ⟨⟨.path path, [clearCode]⟩, false, .accepting, .accepting⟩
    let contentAfter := fun calls => (world.handleAll calls).1.files.read path
    (world.handleAll [first, second]).2 = [.ok (), .error (.delivery path (.os .noSpace))] ∧
      contentAfter [first] = .ok first.fileText.toUTF8 ∧
      contentAfter [first, second] = .ok "th".toUTF8 ∧
      contentAfter [first, second] ≠ contentAfter [first] ∧
      contentAfter [third] = .ok (clearCode ++ "\n").toUTF8 := by
  decide +kernel

end World

end StopView
