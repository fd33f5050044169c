import StopView.Proofs.Delivery

/-!
# Attempts

Every batch is attempted once, whatever became of those before it.  Its report accounts for
each attempt, either among the destinations that were written or among the failures.  What
becomes of a batch depends on the files it meets, and if it is for the primary stream on how
the stream treats this batch; how the stream treats the others makes no difference.
-/

namespace StopView

/-- A batch that was to be delivered, and what became of it. -/
structure Attempt where
  batch : Batch
  outcome : Except Failure Unit

namespace Attempt

/-- The destination of a batch that was written. -/
def delivered? (attempt : Attempt) : Option Destination :=
  match attempt.outcome with
  | .ok () => some attempt.batch.destination
  | .error _ => none

/-- The destination of a batch that was not written, and the reason. -/
def failure? (attempt : Attempt) : Option (Destination × Failure) :=
  match attempt.outcome with
  | .ok () => none
  | .error cause => some (attempt.batch.destination, cause)

/-- The destination of a batch. -/
def destination (attempt : Attempt) : Destination :=
  attempt.batch.destination

end Attempt

/-- A failure belongs to a destination: it is one to read or write for the primary stream,
and one to deliver to this very path for a path. -/
def Failure.BelongsTo (cause : Failure) : Destination → Prop
  | .primary => ∃ reason, cause = .io reason
  | .path target => ∃ reason, cause = .delivery target reason

/-- Two lists divide a third between them: each of its elements is in one of the two, and
both keep its order. -/
inductive Divided {α : Type} : List α → List α → List α → Prop where
  | nil : Divided [] [] []
  | left {whole left right : List α} (item : α) (rest : Divided whole left right) :
      Divided (item :: whole) (item :: left) right
  | right {whole left right : List α} (item : α) (rest : Divided whole left right) :
      Divided (item :: whole) left (item :: right)

/-- A report accounts for attempts: each of them is either delivered or a failure, in the
order of the attempts and with the failure that it had. -/
structure Report.AccountsFor (report : Report) (attempts : List Attempt) : Prop where
  divided : Divided (attempts.map Attempt.destination) report.delivered
    (report.failures.map Prod.fst)
  delivered : report.delivered = attempts.filterMap Attempt.delivered?
  failures : report.failures = attempts.filterMap Attempt.failure?
  belongs : ∀ failure ∈ report.failures, failure.2.BelongsTo failure.1

/-- Destinations of attempts are divided between those that were written and those that
were not. -/
theorem divided_attempts (attempts : List Attempt) :
    Divided (attempts.map Attempt.destination) (attempts.filterMap Attempt.delivered?)
      ((attempts.filterMap Attempt.failure?).map Prod.fst) := by
  induction attempts with
  | nil => exact .nil
  | cons attempt rest ih =>
      rcases attempt with ⟨batch, outcome⟩
      cases outcome with
      | ok done => exact .left batch.destination ih
      | error cause => exact .right batch.destination ih

theorem PrimaryStream.mood_write (stream : PrimaryStream) (text : String) :
    (stream.write text).1.mood = stream.mood := by
  rcases stream with ⟨mood, stored, writes, flushes⟩
  cases mood <;> rfl

namespace World

/-- The world with its primary stream in another mood. -/
def inMood (world : World) (mood : StreamMood) : World :=
  { world with primary := { world.primary with mood } }

/-- What becomes of batches that are delivered one after the other, the primary stream
being in some mood for each of them. -/
def attempts (world : World) (clear : Bool) : List (StreamMood × Batch) → List Attempt
  | [] => []
  | (mood, batch) :: rest =>
      let delivered := (world.inMood mood).deliver batch.destination batch.lines clear
      ⟨batch, delivered.2⟩ :: delivered.1.attempts clear rest

/-- What becomes of batches in a world whose primary stream stays in its mood. -/
def attempted (world : World) (clear : Bool) (batches : List Batch) : List Attempt :=
  world.attempts clear (batches.map (Prod.mk world.primary.mood))

theorem map_batch_attempts (world : World) (clear : Bool) (treated : List (StreamMood × Batch)) :
    (world.attempts clear treated).map Attempt.batch = treated.map Prod.snd := by
  induction treated generalizing world with
  | nil => rfl
  | cons first rest ih =>
      rw [attempts, List.map_cons, List.map_cons, ih]

theorem map_batch_attempted (world : World) (clear : Bool) (batches : List Batch) :
    (world.attempted clear batches).map Attempt.batch = batches := by
  rw [attempted, map_batch_attempts, List.map_map]
  exact List.map_id _

/-! ## What an attempt depends on -/

variable (world : World) (destination : Destination) (lines : List String) (clear : Bool)

theorem mood_deliver :
    (world.deliver destination lines clear).1.primary.mood = world.primary.mood := by
  cases destination with
  | primary =>
      rw [deliver, deliverPrimary]
      dsimp only
      split
      · rfl
      · exact world.primary.mood_write _
  | path path => rfl

theorem belongsTo_of_deliver {cause : Failure}
    (failed : (world.deliver destination lines clear).2 = .error cause) :
    cause.BelongsTo destination := by
  cases destination with
  | primary =>
      rw [deliver, deliverPrimary] at failed
      dsimp only at failed
      split at failed
      · contradiction
      · cases written : (world.primary.write (primaryText lines clear)).2 with
        | ok done =>
            rw [written] at failed
            contradiction
        | error reason =>
            rw [written] at failed
            exact ⟨reason, (Except.error.inj failed).symm⟩
  | path path =>
      rw [deliver, deliverPath] at failed
      dsimp only at failed
      cases written : (world.files.overwrite path (joinLines lines).toUTF8).2 with
      | ok done =>
          rw [written] at failed
          contradiction
      | error reason =>
          rw [written] at failed
          exact ⟨reason, (Except.error.inj failed).symm⟩

variable {world destination} {other : World}

theorem files_deliver_congr (same : world.files = other.files) :
    (world.deliver destination lines clear).1.files =
      (other.deliver destination lines clear).1.files := by
  cases destination with
  | primary => rw [deliver, deliver, files_deliverPrimary, files_deliverPrimary, same]
  | path path => rw [deliver, deliver, files_deliverPath, files_deliverPath, same]

/-- Whether a delivery works depends on the files, and on the mood of the primary stream if
it is for the stream. -/
theorem outcome_deliver_congr (same : world.files = other.files)
    (mood : destination = .primary → world.primary.mood = other.primary.mood) :
    (world.deliver destination lines clear).2 = (other.deliver destination lines clear).2 := by
  cases destination with
  | primary =>
      rw [deliver, deliver, deliverPrimary, deliverPrimary]
      dsimp only
      split
      · rfl
      · rw [PrimaryStream.write, PrimaryStream.write, mood rfl]
        cases other.primary.mood <;> rfl
  | path path => rw [deliver, deliver, deliverPath, deliverPath, same]

/-- What becomes of a batch does not depend on how the primary stream treats the others. -/
theorem getElem?_attempts_congr (same : world.files = other.files)
    {treated otherwise : List (StreamMood × Batch)}
    (batches : treated.map Prod.snd = otherwise.map Prod.snd) {index : Nat}
    (mood : ∀ batch, (treated.map Prod.snd)[index]? = some batch → batch.destination = .primary →
      (treated.map Prod.fst)[index]? = (otherwise.map Prod.fst)[index]?) :
    (world.attempts clear treated)[index]? = (other.attempts clear otherwise)[index]? := by
  induction treated generalizing world other otherwise index with
  | nil =>
      cases otherwise with
      | nil => rfl
      | cons first rest => contradiction
  | cons first rest ih =>
      cases otherwise with
      | nil => contradiction
      | cons second others =>
          rcases first with ⟨firstMood, batch⟩
          rcases second with ⟨secondMood, otherBatch⟩
          obtain ⟨here, there⟩ := List.cons.inj batches
          change batch = otherBatch at here
          subst here
          rw [attempts, attempts]
          cases index with
          | zero =>
              simp only [List.getElem?_cons_zero, Option.some.injEq, Attempt.mk.injEq, true_and]
              apply outcome_deliver_congr
              · exact same
              · intro primary
                exact Option.some.inj (mood batch rfl primary)
          | succ index =>
              rw [List.getElem?_cons_succ, List.getElem?_cons_succ]
              apply ih _ there mood
              exact files_deliver_congr batch.lines clear same

end World

/-! ## Reports and notices -/

namespace Delivery

variable (delivery : Delivery) (clear : Bool)

/-- The first of several batches is attempted in the world as it is, the others in the world
after that. -/
theorem attempted_cons (world : World) (batch : Batch) (rest : List Batch) :
    world.attempted clear (batch :: rest) =
      ⟨batch, (world.deliver batch.destination batch.lines clear).2⟩ ::
        (world.deliver batch.destination batch.lines clear).1.attempted clear rest := by
  have mood := world.mood_deliver batch.destination batch.lines clear
  rw [World.attempted, World.attempted, mood]
  rfl

/-- The report of several deliveries lists what was written and what was not. -/
theorem report_deliverAll (batches : List Batch) :
    (delivery.deliverAll clear batches).value.report =
      ⟨delivery.report.delivered ++
          (delivery.world.attempted clear batches).filterMap Attempt.delivered?,
        delivery.report.failures ++
          (delivery.world.attempted clear batches).filterMap Attempt.failure?⟩ := by
  induction batches generalizing delivery with
  | nil => simp [deliverAll, World.attempted, World.attempts]
  | cons batch rest ih =>
      have first : (delivery.deliver batch clear).value =
          ⟨(delivery.world.deliver batch.destination batch.lines clear).1,
            delivery.report.add batch.destination
              (delivery.world.deliver batch.destination batch.lines clear).2⟩ := rfl
      rw [deliverAll, Noted.value_bind, ih, attempted_cons, first]
      cases (delivery.world.deliver batch.destination batch.lines clear).2 with
      | ok done =>
          simp [Report.add, List.filterMap_cons, Attempt.delivered?, Attempt.failure?]
      | error cause =>
          simp [Report.add, List.filterMap_cons, Attempt.delivered?, Attempt.failure?]

theorem notices_deliverAll (batches : List Batch) :
    (delivery.deliverAll clear batches).notices =
      ((delivery.world.attempted clear batches).filterMap Attempt.failure?).map fun failure =>
        .deliveryFailed failure.2 := by
  induction batches generalizing delivery with
  | nil => rfl
  | cons batch rest ih =>
      rw [deliverAll, Noted.notices_bind, ih, attempted_cons]
      change (match (delivery.world.deliver batch.destination batch.lines clear).2 with
        | .ok () => []
        | .error cause => [Notice.deliveryFailed cause]) ++ _ = _
      cases (delivery.world.deliver batch.destination batch.lines clear).2 with
      | ok done => rfl
      | error cause => rfl

end Delivery

namespace World

variable (world : World) (clear : Bool)

theorem belongsTo_of_mem_attempted {batches : List Batch} {failure : Destination × Failure}
    (listed : failure ∈ (world.attempted clear batches).filterMap Attempt.failure?) :
    failure.2.BelongsTo failure.1 := by
  induction batches generalizing world with
  | nil => cases listed
  | cons batch rest ih =>
      rw [Delivery.attempted_cons] at listed
      cases outcome : (world.deliver batch.destination batch.lines clear).2 with
      | ok done =>
          rw [outcome] at listed
          exact ih _ listed
      | error cause =>
          rw [outcome] at listed
          rcases List.mem_cons.mp listed with rfl | later
          · exact world.belongsTo_of_deliver batch.destination batch.lines clear outcome
          · exact ih _ later

/-- A delivery of several batches is reported in full. -/
theorem accountsFor_deliverAll (batches : List Batch) :
    (world.deliverAll batches clear).value.report.AccountsFor (world.attempted clear batches) := by
  have report : (world.deliverAll batches clear).value.report =
      ⟨(world.attempted clear batches).filterMap Attempt.delivered?,
        (world.attempted clear batches).filterMap Attempt.failure?⟩ :=
    Delivery.report_deliverAll ⟨world, .empty⟩ clear batches
  rw [report]
  exact ⟨divided_attempts _, rfl, rfl,
    fun _ listed => world.belongsTo_of_mem_attempted clear listed⟩

end World

end StopView
