import StopView.Proofs.FileSystem.ReadBack
import StopView.Report

/-!
# What deliveries leave behind

Delivering a batch touches one thing only: the primary stream, or the place that its
path opens.  Of several deliveries that all succeed, a place therefore holds what the
last batch for it said, and the primary stream has stored the texts of its batches in
order.
-/

namespace StopView

namespace World

variable (world : World) {destination : Destination} {lines : List String} {clear : Bool}

theorem files_deliverPrimary : (world.deliverPrimary lines clear).1.files = world.files := by
  rw [deliverPrimary]
  dsimp only
  split <;> rfl

theorem stored_deliverPrimary (written : (world.deliverPrimary lines clear).2 = .ok ()) :
    (world.deliverPrimary lines clear).1.primary.stored =
      world.primary.stored ++ primaryText lines clear := by
  rw [deliverPrimary] at written ⊢
  dsimp only at written ⊢
  by_cases empty : primaryText lines clear = ""
  · rw [if_pos empty, empty, String.append_empty]
  · rw [if_neg empty] at written ⊢
    simp only [PrimaryStream.write] at written ⊢
    cases mood : world.primary.mood with
    | accepting => simp
    | refusing => simp [mood, Except.mapError] at written
    | takingNothing => simp [mood, Except.mapError] at written
    | refusingFlush => simp [mood, Except.mapError] at written

theorem files_deliverPath (path : Path) :
    (world.deliverPath path lines).1.files =
      (world.files.overwrite path (joinLines lines).toUTF8).1 :=
  rfl

/-- Lines are delivered to a path if all of them can be written there. -/
theorem deliverPath_eq_ok_iff (path : Path) :
    (world.deliverPath path lines).2 = .ok () ↔
      (world.files.overwrite path (joinLines lines).toUTF8).2 = .ok () := by
  rw [deliverPath]
  dsimp only
  cases (world.files.overwrite path (joinLines lines).toUTF8).2 <;> simp [Except.mapError]

theorem sameTree_deliver (destination : Destination) (lines : List String) (clear : Bool) :
    FileSystem.SameTree world.files (world.deliver destination lines clear).1.files := by
  cases destination with
  | primary =>
      rw [deliver, files_deliverPrimary]
      exact FileSystem.SameTree.refl _
  | path path => exact world.files.sameTree_overwrite path _

theorem terminal_deliver (destination : Destination) (lines : List String) (clear : Bool) :
    (world.deliver destination lines clear).1.terminal = world.terminal := by
  cases destination with
  | primary =>
      rw [deliver, deliverPrimary]
      dsimp only
      split <;> rfl
  | path path => rfl

end World

/-- A batch is for the file at a place. -/
def Batch.Opens (batch : Batch) (files : FileSystem) (place : Place) : Prop :=
  ∃ path, batch.destination = .path path ∧ files.writePlace path = .ok place

theorem Batch.opens_congr {batch : Batch} {before after : FileSystem} {place : Place}
    (same : FileSystem.SameTree before after) :
    batch.Opens after place ↔ batch.Opens before place := by
  constructor
  · rintro ⟨path, destination, opens⟩
    exact ⟨path, destination, same.writePlace_eq_ok_iff.mp opens⟩
  · rintro ⟨path, destination, opens⟩
    exact ⟨path, destination, same.writePlace_eq_ok_iff.mpr opens⟩

namespace World

variable (world : World) {batch : Batch} {clear : Bool} {place : Place}

theorem entryAt_deliver_of_not_opens (elsewhere : ¬batch.Opens world.files place) :
    (world.deliver batch.destination batch.lines clear).1.files.entryAt place =
      world.files.entryAt place := by
  cases destination : batch.destination with
  | primary => rw [deliver, files_deliverPrimary]
  | path path =>
      rw [deliver, files_deliverPath]
      apply FileSystem.entryAt_overwrite_of_ne
      intro opens
      exact elsewhere ⟨path, destination, (FileSystem.openPlace_eq_ok_iff.mp opens).2⟩

theorem opens_of_deliver {path : Path} (isPath : batch.destination = .path path)
    (done : (world.deliver batch.destination batch.lines clear).2 = .ok ()) :
    ∃ place, world.files.openPlace path = .ok place := by
  rw [isPath, deliver, deliverPath_eq_ok_iff, FileSystem.overwrite_eq_ok_iff] at done
  obtain ⟨place, opens, _⟩ := done
  exact ⟨place, opens⟩

theorem entryAt_deliver (opens : batch.Opens world.files place)
    (kept : ∀ device, world.files.entryAt place ≠ some (.device device))
    (done : (world.deliver batch.destination batch.lines clear).2 = .ok ()) :
    (world.deliver batch.destination batch.lines clear).1.files.entryAt place =
      some (.file (joinLines batch.lines).toUTF8) := by
  obtain ⟨path, destination, opensPath⟩ := opens
  obtain ⟨found, opensFound⟩ := world.opens_of_deliver destination done
  have same : found = place :=
    Except.ok.inj ((FileSystem.openPlace_eq_ok_iff.mp opensFound).2.symm.trans opensPath)
  subst same
  rw [destination, deliver, deliverPath_eq_ok_iff,
    FileSystem.outcome_overwrite opensFound kept] at done
  rw [destination, deliver, files_deliverPath, FileSystem.entryAt_overwrite opensFound kept,
    FileMood.kept_of_outcome done]

theorem stored_deliver (done : (world.deliver batch.destination batch.lines clear).2 = .ok ()) :
    (world.deliver batch.destination batch.lines clear).1.primary.stored =
      world.primary.stored ++
        if batch.destination = .primary then primaryText batch.lines clear else "" := by
  cases destination : batch.destination with
  | primary =>
      rw [destination, deliver] at done
      rw [deliver, world.stored_deliverPrimary done, if_pos rfl]
  | path path =>
      rw [deliver, if_neg (by simp), String.append_empty]
      rfl

end World

namespace Report

/-- A report stays complete if what is added has worked. -/
theorem isComplete_add_iff {report : Report} {destination : Destination}
    {outcome : Except Failure Unit} :
    (report.add destination outcome).isComplete = true ↔
      report.isComplete = true ∧ outcome = .ok () := by
  cases outcome with
  | ok done => simp [add, isComplete]
  | error cause => simp [add, isComplete]

/-- The destinations that something was to be delivered to, those that worked first. -/
def attempted (report : Report) : List Destination :=
  report.delivered ++ report.failures.map Prod.fst

theorem perm_attempted_add (report : Report) (destination : Destination)
    (outcome : Except Failure Unit) :
    (report.add destination outcome).attempted.Perm (destination :: report.attempted) := by
  cases outcome with
  | ok done =>
      rw [add, attempted, List.append_assoc]
      exact List.perm_middle
  | error cause =>
      rw [add, attempted, List.map_append, ← List.append_assoc]
      exact List.perm_append_singleton destination _

end Report

namespace Delivery

variable (delivery : Delivery) (clear : Bool)

theorem value_deliverAll_append (first second : List Batch) :
    (delivery.deliverAll clear (first ++ second)).value =
      ((delivery.deliverAll clear first).value.deliverAll clear second).value := by
  induction first generalizing delivery with
  | nil => rfl
  | cons batch rest ih => exact ih (delivery.deliver batch clear).value

theorem sameTree_deliverAll (batches : List Batch) :
    FileSystem.SameTree delivery.world.files
      (delivery.deliverAll clear batches).value.world.files := by
  induction batches generalizing delivery with
  | nil => exact FileSystem.SameTree.refl _
  | cons batch rest ih =>
      exact (delivery.world.sameTree_deliver batch.destination batch.lines clear).trans
        (ih (delivery.deliver batch clear).value)

theorem terminal_deliverAll (batches : List Batch) :
    (delivery.deliverAll clear batches).value.world.terminal = delivery.world.terminal := by
  induction batches generalizing delivery with
  | nil => rfl
  | cons batch rest ih =>
      exact (ih (delivery.deliver batch clear).value).trans
        (delivery.world.terminal_deliver batch.destination batch.lines clear)

theorem entryAt_deliverAll_of_not_opens {batches : List Batch} {place : Place}
    (elsewhere : ∀ batch ∈ batches, ¬batch.Opens delivery.world.files place) :
    (delivery.deliverAll clear batches).value.world.files.entryAt place =
      delivery.world.files.entryAt place := by
  induction batches generalizing delivery with
  | nil => rfl
  | cons batch rest ih =>
      have same := delivery.world.sameTree_deliver batch.destination batch.lines clear
      have further := ih (delivery.deliver batch clear).value fun other listed =>
        mt (Batch.opens_congr same).mp (elsewhere other (List.mem_cons_of_mem batch listed))
      exact further.trans
        (delivery.world.entryAt_deliver_of_not_opens (elsewhere batch List.mem_cons_self))

/-- The report is complete if it was before and every delivery has worked. -/
theorem isComplete_deliver_iff (batch : Batch) :
    (delivery.deliver batch clear).value.report.isComplete = true ↔
      delivery.report.isComplete = true ∧
        (delivery.world.deliver batch.destination batch.lines clear).2 = .ok () :=
  Report.isComplete_add_iff

/-- A report that is complete in the end was complete before. -/
theorem isComplete_of_deliverAll {batches : List Batch}
    (complete : (delivery.deliverAll clear batches).value.report.isComplete = true) :
    delivery.report.isComplete = true := by
  induction batches generalizing delivery with
  | nil => exact complete
  | cons batch rest ih =>
      exact ((delivery.isComplete_deliver_iff clear batch).mp
        (ih (delivery.deliver batch clear).value complete)).1

variable {delivery clear}

/-- Every batch is attempted once. -/
theorem perm_attempted_deliverAll (batches : List Batch) :
    (delivery.deliverAll clear batches).value.report.attempted.Perm
      (batches.map Batch.destination ++ delivery.report.attempted) := by
  induction batches generalizing delivery with
  | nil => exact List.Perm.refl _
  | cons batch rest ih =>
      exact (ih.trans ((Report.perm_attempted_add _ _ _).append_left _)).trans List.perm_middle

/-- If every delivery has worked, the destinations are reported in order. -/
theorem delivered_deliverAll {batches : List Batch}
    (complete : (delivery.deliverAll clear batches).value.report.isComplete = true) :
    (delivery.deliverAll clear batches).value.report.delivered =
      delivery.report.delivered ++ batches.map Batch.destination := by
  induction batches generalizing delivery with
  | nil => exact (List.append_nil _).symm
  | cons batch rest ih =>
      obtain ⟨_, done⟩ := (delivery.isComplete_deliver_iff clear batch).mp
        ((delivery.deliver batch clear).value.isComplete_of_deliverAll clear complete)
      have first : (delivery.deliver batch clear).value.report.delivered =
          delivery.report.delivered ++ [batch.destination] := by
        change (delivery.report.add batch.destination
          (delivery.world.deliver batch.destination batch.lines clear).2).delivered = _
        rw [done]
        rfl
      rw [deliverAll, Noted.value_bind, ih complete, first, List.append_assoc]
      rfl

/-- If every delivery has worked, the primary stream has stored the texts of its batches
in order. -/
theorem stored_deliverAll {batches : List Batch}
    (complete : (delivery.deliverAll clear batches).value.report.isComplete = true) :
    (delivery.deliverAll clear batches).value.world.primary.stored =
      delivery.world.primary.stored ++
        String.join ((batches.filter fun batch => batch.destination = .primary).map fun batch =>
          primaryText batch.lines clear) := by
  induction batches generalizing delivery with
  | nil => exact String.append_empty.symm
  | cons batch rest ih =>
      obtain ⟨_, done⟩ := (delivery.isComplete_deliver_iff clear batch).mp
        ((delivery.deliver batch clear).value.isComplete_of_deliverAll clear complete)
      have first := delivery.world.stored_deliver done
      have further := ih complete
      change _ = (delivery.world.deliver batch.destination batch.lines clear).1.primary.stored ++ _
        at further
      rw [deliverAll, Noted.value_bind, further, first]
      by_cases primary : batch.destination = .primary
      · rw [if_pos primary, List.filter_cons_of_pos (by simpa using primary), List.map_cons,
          String.join_cons, String.append_assoc]
      · rw [if_neg primary, List.filter_cons_of_neg (by simpa using primary), String.append_empty]

/-- If every delivery has worked, a file reads as the last batch for its place. -/
theorem read_deliverAll {earlier later : List Batch} {batch : Batch} {path : Path}
    (complete : (delivery.deliverAll clear (earlier ++ batch :: later)).value.report.isComplete =
      true)
    (isPath : batch.destination = .path path) :
    ∃ place, delivery.world.files.writePlace path = .ok place ∧
      ((∀ device, delivery.world.files.entryAt place ≠ some (.device device)) →
        (∀ other ∈ later, ¬other.Opens delivery.world.files place) →
        (delivery.deliverAll clear (earlier ++ batch :: later)).value.world.files.read path =
          .ok (joinLines batch.lines).toUTF8) := by
  rw [value_deliverAll_append] at complete ⊢
  let before := (delivery.deliverAll clear earlier).value
  let after := (before.deliver batch clear).value
  have sameBefore := delivery.sameTree_deliverAll clear earlier
  have sameAfter := sameBefore.trans
    (before.world.sameTree_deliver batch.destination batch.lines clear)
  have done := ((before.isComplete_deliver_iff clear batch).mp
    (after.isComplete_of_deliverAll clear complete)).2
  obtain ⟨place, found⟩ := before.world.opens_of_deliver isPath done
  obtain ⟨checked, opens⟩ := FileSystem.openPlace_eq_ok_iff.mp found
  have opensFirst := sameBefore.writePlace_eq_ok_iff.mp opens
  apply Exists.intro place
  apply And.intro opensFirst
  intro kept last
  have written : after.world.files.entryAt place =
      some (.file (joinLines batch.lines).toUTF8) := by
    apply before.world.entryAt_deliver ⟨path, isPath, opens⟩ _ done
    exact fun device => mt (sameBefore.device place device).mp (kept device)
  have stays : (after.deliverAll clear later).value.world.files.entryAt place =
      after.world.files.entryAt place :=
    after.entryAt_deliverAll_of_not_opens clear fun other listed =>
      mt (Batch.opens_congr sameAfter).mp (last other listed)
  apply FileSystem.read_of_writePlace checked _ (stays.trans written)
  exact (sameAfter.trans (after.sameTree_deliverAll clear later)).writePlace_eq_ok_iff.mpr
    opensFirst

end Delivery

end StopView
