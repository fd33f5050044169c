import StopView.Proofs.Batch.Colour
import StopView.Proofs.Delivery.Attempt
import StopView.Proofs.FileSystem.Alike

/-!
# Delivering with and without colour

Whether a batch can be delivered depends on its destination and on whether it has any lines,
not on what they look like.  Two worlds that differ only in what was delivered to them
therefore treat batches that differ in styles alike, and go on to differ in nothing else.
-/

namespace StopView

theorem joinLines_eq_empty_iff {lines : List String} : joinLines lines = "" ↔ lines = [] := by
  cases lines with
  | nil => simp
  | cons line rest => simp [String.append_eq_empty_iff]

theorem isEmpty_toUTF8_joinLines (lines : List String) :
    (joinLines lines).toUTF8.isEmpty = lines.isEmpty := by
  apply Bool.eq_iff_iff.mpr
  calc
    (joinLines lines).toUTF8.isEmpty = true ↔ (joinLines lines).utf8ByteSize = 0 := beq_iff_eq
    _ ↔ lines = [] := String.utf8ByteSize_eq_zero_iff.trans joinLines_eq_empty_iff
    _ ↔ lines.isEmpty = true := List.isEmpty_iff.symm

theorem primaryText_eq_empty_iff {lines : List String} {clear : Bool} :
    primaryText lines clear = "" ↔ clear = false ∧ lines = [] := by
  rw [primaryText, String.append_eq_empty_iff, joinLines_eq_empty_iff]
  cases clear <;> simp [clearCode]

namespace World

/-- Worlds that differ in what the files at some places hold, and in what the primary stream
has stored. -/
structure Alike (written : List Place) (left right : World) : Prop where
  files : FileSystem.Alike written left.files right.files
  mood : left.primary.mood = right.primary.mood
  terminal : left.terminal = right.terminal

namespace Alike

theorem refl (written : List Place) (world : World) : Alike written world world :=
  ⟨.refl written world.files, rfl, rfl⟩

variable {written : List Place} {left right : World} (alike : Alike written left right)

include alike

/-- Batches for one destination with as many lines fare alike. -/
theorem deliver {quiet : Prop} {styled bare : Batch} (same : styled.SameButStyles quiet bare)
    (listed : ∀ place, bare.Opens right.files place → place ∈ written) (clear : Bool) :
    (left.deliver styled.destination styled.lines clear).2 =
        (right.deliver bare.destination bare.lines clear).2 ∧
      Alike written (left.deliver styled.destination styled.lines clear).1
        (right.deliver bare.destination bare.lines clear).1 := by
  have empty := same.lines.isEmpty_eq
  rw [same.destination]
  cases destination : bare.destination with
  | primary =>
      have none : primaryText styled.lines clear = "" ↔ primaryText bare.lines clear = "" := by
        rw [primaryText_eq_empty_iff, primaryText_eq_empty_iff, ← List.isEmpty_iff,
          ← List.isEmpty_iff, empty]
      rw [World.deliver, World.deliver, deliverPrimary, deliverPrimary]
      simp only [none]
      split
      · exact ⟨rfl, alike⟩
      · simp only [PrimaryStream.write, alike.mood]
        cases right.primary.mood <;> exact ⟨rfl, alike.files, rfl, alike.terminal⟩
  | path path =>
      have places : ∀ place, right.files.writePlace path = .ok place → place ∈ written :=
        fun place opens => listed place ⟨path, destination, opens⟩
      have contents : (joinLines styled.lines).toUTF8.isEmpty =
          (joinLines bare.lines).toUTF8.isEmpty := by
        rw [isEmpty_toUTF8_joinLines, isEmpty_toUTF8_joinLines, empty]
      obtain ⟨outcome, files⟩ := alike.files.overwrite places contents
      constructor
      · exact congrArg (Except.mapError (Failure.delivery path)) outcome
      · exact ⟨files, alike.mood, alike.terminal⟩

/-- Batches that differ in styles only are reported alike, and leave worlds that differ in
nothing else than before. -/
theorem deliverAll {quiet : Prop} {styled bare : List Batch} (same : SameBatches quiet styled bare)
    (listed : ∀ batch ∈ bare, ∀ place, batch.Opens right.files place → place ∈ written)
    (clear : Bool) :
    (left.deliverAll styled clear).value.report = (right.deliverAll bare clear).value.report ∧
      Alike written (left.deliverAll styled clear).value.world
        (right.deliverAll bare clear).value.world := by
  rw [World.deliverAll, World.deliverAll]
  generalize Report.empty = report
  induction same generalizing left right report with
  | nil => exact ⟨rfl, alike⟩
  | @cons first firstBare rest restBare here later ih =>
      obtain ⟨outcome, after⟩ := alike.deliver here (listed firstBare List.mem_cons_self) clear
      have tree := right.sameTree_deliver firstBare.destination firstBare.lines clear
      have further := ih after (fun batch batchMem place opens =>
        listed batch (List.mem_cons_of_mem firstBare batchMem) place
          ((Batch.opens_congr tree).mp opens))
        (report.add firstBare.destination
          (right.deliver firstBare.destination firstBare.lines clear).2)
      have added : report.add first.destination
          (left.deliver first.destination first.lines clear).2 =
          report.add firstBare.destination
            (right.deliver firstBare.destination firstBare.lines clear).2 := by
        rw [outcome, here.destination]
      have step : (Delivery.deliver ⟨left, report⟩ first clear).value =
          ⟨(left.deliver first.destination first.lines clear).1,
            report.add firstBare.destination
              (right.deliver firstBare.destination firstBare.lines clear).2⟩ :=
        congrArg (Delivery.mk _) added
      rw [Delivery.deliverAll, Delivery.deliverAll, Noted.value_bind, Noted.value_bind, step]
      exact further

end Alike

end World

end StopView
