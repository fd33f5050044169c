import StopView.Proofs.Batch.Share
import StopView.Proofs.Section.Colour

/-!
# Batches with and without colour

What is put together of lines that differ in styles only is itself for the same destinations,
in the same order, and differs in styles only.  A batch that is empty without colour is empty
with it.
-/

namespace StopView

open Text

/-- Batches for one destination whose lines differ in styles only. -/
structure Batch.SameButStyles (quiet : Prop) (styled bare : Batch) : Prop where
  destination : styled.destination = bare.destination
  lines : SameLines quiet styled.lines bare.lines

/-- Batches that differ in styles only, one by one. -/
def SameBatches (quiet : Prop) (styled bare : List Batch) : Prop :=
  List.Forall₂ (Batch.SameButStyles quiet) styled bare

namespace Batch

/-- A batch without the styles of its lines. -/
def withoutStyles (batch : Batch) : Batch :=
  { batch with lines := batch.lines.map Text.withoutStyles }

namespace SameButStyles

variable {quiet : Prop} {styled bare : Batch} (same : SameButStyles quiet styled bare)

include same

theorem withoutStyles_eq_withoutStyles : styled.withoutStyles = bare.withoutStyles := by
  rw [withoutStyles, withoutStyles, same.destination, same.lines.map_withoutStyles]

theorem withoutStyles_eq (always : quiet) : styled.withoutStyles = bare := by
  rw [withoutStyles, same.destination, same.lines.map_withoutStyles_eq always]

end SameButStyles

end Batch

namespace SameBatches

variable {quiet : Prop} {styled bare : List Batch} (same : SameBatches quiet styled bare)

include same

theorem map_withoutStyles : styled.map Batch.withoutStyles = bare.map Batch.withoutStyles :=
  map_eq_map_of_forall₂ same fun _ _ here => here.withoutStyles_eq_withoutStyles

theorem map_withoutStyles_eq (always : quiet) : styled.map Batch.withoutStyles = bare := by
  have each : styled.map Batch.withoutStyles = bare.map id :=
    map_eq_map_of_forall₂ same fun _ _ here => here.withoutStyles_eq always
  rwa [List.map_id] at each

theorem escapeFree (always : quiet) :
    ∀ batch ∈ bare, ∀ line ∈ batch.lines, EscapeFree line :=
  forall_mem_of_forall₂ same fun _ _ here => here.lines.escapeFree always

end SameBatches

section View

variable {quiet : Prop} {width : Nat} (outputs : SectionOutputs) (terminal : Option Path)
  (parts : List Section) {block bareBlock : Section → List String}

theorem sameLines_legendLines :
    SameLines quiet (legendLines ⟨true, width⟩ outputs parts)
      (legendLines ⟨false, width⟩ outputs parts) := by
  rw [legendLines, legendLines]
  split
  · exact .singleton (.of_styled styled_legend)
  · exact .nil

variable (each : ∀ part, SameLines quiet (block part) (bareBlock part))

include each

/-- The main batch has its rule in both or in neither. -/
theorem sameLines_mainLines :
    SameLines quiet (mainLines ⟨true, width⟩ outputs terminal parts block)
      (mainLines ⟨false, width⟩ outputs terminal parts bareBlock) := by
  have lines : SameLines quiet
      (legendLines ⟨true, width⟩ outputs parts ++
        (outputs.mainParts terminal parts).flatMap block)
      (legendLines ⟨false, width⟩ outputs parts ++
        (outputs.mainParts terminal parts).flatMap bareBlock) :=
    (sameLines_legendLines outputs parts).append (.flatMap fun part _ => each part)
  rw [mainLines, mainLines]
  simp only [← List.isEmpty_iff, lines.isEmpty_eq]
  split
  · exact .nil
  · exact lines.append (.singleton (.of_styled (styled_banner (by decide))))

theorem sameBatches_viewBatches (settings : Settings) {lifecycle bareLifecycle : List String}
    (told : SameLines quiet lifecycle bareLifecycle) :
    SameBatches quiet (viewBatches settings ⟨true, width⟩ terminal parts block lifecycle)
      (viewBatches settings ⟨false, width⟩ terminal parts bareBlock bareLifecycle) := by
  apply List.Forall₂.cons
  · exact ⟨rfl, (sameLines_mainLines settings.sectionOutputs terminal parts each).append told⟩
  · apply List.forall₂_map_left_iff.mpr
    apply List.forall₂_map_right_iff.mpr
    apply List.forall₂_same.mpr
    intro share _
    exact ⟨rfl, .flatMap fun part _ => each part⟩

end View

end StopView
