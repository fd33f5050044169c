import Mathlib.Data.List.Perm.Basic
import StopView.Proofs.Batch.Grouping
import StopView.Session

/-!
# Who gets which section

The main batch gets the sections without a destination of their own and those that go
to its terminal.  Every other destination gets its share.  Together they get every
section once: `perm_mainParts_ownShares`.

`viewBatches` says what is delivered in terms of these parts alone.  It does not depend
on the order in which the sections are rendered.
-/

namespace StopView

namespace SectionOutputs

/-- Whether a section's lines go to the terminal that shows the main batch anyway. -/
def goesToTerminal (outputs : SectionOutputs) (terminal : Option Path) (part : Section) : Bool :=
  terminal.any fun device => outputs.goesTo (.path device) part

/-- The sections of the main batch, those for its terminal last. -/
def mainParts (outputs : SectionOutputs) (terminal : Option Path) (parts : List Section) :
    List Section :=
  parts.filter (isMain outputs) ++ parts.filter (outputs.goesToTerminal terminal)

/-- The shares that are delivered on their own. -/
def ownShares (outputs : SectionOutputs) (terminal : Option Path) (parts : List Section) :
    List Share :=
  ((outputs.destinations parts).filter fun destination => !destination.isTerminal? terminal).map
    (outputs.shareOf parts)

end SectionOutputs

/-- The legend, if any section has no destination of its own. -/
def legendLines (palette : Palette) (outputs : SectionOutputs) (parts : List Section) :
    List String :=
  if ∃ part ∈ parts, outputs.get part = .noSplit then [palette.legend] else []

/-- The lines of the main batch, what is told of the latest event apart: the legend, the
sections, and a rule below if there is anything above it. -/
def mainLines (palette : Palette) (outputs : SectionOutputs) (terminal : Option Path)
    (parts : List Section) (block : Section → List String) : List String :=
  let lines :=
    legendLines palette outputs parts ++ (outputs.mainParts terminal parts).flatMap block
  if lines = [] then [] else lines ++ [palette.banner ""]

/-- The batches of a view of some sections with their lines. -/
def viewBatches (settings : Settings) (palette : Palette) (terminal : Option Path)
    (parts : List Section) (block : Section → List String) (lifecycle : List String) :
    List Batch :=
  ⟨settings.output, mainLines palette settings.sectionOutputs terminal parts block ++ lifecycle⟩ ::
    (settings.sectionOutputs.ownShares terminal parts).map fun share => share.batch block

namespace SectionOutputs

theorem isMain_eq_true_iff {outputs : SectionOutputs} {part : Section} :
    isMain outputs part = true ↔ outputs.own? part = none := by
  unfold isMain own? SectionOutput.own?
  cases outputs.get part <;> simp

theorem goesToTerminal_eq_true_iff {outputs : SectionOutputs} {terminal : Option Path}
    {part : Section} :
    outputs.goesToTerminal terminal part = true ↔
      ∃ device, terminal = some device ∧ outputs.goesTo (.path device) part = true := by
  cases terminal <;> simp [goesToTerminal]

theorem goesTo_congr (outputs : SectionOutputs) {left right : Destination}
    (same : Destination.Same left right) : outputs.goesTo left = outputs.goesTo right := by
  funext part
  unfold goesTo
  congr 1
  funext own
  exact decide_eq_decide.mpr ⟨fun found => found.trans same, fun found => found.trans same.symm⟩

/-! ## Every section once -/

/-- Sections that each go to one of several distinct destinations are shared out among
them without loss or repetition. -/
theorem perm_flatMap_shareOf (outputs : SectionOutputs) {destinations : List Destination}
    {parts : List Section}
    (apart : destinations.Pairwise fun left right => ¬Destination.Same left right)
    (covered : ∀ part ∈ parts, ∃ destination ∈ destinations,
      outputs.goesTo destination part = true) :
    (destinations.flatMap fun destination => parts.filter (outputs.goesTo destination)).Perm
      parts := by
  induction destinations generalizing parts with
  | nil =>
      cases parts with
      | nil => exact List.Perm.nil
      | cons part rest => simpa using covered part List.mem_cons_self
  | cons first rest ih =>
      obtain ⟨firstApart, restApart⟩ := List.pairwise_cons.mp apart
      let others := parts.filter fun part => !outputs.goesTo first part
      have remaining : ∀ destination ∈ rest,
          parts.filter (outputs.goesTo destination) =
            others.filter (outputs.goesTo destination) := by
        intro destination destinationMem
        rw [List.filter_filter]
        apply List.filter_congr
        intro part _
        cases goes : outputs.goesTo destination part with
        | false => rfl
        | true =>
            obtain ⟨own, ownPart, same⟩ := goesTo_eq_true_iff.mp goes
            have notFirst : ¬Destination.Same own first := fun firstSame =>
              firstApart destination destinationMem (firstSame.symm.trans same)
            simp [goesTo_of_own ownPart, notFirst]
      have othersCovered : ∀ part ∈ others, ∃ destination ∈ rest,
          outputs.goesTo destination part = true := by
        intro part partMem
        obtain ⟨listed, notFirst⟩ := List.mem_filter.mp partMem
        obtain ⟨destination, destinationMem, goes⟩ := covered part listed
        rcases List.mem_cons.mp destinationMem with rfl | destinationMem
        · simp [goes] at notFirst
        · exact ⟨destination, destinationMem, goes⟩
      rw [List.flatMap_cons, List.flatMap_congr remaining]
      exact ((ih restApart othersCovered).append_left _).trans
        (List.filter_append_perm (outputs.goesTo first) parts)

theorem isMain_eq_false_of_goesTo {outputs : SectionOutputs} {destination : Destination}
    {part : Section} (goes : outputs.goesTo destination part = true) :
    isMain outputs part = false := by
  obtain ⟨own, ownPart, _⟩ := goesTo_eq_true_iff.mp goes
  apply Bool.eq_false_iff.mpr
  intro main
  rw [isMain_eq_true_iff.mp main] at ownPart
  contradiction

/-- The sections with a destination of their own are shared out among the distinct
destinations. -/
theorem perm_flatMap_destinations (outputs : SectionOutputs) (parts : List Section) :
    ((outputs.destinations parts).flatMap fun destination =>
      parts.filter (outputs.goesTo destination)).Perm
      (parts.filter fun part => !isMain outputs part) := by
  have splitOnly : ∀ destination ∈ outputs.destinations parts,
      parts.filter (outputs.goesTo destination) =
        (parts.filter fun part => !isMain outputs part).filter (outputs.goesTo destination) := by
    intro destination _
    rw [List.filter_filter]
    apply List.filter_congr
    intro part _
    cases goes : outputs.goesTo destination part with
    | false => rfl
    | true => simp [isMain_eq_false_of_goesTo goes]
  rw [List.flatMap_congr splitOnly]
  apply perm_flatMap_shareOf outputs (pairwise_distinctDestinations _)
  intro part partMem
  obtain ⟨listed, split⟩ := List.mem_filter.mp partMem
  cases ownPart : outputs.own? part with
  | none => simp [isMain_eq_true_iff.mpr ownPart] at split
  | some own =>
      obtain ⟨kept, keptMem, same⟩ := exists_mem_destinations listed ownPart
      exact ⟨kept, keptMem, goesTo_eq_true_iff.mpr ⟨own, ownPart, same.symm⟩⟩

/-- The share of the one destination that is the terminal holds the sections for it. -/
theorem flatMap_filter_isTerminal (outputs : SectionOutputs) (terminal : Option Path)
    (parts : List Section) :
    ((outputs.destinations parts).filter fun destination =>
        destination.isTerminal? terminal).flatMap
      (fun destination => parts.filter (outputs.goesTo destination)) =
      parts.filter (outputs.goesToTerminal terminal) := by
  cases terminal with
  | none =>
      have refused : ∀ part ∈ parts, ¬outputs.goesToTerminal none part = true := by
        simp [goesToTerminal]
      simp [Destination.isTerminal?, List.filter_eq_nil_iff.mpr refused]
  | some device =>
      have forTerminal : ∀ destination, destination.isTerminal? (some device) = true →
          parts.filter (outputs.goesTo destination) =
            parts.filter (outputs.goesToTerminal (some device)) := by
        intro destination isTerminal
        rw [outputs.goesTo_congr (of_decide_eq_true isTerminal)]
        rfl
      have cases := filter_same_cases
        (pairwise_distinctDestinations (parts.filterMap outputs.own?)) (.path device)
      change ((outputs.destinations parts).filter fun destination =>
          destination.isTerminal? (some device)) = [] ∨
        ∃ kept, ((outputs.destinations parts).filter fun destination =>
          destination.isTerminal? (some device)) = [kept] at cases
      rcases cases with none | ⟨kept, only⟩
      · rw [none, List.flatMap_nil]
        apply Eq.symm
        apply List.filter_eq_nil_iff.mpr
        intro part partMem goes
        obtain ⟨own, ownPart, same⟩ := goesTo_eq_true_iff.mp goes
        obtain ⟨listed, listedMem, listedSame⟩ := exists_mem_destinations partMem ownPart
        apply List.filter_eq_nil_iff.mp none listed listedMem
        exact decide_eq_true (listedSame.trans same)
      · have keptMem : kept ∈ (outputs.destinations parts).filter fun destination =>
            destination.isTerminal? (some device) := by
          rw [only]
          exact List.mem_cons_self
        rw [only, List.flatMap_singleton]
        exact forTerminal kept (List.mem_filter.mp keptMem).2

/-- The main batch and the batches of their own together get every section once. -/
theorem perm_mainParts_ownShares (outputs : SectionOutputs) (terminal : Option Path)
    (parts : List Section) :
    (outputs.mainParts terminal parts ++
      (outputs.ownShares terminal parts).flatMap Share.parts).Perm parts := by
  have shared :
      (parts.filter (outputs.goesToTerminal terminal) ++
        (outputs.ownShares terminal parts).flatMap Share.parts).Perm
        (parts.filter fun part => !isMain outputs part) := by
    rw [← flatMap_filter_isTerminal, ownShares, List.flatMap_map]
    change (List.flatMap _ _ ++ List.flatMap
      (fun destination => parts.filter (outputs.goesTo destination)) _).Perm _
    rw [← List.flatMap_append]
    exact ((List.filter_append_perm _ _).flatMap_right _).trans
      (outputs.perm_flatMap_destinations parts)
  rw [mainParts, List.append_assoc]
  exact (shared.append_left _).trans (List.filter_append_perm (isMain outputs) parts)

theorem pairwise_ownShares (outputs : SectionOutputs) (terminal : Option Path)
    (parts : List Section) :
    (outputs.ownShares terminal parts).Pairwise fun left right =>
      ¬Destination.Same left.destination right.destination :=
  List.pairwise_map.mpr ((pairwise_distinctDestinations _).filter _)

theorem not_same_terminal_of_mem_ownShares {outputs : SectionOutputs} {device : Path}
    {parts : List Section} {share : Share}
    (listed : share ∈ outputs.ownShares (some device) parts) :
    ¬Destination.Same share.destination (.path device) := by
  obtain ⟨destination, destinationMem, rfl⟩ := List.mem_map.mp listed
  intro same
  have isTerminal : destination.isTerminal? (some device) = true := decide_eq_true same
  simpa [isTerminal] using (List.mem_filter.mp destinationMem).2

/-- Where a section is delivered: with the main batch if it has no destination of its own
or goes to the terminal, otherwise there. -/
def destinationOf (outputs : SectionOutputs) (main : Destination) (terminal : Option Path)
    (part : Section) : Destination :=
  match outputs.own? part with
  | none => main
  | some own => if own.isTerminal? terminal then main else own

theorem mem_mainParts_of_none {outputs : SectionOutputs} {parts : List Section} {part : Section}
    (listed : part ∈ parts) (main : outputs.own? part = none) (terminal : Option Path) :
    part ∈ outputs.mainParts terminal parts := by
  apply List.mem_append_left
  exact List.mem_filter.mpr ⟨listed, isMain_eq_true_iff.mpr main⟩

theorem mem_mainParts_of_isTerminal {outputs : SectionOutputs} {parts : List Section}
    {part : Section} {own : Destination} {terminal : Option Path} (listed : part ∈ parts)
    (ownPart : outputs.own? part = some own) (shown : own.isTerminal? terminal = true) :
    part ∈ outputs.mainParts terminal parts := by
  obtain ⟨device, attached, same⟩ := Destination.isTerminal?_eq_true_iff.mp shown
  have goes := goesTo_eq_true_iff.mpr ⟨own, ownPart, same⟩
  apply List.mem_append_right
  exact List.mem_filter.mpr ⟨listed, goesToTerminal_eq_true_iff.mpr ⟨device, attached, goes⟩⟩

theorem exists_mem_ownShares {outputs : SectionOutputs} {parts : List Section} {part : Section}
    {own : Destination} {terminal : Option Path} (listed : part ∈ parts)
    (ownPart : outputs.own? part = some own) (elsewhere : own.isTerminal? terminal = false) :
    ∃ share ∈ outputs.ownShares terminal parts,
      Destination.Same share.destination own ∧ part ∈ share.parts := by
  obtain ⟨kept, keptMem, same⟩ := exists_mem_destinations listed ownPart
  have remains : kept ∈ (outputs.destinations parts).filter fun destination =>
      !destination.isTerminal? terminal := by
    apply List.mem_filter.mpr
    rw [Destination.isTerminal?_congr same, elsewhere]
    exact ⟨keptMem, rfl⟩
  apply Exists.intro (outputs.shareOf parts kept)
  constructor
  · exact List.mem_map_of_mem remains
  · exact ⟨same,
      List.mem_filter.mpr ⟨listed, goesTo_eq_true_iff.mpr ⟨own, ownPart, same.symm⟩⟩⟩

end SectionOutputs

/-! ## What is put together -/

/-- The sections of the main batch stand below the legend, if there are any. -/
theorem mainSections_map (palette : Palette) (outputs : SectionOutputs) (parts : List Section)
    (block : Section → List String) :
    mainSections palette outputs (parts.map fun part => ⟨part, block part⟩) =
      legendLines palette outputs parts ++ (parts.filter (isMain outputs)).flatMap block := by
  have selected : (parts.map fun part => (⟨part, block part⟩ : SectionLines)).filter
      (fun item => isMain outputs item.part) =
      (parts.filter (isMain outputs)).map fun part => ⟨part, block part⟩ := by
    rw [List.filter_map]
    rfl
  rw [mainSections, selected, List.isEmpty_map, legendLines]
  by_cases any : ∃ part ∈ parts, outputs.get part = .noSplit
  · obtain ⟨part, partMem, main⟩ := any
    have listed : part ∈ parts.filter (isMain outputs) :=
      List.mem_filter.mpr ⟨partMem, beq_iff_eq.mpr main⟩
    have nonempty : (parts.filter (isMain outputs)).isEmpty = false :=
      List.isEmpty_eq_false_iff.mpr (List.ne_nil_of_mem listed)
    rw [nonempty, if_neg Bool.false_ne_true, if_pos ⟨part, partMem, main⟩, List.flatMap_map]
    rfl
  · have empty : parts.filter (isMain outputs) = [] :=
      List.filter_eq_nil_iff.mpr fun part partMem main => any ⟨part, partMem, beq_iff_eq.mp main⟩
    rw [if_neg any, empty]
    rfl

/-- The terminal's batch holds the lines of the sections that go to the terminal. -/
theorem flatMap_lines_terminal (outputs : SectionOutputs) (terminal : Option Path)
    (parts : List Section) (block : Section → List String) :
    ((outputs.ownBatches parts block).filter fun batch =>
        batch.destination.isTerminal? terminal).flatMap Batch.lines =
      (parts.filter (outputs.goesToTerminal terminal)).flatMap block := by
  rw [← outputs.flatMap_filter_isTerminal, SectionOutputs.ownBatches, List.map_map,
    List.filter_map, List.flatMap_map, List.flatMap_assoc]
  rfl

/-- The batches that remain are those of the shares delivered on their own. -/
theorem filter_ownBatches (outputs : SectionOutputs) (terminal : Option Path)
    (parts : List Section) (block : Section → List String) :
    ((outputs.ownBatches parts block).filter fun batch =>
        !batch.destination.isTerminal? terminal) =
      (outputs.ownShares terminal parts).map fun share => share.batch block := by
  rw [SectionOutputs.ownBatches, SectionOutputs.ownShares, List.map_map, List.filter_map,
    List.map_map]
  rfl

/-- What is put together are the batches of the view. -/
theorem value_assemble (settings : Settings) (palette : Palette) (terminal : Option Path)
    (parts : List Section) (block : Section → List String) (lifecycle : List String) :
    (assemble settings palette terminal (parts.map fun part => ⟨part, block part⟩)
        lifecycle).value =
      viewBatches settings palette terminal parts block lifecycle := by
  have apart := settings.sectionOutputs.apart_ownBatches parts block
  simp only [assemble, Noted.value_bind, Noted.value_pure, splitBatches_map,
    value_mergeTerminal terminal apart, flatMap_lines_terminal, filter_ownBatches,
    mainSections_map]
  rw [viewBatches, mainLines, SectionOutputs.mainParts, List.flatMap_append, List.append_assoc]
  simp only [closeWithRule, List.isEmpty_iff]

end StopView
