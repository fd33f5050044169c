import Mathlib.Data.List.Induction
import StopView.Batch

/-!
# Grouping lines by destination

Batches are collected one section after the other.  This module states what comes of
it without the collecting: the destinations are those of the sections, the same ones
taken together under their first spelling, and each gets the lines of its sections in
order.  The invariant behind it is that no two batches have the same destination, so
that lines are only ever added to one of them, and at most one is for the terminal.
-/

namespace StopView

/-- The destination of its own that an output setting names. -/
def SectionOutput.own? : SectionOutput → Option Destination
  | .noSplit => none
  | .split destination => some destination

/-- The destination of its own that a section has. -/
def SectionOutputs.own? (outputs : SectionOutputs) (part : Section) : Option Destination :=
  (outputs.get part).own?

/-- Whether a section has a destination of its own which is the same as this one. -/
def SectionOutputs.goesTo (outputs : SectionOutputs) (destination : Destination)
    (part : Section) : Bool :=
  (outputs.own? part).any fun own => decide (Destination.Same own destination)

/-- Batches of which no two have the same destination. -/
def Apart (batches : List Batch) : Prop :=
  batches.Pairwise fun left right => ¬Destination.Same left.destination right.destination

theorem filter_same_cases {destinations : List Destination}
    (apart : destinations.Pairwise fun left right => ¬Destination.Same left right)
    (destination : Destination) :
    (destinations.filter fun other => Destination.Same other destination) = [] ∨
      ∃ kept, (destinations.filter fun other => Destination.Same other destination) = [kept] := by
  have apartHere := apart.filter fun other => decide (Destination.Same other destination)
  cases found : destinations.filter fun other => Destination.Same other destination with
  | nil => exact .inl rfl
  | cons first others =>
      cases others with
      | nil => exact .inr ⟨first, rfl⟩
      | cons second rest =>
          have here : ∀ other ∈ first :: second :: rest, Destination.Same other destination := by
            intro other otherMem
            rw [← found] at otherMem
            exact of_decide_eq_true (List.mem_filter.mp otherMem).2
          rw [found] at apartHere
          have differ := (List.pairwise_cons.mp apartHere).1 second List.mem_cons_self
          have firstHere := here first List.mem_cons_self
          have secondHere := here second (List.mem_cons_of_mem first List.mem_cons_self)
          exact absurd (firstHere.trans secondHere.symm) differ

/-- Of batches that are apart, at most one is for a destination. -/
theorem Apart.length_filter_same_le_one {batches : List Batch} (apart : Apart batches)
    (destination : Destination) :
    (batches.filter fun batch => Destination.Same batch.destination destination).length ≤ 1 := by
  have count : (batches.filter fun batch =>
      Destination.Same batch.destination destination).length =
      ((batches.map Batch.destination).filter fun other =>
        Destination.Same other destination).length := by
    rw [List.filter_map, List.length_map]
    rfl
  rw [count]
  rcases filter_same_cases (List.pairwise_map.mpr apart) destination with none | ⟨kept, only⟩
  · rw [none]
    exact Nat.zero_le 1
  · rw [only]
    exact Nat.le_refl 1

/-! ## Distinct destinations -/

/-- Of destinations that are the same, keep the first. -/
def distinctDestinations : List Destination → List Destination
  | [] => []
  | first :: rest =>
      first :: (distinctDestinations rest).filter fun other => ¬Destination.Same first other

theorem mem_of_mem_distinctDestinations {destination : Destination}
    {destinations : List Destination} (kept : destination ∈ distinctDestinations destinations) :
    destination ∈ destinations := by
  induction destinations with
  | nil => exact kept
  | cons first rest ih =>
      rcases List.mem_cons.mp kept with rfl | kept
      · exact List.mem_cons_self
      · exact List.mem_cons_of_mem first (ih (List.mem_filter.mp kept).1)

theorem pairwise_distinctDestinations (destinations : List Destination) :
    (distinctDestinations destinations).Pairwise fun left right =>
      ¬Destination.Same left right := by
  induction destinations with
  | nil => exact List.Pairwise.nil
  | cons first rest ih =>
      rw [distinctDestinations, List.pairwise_cons]
      constructor
      · intro other otherMem
        simpa using (List.mem_filter.mp otherMem).2
      · exact ih.filter _

theorem exists_same_mem_distinctDestinations {destination : Destination}
    {destinations : List Destination} (listed : destination ∈ destinations) :
    ∃ kept ∈ distinctDestinations destinations, Destination.Same kept destination := by
  induction destinations with
  | nil => simp at listed
  | cons first rest ih =>
      by_cases same : Destination.Same first destination
      · exact ⟨first, List.mem_cons_self, same⟩
      · rcases List.mem_cons.mp listed with rfl | listed
        · exact absurd (Destination.Same.refl _) same
        · obtain ⟨kept, keptMem, keptSame⟩ := ih listed
          have firstOther : ¬Destination.Same first kept := fun firstKept =>
            same (firstKept.trans keptSame)
          exact ⟨kept, List.mem_cons_of_mem first
            (List.mem_filter.mpr ⟨keptMem, by simpa using firstOther⟩), keptSame⟩

/-- One more destination is kept exactly when it is the same as none before it. -/
theorem distinctDestinations_concat (destinations : List Destination)
    (destination : Destination) :
    distinctDestinations (destinations ++ [destination]) =
      if ∃ known ∈ destinations, Destination.Same known destination then
        distinctDestinations destinations
      else
        distinctDestinations destinations ++ [destination] := by
  induction destinations with
  | nil => simp [distinctDestinations]
  | cons first rest ih =>
      rw [List.cons_append, distinctDestinations, ih, distinctDestinations]
      by_cases firstSame : Destination.Same first destination
      · by_cases known : ∃ known ∈ rest, Destination.Same known destination <;>
          simp [known, firstSame]
      · by_cases known : ∃ known ∈ rest, Destination.Same known destination <;>
          simp [known, firstSame]

/-! ## Adding to a batch -/

theorem addToBatch_of_fresh {destination : Destination} {batches : List Batch}
    (lines : List String)
    (fresh : ∀ batch ∈ batches, ¬Destination.Same batch.destination destination) :
    addToBatch destination lines batches = batches ++ [⟨destination, lines⟩] := by
  induction batches with
  | nil => rfl
  | cons batch rest ih =>
      rw [addToBatch, if_neg (fresh batch List.mem_cons_self),
        ih fun other otherMem => fresh other (List.mem_cons_of_mem batch otherMem),
        List.cons_append]

theorem addToBatch_of_known {destination : Destination} {batches : List Batch}
    (lines : List String) (apart : Apart batches)
    (known : ∃ batch ∈ batches, Destination.Same batch.destination destination) :
    addToBatch destination lines batches =
      batches.map fun batch =>
        if Destination.Same batch.destination destination then
          { batch with lines := batch.lines ++ lines }
        else
          batch := by
  induction batches with
  | nil => simp at known
  | cons batch rest ih =>
      obtain ⟨batchApart, restApart⟩ := List.pairwise_cons.mp apart
      rw [addToBatch, List.map_cons]
      by_cases same : Destination.Same batch.destination destination
      · have restOther : ∀ other ∈ rest,
            ¬Destination.Same other.destination destination := fun other otherMem otherSame =>
          batchApart other otherMem (same.trans otherSame.symm)
        rw [if_pos same, if_pos same]
        congr 1
        apply (List.map_id rest).symm.trans
        apply List.map_congr_left
        intro other otherMem
        rw [if_neg (restOther other otherMem), id]
      · have restKnown : ∃ other ∈ rest, Destination.Same other.destination destination := by
          obtain ⟨other, otherMem, otherSame⟩ := known
          rcases List.mem_cons.mp otherMem with rfl | otherMem
          · exact absurd otherSame same
          · exact ⟨other, otherMem, otherSame⟩
        rw [if_neg same, if_neg same, ih restApart restKnown]

/-! ## Shares -/

/-- A destination and the sections whose lines it gets. -/
structure Share where
  destination : Destination
  parts : List Section
deriving Repr, DecidableEq

/-- The batch of a share, given the lines of every section. -/
def Share.batch (share : Share) (block : Section → List String) : Batch :=
  ⟨share.destination, share.parts.flatMap block⟩

/-- The destinations that sections have of their own, each once. -/
def SectionOutputs.destinations (outputs : SectionOutputs) (parts : List Section) :
    List Destination :=
  distinctDestinations (parts.filterMap outputs.own?)

/-- The share of a destination in some sections. -/
def SectionOutputs.shareOf (outputs : SectionOutputs) (parts : List Section)
    (destination : Destination) : Share :=
  ⟨destination, parts.filter (outputs.goesTo destination)⟩

theorem apart_map_batch {shares : List Share} (block : Section → List String)
    (apart : shares.Pairwise fun left right =>
      ¬Destination.Same left.destination right.destination) :
    Apart (shares.map fun share => share.batch block) :=
  List.pairwise_map.mpr apart

/-- A destination has a batch if one of the shares is for it. -/
theorem length_filter_map_batch_pos_iff (shares : List Share) (block : Section → List String)
    (destination : Destination) :
    0 < ((shares.map fun share => share.batch block).filter fun batch =>
        Destination.Same batch.destination destination).length ↔
      ∃ share ∈ shares, Destination.Same share.destination destination := by
  rw [List.length_pos_iff_exists_mem]
  constructor
  · rintro ⟨batch, batchMem⟩
    obtain ⟨listed, same⟩ := List.mem_filter.mp batchMem
    obtain ⟨share, shareMem, rfl⟩ := List.mem_map.mp listed
    exact ⟨share, shareMem, of_decide_eq_true same⟩
  · rintro ⟨share, shareMem, same⟩
    exact ⟨share.batch block,
      List.mem_filter.mpr ⟨List.mem_map_of_mem shareMem, decide_eq_true same⟩⟩

theorem SectionOutputs.pairwise_shares (outputs : SectionOutputs) (parts : List Section) :
    ((outputs.destinations parts).map (outputs.shareOf parts)).Pairwise fun left right =>
      ¬Destination.Same left.destination right.destination :=
  List.pairwise_map.mpr (pairwise_distinctDestinations _)

/-- A section is in the share of its own destination, under any spelling. -/
theorem SectionOutputs.goesTo_eq_true_iff {outputs : SectionOutputs}
    {destination : Destination} {part : Section} :
    outputs.goesTo destination part = true ↔
      ∃ own, outputs.own? part = some own ∧ Destination.Same own destination := by
  simp [SectionOutputs.goesTo, Option.any_eq_true]

/-- Every destination of the sections' own is among the distinct ones. -/
theorem SectionOutputs.exists_mem_destinations {outputs : SectionOutputs}
    {parts : List Section} {part : Section} {own : Destination}
    (listed : part ∈ parts) (ownPart : outputs.own? part = some own) :
    ∃ kept ∈ outputs.destinations parts, Destination.Same kept own :=
  exists_same_mem_distinctDestinations (List.mem_filterMap.mpr ⟨part, listed, ownPart⟩)

theorem SectionOutputs.batch_shareOf_concat (outputs : SectionOutputs) (parts : List Section)
    (part : Section) (destination : Destination) (block : Section → List String) :
    (outputs.shareOf (parts ++ [part]) destination).batch block =
      ⟨destination, ((outputs.shareOf parts destination).batch block).lines ++
        if outputs.goesTo destination part then block part else []⟩ := by
  by_cases goes : outputs.goesTo destination part = true <;>
    simp [SectionOutputs.shareOf, Share.batch, List.filter_append, goes]

/-- The batches of the sections' own destinations, each holding the lines of its share. -/
def SectionOutputs.ownBatches (outputs : SectionOutputs) (parts : List Section)
    (block : Section → List String) : List Batch :=
  ((outputs.destinations parts).map (outputs.shareOf parts)).map fun share => share.batch block

theorem SectionOutputs.apart_ownBatches (outputs : SectionOutputs) (parts : List Section)
    (block : Section → List String) : Apart (outputs.ownBatches parts block) :=
  apart_map_batch block (outputs.pairwise_shares parts)

theorem SectionOutputs.ownBatches_concat_of_none {outputs : SectionOutputs} {part : Section}
    (parts : List Section) (block : Section → List String) (own : outputs.own? part = none) :
    outputs.ownBatches (parts ++ [part]) block = outputs.ownBatches parts block := by
  have unchanged : outputs.destinations (parts ++ [part]) = outputs.destinations parts := by
    simp [SectionOutputs.destinations, own]
  have stays : ∀ destination, outputs.goesTo destination part = false := by
    intro destination
    simp [SectionOutputs.goesTo, own]
  rw [ownBatches, ownBatches, unchanged, List.map_map, List.map_map]
  apply List.map_congr_left
  intro destination _
  simp [stays, Share.batch, SectionOutputs.shareOf]

/-- One more section's destination is new exactly when it is the same as none before. -/
theorem SectionOutputs.destinations_concat {outputs : SectionOutputs} {part : Section}
    {own : Destination} (parts : List Section) (ownPart : outputs.own? part = some own) :
    outputs.destinations (parts ++ [part]) =
      if ∃ known ∈ parts.filterMap outputs.own?, Destination.Same known own then
        outputs.destinations parts
      else
        outputs.destinations parts ++ [own] := by
  rw [SectionOutputs.destinations, List.filterMap_append]
  simp only [List.filterMap_cons_some ownPart, List.filterMap_nil]
  exact distinctDestinations_concat _ own

theorem SectionOutputs.goesTo_of_own {outputs : SectionOutputs} {part : Section}
    {own : Destination} (ownPart : outputs.own? part = some own) (destination : Destination) :
    outputs.goesTo destination part = decide (Destination.Same own destination) := by
  simp [SectionOutputs.goesTo, ownPart]

theorem SectionOutputs.ownBatches_concat_of_known {outputs : SectionOutputs} {part : Section}
    {own : Destination} {parts : List Section} (block : Section → List String)
    (ownPart : outputs.own? part = some own)
    (known : ∃ known ∈ parts.filterMap outputs.own?, Destination.Same known own) :
    outputs.ownBatches (parts ++ [part]) block =
      addToBatch own (block part) (outputs.ownBatches parts block) := by
  have knownBatch : ∃ batch ∈ outputs.ownBatches parts block,
      Destination.Same batch.destination own := by
    obtain ⟨other, otherMem, otherSame⟩ := known
    obtain ⟨kept, keptMem, keptSame⟩ := exists_same_mem_distinctDestinations otherMem
    exact ⟨_, List.mem_map_of_mem (List.mem_map_of_mem keptMem), keptSame.trans otherSame⟩
  rw [addToBatch_of_known _ (outputs.apart_ownBatches parts block) knownBatch, ownBatches,
    destinations_concat parts ownPart, if_pos known, ownBatches, List.map_map, List.map_map,
    List.map_map]
  apply List.map_congr_left
  intro destination _
  simp only [Function.comp_apply, outputs.batch_shareOf_concat, goesTo_of_own ownPart]
  by_cases same : Destination.Same destination own
  · simp [same, same.symm, Share.batch, SectionOutputs.shareOf]
  · have other : ¬Destination.Same own destination := fun back => same back.symm
    simp [same, other, Share.batch, SectionOutputs.shareOf]

theorem SectionOutputs.ownBatches_concat_of_fresh {outputs : SectionOutputs} {part : Section}
    {own : Destination} {parts : List Section} (block : Section → List String)
    (ownPart : outputs.own? part = some own)
    (fresh : ¬∃ known ∈ parts.filterMap outputs.own?, Destination.Same known own) :
    outputs.ownBatches (parts ++ [part]) block =
      addToBatch own (block part) (outputs.ownBatches parts block) := by
  have other : ∀ destination ∈ outputs.destinations parts,
      ¬Destination.Same destination own := fun destination destinationMem same =>
    fresh ⟨destination, mem_of_mem_distinctDestinations destinationMem, same⟩
  have alone : parts.filter (outputs.goesTo own) = [] := by
    apply List.filter_eq_nil_iff.mpr
    intro earlier earlierMem goesOwn
    apply fresh
    obtain ⟨earlierOwn, ownEarlier, same⟩ := goesTo_eq_true_iff.mp goesOwn
    exact ⟨earlierOwn, List.mem_filterMap.mpr ⟨earlier, earlierMem, ownEarlier⟩, same⟩
  have freshBatch : ∀ batch ∈ outputs.ownBatches parts block,
      ¬Destination.Same batch.destination own := by
    intro batch batchMem
    obtain ⟨destination, destinationMem, rfl⟩ : ∃ destination ∈ outputs.destinations parts,
        (outputs.shareOf parts destination).batch block = batch := by
      simpa [ownBatches] using batchMem
    exact other destination destinationMem
  rw [addToBatch_of_fresh _ freshBatch, ownBatches, destinations_concat parts ownPart,
    if_neg fresh, ownBatches, List.map_map, List.map_map, List.map_append]
  congr 1
  · apply List.map_congr_left
    intro destination destinationMem
    have apart : ¬Destination.Same own destination := fun back =>
      other destination destinationMem back.symm
    simp [goesTo_of_own ownPart, apart, Share.batch, SectionOutputs.shareOf]
  · simp [goesTo_of_own ownPart, Destination.Same.refl, Share.batch, SectionOutputs.shareOf, alone]

/-- Collecting the batches section by section gives every destination its share. -/
theorem splitBatches_map (outputs : SectionOutputs) (parts : List Section)
    (block : Section → List String) :
    splitBatches outputs (parts.map fun part => ⟨part, block part⟩) =
      outputs.ownBatches parts block := by
  induction parts using List.reverseRecOn with
  | nil => rfl
  | append_singleton parts part ih =>
      have collected :
          splitBatches outputs ((parts ++ [part]).map fun part => ⟨part, block part⟩) =
            match outputs.get part with
            | .noSplit => outputs.ownBatches parts block
            | .split own => addToBatch own (block part) (outputs.ownBatches parts block) := by
        rw [← ih, splitBatches, List.map_append, List.foldl_append]
        rfl
      rw [collected]
      cases output : outputs.get part with
      | noSplit =>
          have own : outputs.own? part = none := by
            simp [SectionOutputs.own?, SectionOutput.own?, output]
          exact (SectionOutputs.ownBatches_concat_of_none parts block own).symm
      | split destination =>
          have own : outputs.own? part = some destination := by
            simp [SectionOutputs.own?, SectionOutput.own?, output]
          by_cases known : ∃ known ∈ parts.filterMap outputs.own?,
              Destination.Same known destination
          · exact (SectionOutputs.ownBatches_concat_of_known block own known).symm
          · exact (SectionOutputs.ownBatches_concat_of_fresh block own known).symm

/-! ## The batch for the terminal -/

/-- Whether a destination is the terminal, if there is one. -/
def Destination.isTerminal? (destination : Destination) (terminal : Option Path) : Bool :=
  terminal.any destination.isTerminal

theorem Destination.isTerminal?_eq_true_iff {destination : Destination}
    {terminal : Option Path} :
    destination.isTerminal? terminal = true ↔
      ∃ device, terminal = some device ∧ Destination.Same destination (.path device) := by
  cases terminal <;> simp [Destination.isTerminal?, Destination.isTerminal]

theorem Destination.isTerminal?_congr {left right : Destination}
    (same : Destination.Same left right) (terminal : Option Path) :
    left.isTerminal? terminal = right.isTerminal? terminal := by
  apply Bool.eq_iff_iff.mpr
  rw [Destination.isTerminal?_eq_true_iff, Destination.isTerminal?_eq_true_iff]
  constructor
  · rintro ⟨device, attached, found⟩
    exact ⟨device, attached, same.symm.trans found⟩
  · rintro ⟨device, attached, found⟩
    exact ⟨device, attached, same.trans found⟩

/-- Of batches of which a test accepts at most one, taking finds that one and leaves the
others. -/
theorem takeBatch_cases {accepts : Batch → Bool} {batches : List Batch}
    (exclusive : batches.Pairwise fun left right =>
      accepts left = true → accepts right = false) :
    (batches.filter accepts = [] ∧ takeBatch accepts batches = none) ∨
      ∃ batch, batches.filter accepts = [batch] ∧
        takeBatch accepts batches = some (batch, batches.filter fun other => !accepts other) := by
  induction batches with
  | nil => exact Or.inl ⟨rfl, rfl⟩
  | cons batch rest ih =>
      obtain ⟨batchExclusive, restExclusive⟩ := List.pairwise_cons.mp exclusive
      cases accepted : accepts batch with
      | true =>
          have refused : ∀ other ∈ rest, accepts other = false := fun other otherMem =>
            batchExclusive other otherMem accepted
          have none : rest.filter accepts = [] :=
            List.filter_eq_nil_iff.mpr fun other otherMem => by simp [refused other otherMem]
          have all : rest.filter (fun other => !accepts other) = rest :=
            List.filter_eq_self.mpr fun other otherMem => by simp [refused other otherMem]
          exact Or.inr ⟨batch, by simp [accepted, none], by simp [takeBatch, accepted, all]⟩
      | false =>
          rcases ih restExclusive with ⟨none, missing⟩ | ⟨taken, only, found⟩
          · exact Or.inl ⟨by simp [accepted, none], by simp [takeBatch, accepted, missing]⟩
          · exact Or.inr ⟨taken, by simp [accepted, only], by simp [takeBatch, accepted, found]⟩

/-- Of batches that are apart, at most one is for the terminal. -/
theorem Apart.exclusive {batches : List Batch} (apart : Apart batches) (device : Path) :
    batches.Pairwise fun left right =>
      left.destination.isTerminal device = true →
        right.destination.isTerminal device = false := by
  apply List.Pairwise.imp _ apart
  intro left right other leftTerminal
  apply decide_eq_false
  intro rightTerminal
  exact other (Destination.Same.trans (of_decide_eq_true leftTerminal) rightTerminal.symm)

/-- The lines for the terminal are merged, and no batch for it remains. -/
theorem value_mergeTerminal (terminal : Option Path) {batches : List Batch}
    (apart : Apart batches) :
    (mergeTerminal terminal batches).value =
      ⟨(batches.filter fun batch => batch.destination.isTerminal? terminal).flatMap Batch.lines,
        batches.filter fun batch => !batch.destination.isTerminal? terminal⟩ := by
  cases terminal with
  | none =>
      have all : batches.filter (fun _ => true) = batches :=
        List.filter_eq_self.mpr fun _ _ => rfl
      simp [mergeTerminal, Destination.isTerminal?, all]
  | some device =>
      rcases takeBatch_cases (apart.exclusive device) with ⟨none, missing⟩ | ⟨batch, only, found⟩
      · have all : batches.filter (fun batch => !batch.destination.isTerminal device) = batches :=
          List.filter_eq_self.mpr fun batch batchMem => by
            simpa using List.filter_eq_nil_iff.mp none batch batchMem
        simp [mergeTerminal, Destination.isTerminal?, missing, none, all]
      · simp [mergeTerminal, Destination.isTerminal?, found, only]

end StopView
