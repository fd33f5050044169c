import StopView.Notice
import StopView.Palette
import StopView.Settings

/-!
# Batches

A batch is what one destination receives.  The main batch holds the sections that have
no destination of their own, under the legend and above a closing rule, and after them
what is told of the latest lifecycle event.  All sections with the same destination
share one further batch.

A batch for the terminal that shows the main batch anyway is moved into it.
-/

namespace StopView

/-- Lines for one destination. -/
structure Batch where
  destination : Destination
  lines : List String
deriving Repr, DecidableEq

/-- A section with its lines. -/
structure SectionLines where
  part : Section
  lines : List String
deriving Repr, DecidableEq

/-- Add lines for a destination to the batch that it has, or to a new one. -/
def addToBatch (destination : Destination) (lines : List String) : List Batch → List Batch
  | [] => [⟨destination, lines⟩]
  | batch :: rest =>
      if Destination.Same batch.destination destination then
        { batch with lines := batch.lines ++ lines } :: rest
      else
        batch :: addToBatch destination lines rest

/-- The batches of the sections with a destination of their own, by first appearance. -/
def splitBatches (outputs : SectionOutputs) (sections : List SectionLines) : List Batch :=
  sections.foldl
    (fun batches item =>
      match outputs.get item.part with
      | .noSplit => batches
      | .split destination => addToBatch destination item.lines batches)
    []

/-- Take the first batch that a test accepts out of a list. -/
def takeBatch (accepts : Batch → Bool) : List Batch → Option (Batch × List Batch)
  | [] => none
  | batch :: rest =>
      if accepts batch then
        some (batch, rest)
      else
        (takeBatch accepts rest).map fun found => (found.1, batch :: found.2)

/-- The split batches without the one for the terminal, and the lines of that one. -/
structure Merge where
  merged : List String
  batches : List Batch
deriving Repr, DecidableEq

/-- Take out the batch for the terminal, if there is a terminal and such a batch. -/
def mergeTerminal (terminal : Option Path) (batches : List Batch) : Noted Merge :=
  match terminal with
  | none => pure ⟨[], batches⟩
  | some device =>
      match takeBatch (fun batch => batch.destination.isTerminal device) batches with
      | some (batch, rest) => ⟨⟨batch.lines, rest⟩, [.terminalMerged]⟩
      | none => pure ⟨[], batches⟩

/-- Whether a section goes to the main batch. -/
def isMain (outputs : SectionOutputs) (part : Section) : Bool :=
  outputs.get part == .noSplit

/-- The lines of the main batch's sections, under the legend if there are any sections. -/
def mainSections (palette : Palette) (outputs : SectionOutputs)
    (sections : List SectionLines) : List String :=
  let main := sections.filter fun item => isMain outputs item.part
  if main.isEmpty then [] else palette.legend :: main.flatMap SectionLines.lines

/-- Lines with a rule below them, if there are any. -/
def closeWithRule (palette : Palette) (lines : List String) : List String :=
  if lines.isEmpty then [] else lines ++ [palette.banner ""]

/-- The batches of a view, the main one first. -/
def assemble (settings : Settings) (palette : Palette) (terminal : Option Path)
    (sections : List SectionLines) (lifecycle : List String) : Noted (List Batch) := do
  let outputs := settings.sectionOutputs
  let split ← mergeTerminal terminal (splitBatches outputs sections)
  let main := closeWithRule palette (mainSections palette outputs sections ++ split.merged)
  return ⟨settings.output, main ++ lifecycle⟩ :: split.batches

end StopView
