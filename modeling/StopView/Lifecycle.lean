import StopView.Inspector
import StopView.Notice
import StopView.Palette

/-!
# Lifecycle events

The host reports when the program continues, stops and exits.  Only the latest event
is kept, as the lines that tell of it; reading them does not use them up.

A segmentation fault is told together with the address that caused it.  While a
recording is replayed that address cannot be found, and the program counter is told
instead.  Whether a recording is replayed is asked once, at the first such fault, and
remembered.
-/

namespace StopView

/-- Why the program stopped. -/
inductive StopKind where
  | signal (name : String)
  | breakpoint (locations : List String)
  | other
deriving Repr, DecidableEq

/-- What happened to the program. -/
inductive LifecycleEvent where
  | continued
  | stopped (kind : StopKind)
  | exited (code : Option Int)
deriving Repr, DecidableEq

/-- The short name of an event. -/
def LifecycleEvent.kind : LifecycleEvent → String
  | .continued => "continued"
  | .stopped _ => "stopped"
  | .exited _ => "exited"

/-- The lines that tell of the latest event, and whether a recording is replayed, if
that has been asked. -/
structure LifecycleRecord where
  lines : List String
  replay : Option Bool
deriving Repr, DecidableEq

/-- A record after an event, and how often the inspector's extensions were asked for. -/
structure Recorded where
  record : LifecycleRecord
  checks : Nat
deriving Repr, DecidableEq

/-- The extension that replays recordings. -/
def replayExtension : String := "rr"

/-- The signal of a segmentation fault. -/
def segmentationFault : String := "SIGSEGV"

/-- Where a fault happened, as far as it can be told. -/
def faultDetail (inspector : Inspector) (replay : Bool) : String :=
  if replay then
    match inspector.programCounter with
    | .ok pc => " (current pc: " ++ pc.text ++ ")"
    | .error _ => ""
  else
    match inspector.faultAddress with
    | .ok (some address) => " (fault address " ++ address.text ++ ")"
    | _ => ""

/-- The line that tells of a signal. -/
def signalLine (palette : Palette) (name detail : String) : String :=
  palette.paint .signalMessage ("Program received signal " ++ name ++ detail)

namespace LifecycleRecord

/-- The record before any event. -/
def empty : LifecycleRecord :=
  ⟨[], none⟩

/-- The record after a signal. -/
def recordSignal (record : LifecycleRecord) (inspector : Inspector) (palette : Palette)
    (name : String) : Recorded :=
  if name = segmentationFault then
    let replay := record.replay.getD (inspector.hasExtension replayExtension)
    ⟨⟨[signalLine palette name (faultDetail inspector replay)], some replay⟩,
      if record.replay.isSome then 0 else 1⟩
  else
    ⟨⟨[signalLine palette name ""], record.replay⟩, 0⟩

/-- The record after an event. -/
def record (record : LifecycleRecord) (inspector : Inspector) (palette : Palette)
    (event : LifecycleEvent) : Recorded :=
  match event with
  | .stopped (.signal name) => record.recordSignal inspector palette name
  | .stopped (.breakpoint locations) =>
      ⟨⟨locations.map fun location => palette.paint .breakpointMessage ("Breakpoint " ++ location),
        record.replay⟩, 0⟩
  | .exited (some code) =>
      ⟨⟨[palette.paint .exitMessage ("Exited: " ++ toString code)], record.replay⟩, 0⟩
  | .stopped .other | .exited none | .continued => ⟨⟨[], record.replay⟩, 0⟩

/-- The record after several events, from the first to the last. -/
def recordAll (record : LifecycleRecord) (inspector : Inspector) (palette : Palette) :
    List LifecycleEvent → Recorded
  | [] => ⟨record, 0⟩
  | event :: rest =>
      let first := record.record inspector palette event
      let last := first.record.recordAll inspector palette rest
      ⟨last.record, first.checks + last.checks⟩

@[simp]
theorem recordAll_nil (record : LifecycleRecord) (inspector : Inspector) (palette : Palette) :
    record.recordAll inspector palette [] = ⟨record, 0⟩ :=
  rfl

/-- Recording some events after others is recording all of them. -/
theorem recordAll_append (record : LifecycleRecord) (inspector : Inspector) (palette : Palette)
    (first second : List LifecycleEvent) :
    record.recordAll inspector palette (first ++ second) =
      let before := record.recordAll inspector palette first
      let after := before.record.recordAll inspector palette second
      ⟨after.record, before.checks + after.checks⟩ := by
  induction first generalizing record with
  | nil => simp [recordAll]
  | cons event rest ih => simp [recordAll, ih, Nat.add_assoc]

end LifecycleRecord

end StopView
