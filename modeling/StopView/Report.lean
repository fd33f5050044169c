import StopView.Batch
import StopView.World

/-!
# Reports

Batches are delivered one after the other.  One that cannot be written does not keep
the next from being written.  The report lists the destinations that were written and
those that were not, with the reason.
-/

namespace StopView

/-- What became of several batches. -/
structure Report where
  delivered : List Destination
  failures : List (Destination × Failure)
deriving Repr, DecidableEq

namespace Report

/-- The report before anything was delivered. -/
def empty : Report :=
  ⟨[], []⟩

/-- Whether everything was written. -/
def isComplete (report : Report) : Bool :=
  report.failures.isEmpty

/-- A report with one more destination. -/
def add (report : Report) (destination : Destination) (outcome : Except Failure Unit) : Report :=
  match outcome with
  | .ok () => { report with delivered := report.delivered ++ [destination] }
  | .error cause => { report with failures := report.failures ++ [(destination, cause)] }

end Report

/-- The world after some deliveries, and what became of them. -/
structure Delivery where
  world : World
  report : Report

namespace Delivery

/-- Deliver one batch. -/
def deliver (delivery : Delivery) (batch : Batch) (clear : Bool) : Noted Delivery :=
  let (world, outcome) := delivery.world.deliver batch.destination batch.lines clear
  ⟨⟨world, delivery.report.add batch.destination outcome⟩,
    match outcome with
    | .ok () => []
    | .error cause => [.deliveryFailed cause]⟩

/-- Deliver several batches, one after the other. -/
def deliverAll (delivery : Delivery) (clear : Bool) : List Batch → Noted Delivery
  | [] => pure delivery
  | batch :: rest => do
      let delivery ← delivery.deliver batch clear
      delivery.deliverAll clear rest

end Delivery

/-- Deliver batches to the world. -/
def World.deliverAll (world : World) (batches : List Batch) (clear : Bool) : Noted Delivery :=
  Delivery.deliverAll ⟨world, .empty⟩ clear batches

end StopView
