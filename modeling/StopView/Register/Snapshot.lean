/-!
# Register snapshots

A snapshot holds the values of the registers that could be read at one moment, each
name once.  A register has changed since an earlier snapshot when that one holds it
with another value; a register that it does not hold has not changed.
-/

namespace StopView

/-- Register values by name. -/
structure Snapshot where
  entries : List (String × UInt64)
deriving Repr, DecidableEq

namespace Snapshot

/-- The snapshot before anything was read. -/
def empty : Snapshot :=
  ⟨[]⟩

/-- The values that a reader gives for a list of names. -/
def take (names : List String) (read : String → Option UInt64) : Snapshot :=
  ⟨names.eraseDups.filterMap fun name => (read name).map fun value => (name, value)⟩

/-- The value of a register. -/
def get? (snapshot : Snapshot) (name : String) : Option UInt64 :=
  snapshot.entries.lookup name

/-- How many registers a snapshot holds. -/
def size (snapshot : Snapshot) : Nat :=
  snapshot.entries.length

/-- Whether a register has changed since an earlier snapshot. -/
def changed (current previous : Snapshot) (name : String) : Bool :=
  match current.get? name, previous.get? name with
  | some now, some before => now != before
  | _, _ => false

/-- The registers that have changed since an earlier snapshot. -/
def changedSince (current previous : Snapshot) : List String :=
  (current.entries.map Prod.fst).filter (current.changed previous)

@[simp]
theorem get?_empty (name : String) : empty.get? name = none :=
  rfl

/-- A snapshot of some names holds for each of them what the reader gives. -/
theorem get?_take (names : List String) (read : String → Option UInt64) (name : String) :
    (take names read).get? name = if name ∈ names then read name else none := by
  have found : ∀ asked : List String,
      (asked.filterMap fun name => (read name).map fun value => (name, value)).lookup name =
        if name ∈ asked then read name else none := by
    intro asked
    induction asked with
    | nil => simp
    | cons first rest ih =>
        by_cases same : name = first
        · subst same
          cases value : read name with
          | some word => simp [value]
          | none =>
              rw [List.filterMap_cons_none (by simp [value]), ih]
              simp [value]
        · cases value : read first with
          | some word =>
              have differs : (name == first) = false := by simpa using same
              simp [value, List.lookup_cons, differs, same, ih]
          | none =>
              rw [List.filterMap_cons_none (by simp [value]), ih]
              simp [same]
  simpa [take, get?] using found names.eraseDups

/-- Nothing has changed since nothing was read. -/
@[simp]
theorem changed_empty (current : Snapshot) (name : String) :
    current.changed empty name = false := by
  unfold changed
  split <;> simp_all

/-- Nothing has changed since the same snapshot. -/
@[simp]
theorem changed_self (current : Snapshot) (name : String) :
    current.changed current name = false := by
  unfold changed
  split <;> simp_all

end Snapshot

end StopView
