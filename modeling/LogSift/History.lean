import LogSift.Clock.Moment
import LogSift.Script.Workspace

/-!
# Undo history

Before a script changes a workspace a snapshot of it is put into the history. The history is
bounded by the lines its snapshots hold together, and gives up the oldest ones first; the newest
one stays whatever its size.
-/

namespace LogSift

/-- A workspace as it was before a script. -/
structure Snapshot where
  id : Nat
  /-- When it was taken. -/
  time : Moment
  /-- The label of the script. -/
  label : String
  workspace : Workspace

/-- The number of lines a snapshot holds. -/
def Snapshot.size (s : Snapshot) : Nat := s.workspace.log.length

/-- Snapshots, the oldest first. -/
structure History where
  snapshots : List Snapshot
  /-- The most lines to be held. -/
  budget : Nat
  /-- The number of lines held. -/
  total : Nat
  /-- The number of the next snapshot. -/
  nextId : Nat

namespace History

/-- The budget as long as none is set. -/
def initialBudget : Nat := 5000000

/-- A history without snapshots. -/
def empty (budget : Nat) : History := ⟨[], budget, 0, 1⟩

/-- Gives up snapshots until the rest is within the budget or only one is left. -/
def evict (budget : Nat) : Nat → List Snapshot → Nat × List Snapshot
  | total, s :: t :: rest =>
    if budget < total then evict budget (total - s.size) (t :: rest) else (total, s :: t :: rest)
  | total, few => (total, few)

/-- Takes a snapshot. -/
def push (h : History) (time : Moment) (label : String) (w : Workspace) : History :=
  let s : Snapshot := ⟨h.nextId, time, label, w⟩
  let (total, snapshots) := evict h.budget (h.total + s.size) (h.snapshots ++ [s])
  { h with snapshots, total, nextId := h.nextId + 1 }

/-- The newest snapshot. -/
def newest? (h : History) : Option Snapshot := h.snapshots.getLast?

/-- Takes the newest snapshot out. -/
def pop? (h : History) : Option (Snapshot × History) :=
  h.newest?.map fun s =>
    (s, { h with snapshots := h.snapshots.dropLast, total := h.total - s.size })

/-- Takes all snapshots out. -/
def clear (h : History) : History := { h with snapshots := [], total := 0 }

end History

end LogSift
