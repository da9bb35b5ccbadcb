import ForwardChaining.Log
import ForwardChaining.Solver.Status

/-!
# History

A snapshot holds the state of a run after one of its steps.  A history retains the latest
snapshots, as many as its capacity, and drops the oldest to make room.
-/

namespace ForwardChaining

/-- Which steps are snapshotted. -/
inductive SnapshotPolicy where
  /-- The steps that fire a rule. -/
  | onFire
  /-- All steps. -/
  | everyStep
  /-- No step. -/
  | never
  deriving DecidableEq

/-- The settings of a solver. -/
structure SolverConfig where
  /-- How many snapshots are retained. -/
  historyCapacity : Nat := 256
  snapshots : SnapshotPolicy := .onFire
  deriving DecidableEq

/-- A step is snapshotted, given whether it fired a rule. -/
def SolverConfig.snapshotsStep (c : SolverConfig) (fired : Bool) : Bool :=
  match c.snapshots with
  | .onFire => fired
  | .everyStep => true
  | .never => false

/-- The state of a run after a step. -/
structure Snapshot where
  /-- The number of the step, counted from one. -/
  step : Nat
  /-- The number of completed passes. -/
  iteration : Nat
  /-- The cursor's place in the queue. -/
  head : Nat
  /-- The number of rules fired so far in the pass. -/
  firedThisPass : Nat
  /-- The rule that the step examined. -/
  examined : RuleId
  /-- The step fired its rule. -/
  performing : Bool
  status : Status
  /-- The assertions, in order. -/
  memory : Log FactId
  /-- The rules that have not fired, in queue order. -/
  pending : Array RuleId
  /-- The rules that have fired, in firing order. -/
  fired : Log RuleId
  deriving DecidableEq

/-- The retained snapshots of a run. -/
structure History where
  /-- The snapshots, in order. -/
  log : Log Snapshot
  /-- How many snapshots are retained. -/
  capacity : Nat
  deriving DecidableEq

namespace History

/-- The history of the given capacity, without snapshots. -/
def empty (capacity : Nat := 256) : History where
  log := .empty
  capacity := capacity

/-- The snapshots, oldest first. -/
def snapshots (h : History) : List Snapshot :=
  h.log.toList

/-- The history with one more snapshot; beyond its capacity it loses the oldest. -/
def push (h : History) (s : Snapshot) : History :=
  let grown := h.log.push s
  { h with log := if h.capacity < grown.size then grown.dropOldest else grown }

/-- The snapshot of the given step, if it is retained. -/
def get? (h : History) (step : Nat) : Option Snapshot :=
  h.snapshots.find? (·.step = step)

/-- The newest snapshot. -/
def latest? (h : History) : Option Snapshot :=
  h.log.latest?

/-- The oldest snapshot. -/
def oldest? (h : History) : Option Snapshot :=
  h.log.oldest?

/-- The first and the last retained step. -/
def stepRange? (h : History) : Option (Nat × Nat) :=
  match h.oldest?, h.latest? with
  | some first, some last => some (first.step, last.step)
  | _, _ => none

/-- The newest `count` snapshots, oldest first. -/
def recent (h : History) (count : Nat) : List Snapshot :=
  h.log.latest count

/-- The history without snapshots. -/
def clear (h : History) : History :=
  { h with log := .empty }

/-- The history without its newest snapshots, back to one that is not later than `step`. -/
def truncateAfter (h : History) (step : Nat) : History :=
  { h with log := h.log.dropLatestWhile (step < ·.step) }

/-! ### The snapshots -/

theorem snapshots_push (h : History) (s : Snapshot) :
  (h.push s).snapshots =
    if h.capacity < h.snapshots.length + 1 then (h.snapshots ++ [s]).tail
    else h.snapshots ++ [s]
  := by
  have size : (h.log.push s).size = h.snapshots.length + 1 := by
    rw [← Log.length_toList, Log.toList_push, List.length_append]
    rfl
  have grown : (h.log.push s).toList = h.snapshots ++ [s] := Log.toList_push _ _
  simp only [push, size]
  split
  · rw [snapshots, Log.toList_dropOldest, grown]
  · rw [snapshots, grown]

theorem snapshots_truncateAfter (h : History) (step : Nat) :
  (h.truncateAfter step).snapshots = (h.snapshots.reverse.dropWhile (step < ·.step)).reverse
  := Log.toList_dropLatestWhile _ _

theorem recent_eq (h : History) (count : Nat) :
  h.recent count = h.snapshots.drop (h.snapshots.length - count)
  := by
  rw [recent, Log.latest_eq, snapshots, Log.length_toList]

end History

end ForwardChaining
