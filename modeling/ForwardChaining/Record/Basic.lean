import ForwardChaining.Solver.Basic
import ForwardChaining.Text.Basic

/-!
# Run records

A run record holds the state of a run and its history in a form that needs no registry: facts
are given by their names, and rules by their places and their sentences.
-/

namespace ForwardChaining

/-- A snapshot, with facts given by name. -/
structure SnapshotRecord where
  step : Nat
  iteration : Nat
  examined : RuleId
  performing : Bool
  status : Status
  memory : List String
  pending : List RuleId
  fired : List RuleId
  deriving DecidableEq

/-- The state of a run and its history. -/
structure RunRecord where
  vocabulary : Vocabulary
  /-- The rules as sentences, in order of declaration. -/
  rules : List String
  status : Status
  steps : Nat
  iteration : Nat
  memory : List String
  fired : List RuleId
  /-- The retained snapshots, oldest first. -/
  snapshots : List SnapshotRecord
  deriving DecidableEq

/-- A snapshot with its facts named by the registry. -/
def SnapshotRecord.capture (registry : Registry) (s : Snapshot) : SnapshotRecord where
  step := s.step
  iteration := s.iteration
  examined := s.examined
  performing := s.performing
  status := s.status
  memory := s.memory.toList.map registry.displayName
  pending := s.pending.toList
  fired := s.fired.toList

/-- The record of a solver's state. -/
def RunRecord.capture (s : Solver) : RunRecord where
  vocabulary := s.registry.vocabulary
  rules := s.rules.toList.map fun rule => rule.describe s.registry
  status := s.status
  steps := s.steps
  iteration := s.iteration
  memory := s.memory.names s.registry
  fired := s.fired.toList
  snapshots := s.history.snapshots.map (.capture s.registry)

/-- A line for a snapshot. -/
def SnapshotRecord.line (s : SnapshotRecord) : String :=
  "  step " ++ Text.padLeft ' ' 3 (toString s.step)
    ++ "  pass " ++ Text.padLeft ' ' 2 (toString s.iteration)
    ++ "  rule " ++ s.examined.describe ++ " " ++ (if s.performing then "fired" else "skipped")
    ++ ", memory [" ++ ", ".intercalate s.memory ++ "]"

namespace RunRecord

/-- The status as the end of a clause. -/
def describeStatus : Status → String
  | .running => "running"
  | .succeeded => "succeeded"
  | .failed deadlock => "failed (" ++ deadlock.describe ++ ")"

/-- The lines of a record; rules that have fired are marked with a star. -/
def lines (r : RunRecord) : List String :=
  let rules := r.rules.mapIdx fun i text =>
    let id : RuleId := ⟨i⟩
    " " ++ (if r.fired.contains id then "*" else " ") ++ " " ++ id.describe ++ " " ++ text
  let history :=
    if r.snapshots.isEmpty then [] else "History:" :: r.snapshots.map (·.line)
  [ "Run " ++ describeStatus r.status ++ " after " ++ toString r.steps ++ " steps in "
      ++ toString r.iteration ++ " passes",
    "Rules:" ] ++ rules ++ ["Memory: " ++ ", ".intercalate r.memory] ++ history

/-- A record as text, of which every line is ended. -/
def describe (r : RunRecord) : String :=
  String.join (r.lines.map (· ++ "\n"))

end RunRecord

end ForwardChaining
