import ForwardChaining.Solver.History

/-!
# The solver

A solver keeps a queue of pending rules and a cursor into it.  A step examines the rule
under the cursor: a satisfied rule fires and leaves the queue, any other is passed over.  A
pass ends when the cursor reaches the end of the queue.  The run succeeds when the queue is
empty, and fails when a whole pass fires no rule.

The invocations of effects are logged in the order in which they are made.  To rewind a
solver restores the state that was snapshotted after an earlier step, and leaves the log as
it is: what has been said stays said.
-/

namespace ForwardChaining

/-- The state of a run. -/
structure Solver where
  registry : Registry
  /-- All rules, in order of declaration. -/
  rules : Array Rule
  memory : WorkingMemory
  /-- The rules that have not fired, in order of declaration. -/
  pending : Array RuleId
  /-- The rules that have fired, in firing order. -/
  fired : Log RuleId
  /-- The cursor's place in the queue. -/
  head : Nat
  /-- The number of completed passes. -/
  iteration : Nat
  /-- The number of rules fired so far in the pass. -/
  firedThisPass : Nat
  /-- The number of examined rules. -/
  steps : Nat
  status : Status
  /-- The facts asserted by the latest step. -/
  lastAsserted : List FactId
  history : History
  config : SolverConfig
  /-- Every invocation of an effect, in order. -/
  log : Log Invocation
  deriving DecidableEq

namespace Solver

/-- A solver for the given rules, in whose memory the inputs have been asserted.  The registry
must have issued every fact of the inputs and of the rules. -/
def create (registry : Registry) (inputs : List FactId) (rules : List Rule)
    (config : SolverConfig := {}) : Except Error Solver := do
  inputs.forM registry.check
  rules.forM (·.validate registry)
  return {
    registry := registry
    rules := rules.toArray
    memory := .ofSequence inputs
    pending := (Array.range rules.length).map RuleId.mk
    fired := .empty
    head := 0
    iteration := 0
    firedThisPass := 0
    steps := 0
    status := .running
    lastAsserted := []
    history := .empty config.historyCapacity
    config := config
    log := .empty }

/-! ### Stepping -/

/-- The place of the rule that is examined next: the cursor's, or the front of the queue if
the cursor is beyond its end. -/
def cursor (s : Solver) : Nat :=
  if s.head < s.pending.size then s.head else 0

/-- The rule with the given place in the list of rules. -/
def rule? (s : Solver) (id : RuleId) : Option Rule :=
  s.rules[id.index]?

/-- The rule with the given place, which must be one of the list. -/
def rule (s : Solver) (id : RuleId) : Except Error Rule :=
  match s.rule? id with
  | some rule => .ok rule
  | none => fail (.unknownRule id.index)

/-- The rule `id`, which stands under the cursor, fires and leaves the queue. -/
def fire (s : Solver) (id : RuleId) (rule : Rule) : Solver :=
  { s with
    memory := s.memory.assertAll rule.conclusions
    pending := s.pending.eraseIdxIfInBounds s.cursor
    fired := s.fired.push id
    head := s.cursor
    firedThisPass := s.firedThisPass + 1
    steps := s.steps + 1
    lastAsserted := rule.conclusions
    log := s.log.append (rule.fire s.registry) }

/-- The rule under the cursor is passed over. -/
def skip (s : Solver) : Solver :=
  { s with
    head := s.cursor + 1
    steps := s.steps + 1
    lastAsserted := [] }

/-- The end of a pass.  A pass that fired no rule is the end of the run, unless no rule is
pending. -/
def finishPass (s : Solver) : Solver :=
  let iteration := s.iteration + 1
  { s with
    iteration := iteration
    head := 0
    firedThisPass := 0
    status :=
      if s.firedThisPass = 0 ∧ 0 < s.pending.size then .failed ⟨s.pending.toList, iteration⟩
      else s.status }

/-- The pass ends if the cursor has reached the end of the queue. -/
def settle (s : Solver) : Solver :=
  if s.pending.size ≤ s.head then s.finishPass else s

/-- The state as it is snapshotted after a step that examined the rule `examined`. -/
def snapshot (s : Solver) (examined : RuleId) (performing : Bool) : Snapshot where
  step := s.steps
  iteration := s.iteration
  head := s.head
  firedThisPass := s.firedThisPass
  examined := examined
  performing := performing
  status := s.status
  memory := s.memory.log
  pending := s.pending
  fired := s.fired

/-- A snapshot is taken if the settings ask for one after such a step. -/
def record (s : Solver) (examined : RuleId) (performing : Bool) : Solver :=
  if s.config.snapshotsStep performing then
    { s with history := s.history.push (s.snapshot examined performing) }
  else s

/-- The rule `id`, which stands under the cursor, is examined. -/
def examine (s : Solver) (id : RuleId) : Outcome × Solver :=
  let rule := (s.rule? id).getD {}
  if rule.isSatisfied s.memory then
    (.examined ⟨id, true, rule.conclusions⟩, (s.fire id rule).settle.record id true)
  else (.examined ⟨id, false, []⟩, s.skip.settle.record id false)

/-- Examines one rule.  Once the run is over, every further step reports the same verdict. -/
def step (s : Solver) : Outcome × Solver :=
  match s.status with
  | .succeeded => (.succeeded, s)
  | .failed deadlock => (.failed deadlock, s)
  | .running =>
    match s.pending[s.cursor]? with
    | none => (.succeeded, { s with status := .succeeded })
    | some id => s.examine id

/-! ### Rewinding -/

/-- The state that held after the given step, which must be retained in the history.  Later
snapshots are dropped. -/
def rewind (s : Solver) (step : Nat) : Except Error Solver :=
  match s.history.get? step with
  | none => fail (.snapshotNotFound step)
  | some snapshot => .ok { s with
      memory := .ofSequence snapshot.memory.toList
      pending := snapshot.pending
      fired := snapshot.fired
      head := snapshot.head
      iteration := snapshot.iteration
      firedThisPass := snapshot.firedThisPass
      steps := snapshot.step
      status := snapshot.status
      lastAsserted := []
      history := s.history.truncateAfter step }

/-! ### Inspection -/

/-- The run is over. -/
def isTerminal (s : Solver) : Bool :=
  s.status.isTerminal

/-- The rule that the next step examines, if it examines one. -/
def current? (s : Solver) : Option RuleId :=
  if s.isTerminal then none else s.pending[s.cursor]?

/-- The rule has fired. -/
def hasFired (s : Solver) (id : RuleId) : Bool :=
  s.fired.toList.contains id

end Solver

/-! ### Diagnosis -/

/-- A rule's place, for diagnosis. -/
def RuleId.debug (id : RuleId) : String :=
  "RuleId(" ++ toString id.index ++ ")"

/-- A list of places, for diagnosis. -/
def RuleId.debugList (ids : List RuleId) : String :=
  "[" ++ ", ".intercalate (ids.map debug) ++ "]"

/-- A status, for diagnosis. -/
def Status.describe : Status → String
  | running => "Running"
  | succeeded => "Succeeded"
  | failed d =>
    "Failed(Deadlock \x7b unsatisfied: " ++ RuleId.debugList d.unsatisfied
      ++ ", iteration: " ++ toString d.iteration ++ " \x7d)"

/-- The main parts of a solver's state, for diagnosis. -/
def Solver.describe (s : Solver) : String :=
  "Solver \x7b rules: " ++ toString s.rules.size
    ++ ", memory: " ++ Text.quotedList (s.memory.names s.registry)
    ++ ", pending: " ++ RuleId.debugList s.pending.toList ++ ", head: " ++ toString s.head
    ++ ", iteration: " ++ toString s.iteration
    ++ ", status: " ++ s.status.describe ++ ", .. \x7d"

end ForwardChaining
