import ForwardChaining.Proofs.Solver.Position

/-!
# Steps

What one step comes to.  It reports a verdict and changes nothing that counts
(`Solver.step_of_verdict`), or it examines one rule and is counted
(`Solver.step_of_examined`).  In either case it adds to the memory what it says it asserted,
to the log the invocations that this calls for, and to the fired rules what it says it fired.
-/

namespace ForwardChaining

/-- The facts that a step asserts, in order. -/
def Outcome.asserted : Outcome → List FactId
  | examined e => e.asserted
  | _ => []

/-- The rule that a step fires, if it fires one. -/
def Outcome.fired : Outcome → List RuleId
  | examined e => if e.performing then [e.rule] else []
  | _ => []

theorem Outcome.asserted_of_verdict {o : Outcome} (verdict : o.isTerminal = true) :
  o.asserted = []
  := by
  cases o with
  | examined e => cases verdict
  | succeeded => rfl
  | failed d => rfl

theorem Outcome.fired_of_verdict {o : Outcome} (verdict : o.isTerminal = true) :
  o.fired = []
  := by
  cases o with
  | examined e => cases verdict
  | succeeded => rfl
  | failed d => rfl

namespace Solver

variable {s : Solver}

/-! ### What no step changes -/

/-- What a solver works on, and under which settings. -/
structure Problem where
  registry : Registry
  /-- All rules, in order of declaration. -/
  rules : Array Rule
  config : SolverConfig
  /-- How many snapshots are retained. -/
  capacity : Nat

/-- What a solver works on, and under which settings. -/
def problem (s : Solver) : Problem where
  registry := s.registry
  rules := s.rules
  config := s.config
  capacity := s.history.capacity

theorem problem_record (s : Solver) (id : RuleId) (performing : Bool) :
  (s.record id performing).problem = s.problem
  := by
  unfold record
  split <;> rfl

/-! ### What an examination changes -/

/-- To settle a pass changes the pass and the status only. -/
theorem settle_eq_with (s : Solver) :
  s.settle = { s with
    iteration := s.settle.iteration
    head := s.settle.head
    firedThisPass := s.settle.firedThisPass
    status := s.settle.status }
  := by
  unfold settle
  split
  · rfl
  · rfl

/-- The rule `id` is examined in `s`, with the outcome `e`, and leads to `u`, of which a
snapshot is taken if the settings ask for one. -/
structure Examines (s : Solver) (id : RuleId) (e : Examination) (u : Solver) : Prop where
  rule : e.rule = id
  after : s.examine id = (.examined e, u.record id e.performing)
  problem : u.problem = s.problem
  history : u.history = s.history
  steps : u.steps = s.steps + 1
  memory : u.memory = s.memory.assertAll e.asserted
  fired : u.fired = s.fired.append (Outcome.examined e).fired
  log : u.log = s.log.append (e.asserted.flatMap s.registry.perform)

theorem exists_examines (s : Solver) (id : RuleId) :
  ∃ e u, s.Examines id e u
  := by
  by_cases satisfied : (s.ruleAt id).isSatisfied s.memory = true
  · use ⟨id, true, (s.ruleAt id).conclusions⟩, (s.fire id (s.ruleAt id)).settle
    constructor
    · rfl
    · apply examine_of_satisfied satisfied
    · apply congrArg Solver.problem (settle_eq_with _)
    · apply congrArg Solver.history (settle_eq_with _)
    · apply congrArg Solver.steps (settle_eq_with _)
    · apply congrArg Solver.memory (settle_eq_with _)
    · apply congrArg Solver.fired (settle_eq_with _)
    · apply congrArg Solver.log (settle_eq_with _)
  · use ⟨id, false, []⟩, s.skip.settle
    constructor
    · rfl
    · apply examine_of_unsatisfied satisfied
    · apply congrArg Solver.problem (settle_eq_with _)
    · apply congrArg Solver.history (settle_eq_with _)
    · apply congrArg Solver.steps (settle_eq_with _)
    · apply congrArg Solver.memory (settle_eq_with _)
    · apply congrArg Solver.fired (settle_eq_with _)
    · apply congrArg Solver.log (settle_eq_with _)

/-! ### Verdicts and examinations -/

theorem examined_or_verdict (s : Solver) :
  (∃ e, s.step.1 = .examined e) ∨ s.step.1.isTerminal = true
  := by
  cases s.step.1 with
  | examined e =>
    left
    use e
  | succeeded =>
    right
    rfl
  | failed d =>
    right
    rfl

/-- A step that reports a verdict leaves the position and the history as they are. -/
theorem step_of_verdict (verdict : s.step.1.isTerminal = true) :
  s.step.2.position = s.position ∧ s.step.2.history = s.history ∧ s.step.2.isTerminal = true
  := by
  cases standing : s.position.standing with
  | succeeded =>
    rw [step_of_standing_succeeded standing]
    apply And.intro (position_with_succeeded standing)
    apply And.intro rfl rfl
  | failed d =>
    rw [step_of_standing_failed standing]
    apply And.intro rfl
    apply And.intro rfl
    simp only [position, Status.standing] at standing
    split at standing
    · cases standing
    · rw [isTerminal, standing]
      rfl
  | running =>
    obtain ⟨running, id, current⟩ := current_of_standing_running standing
    obtain ⟨e, u, examined⟩ := s.exists_examines id
    rw [step_of_current running current, examined.after] at verdict
    cases verdict

/-- The verdict that a step reports is the one that the solver then holds. -/
theorem status_of_verdict (verdict : s.step.1.isTerminal = true) :
  (s.step.1 = .succeeded ∧ s.step.2.status = .succeeded)
    ∨ ∃ d, s.step.1 = .failed d ∧ s.step.2.status = .failed d
  := by
  unfold step at verdict ⊢
  split
  · rename_i status
    left
    apply And.intro rfl status
  · rename_i d status
    right
    use d, rfl, status
  · rename_i running
    rw [running] at verdict
    split
    · left
      apply And.intro rfl rfl
    · rename_i id current
      obtain ⟨e, u, examined⟩ := s.exists_examines id
      simp only [current, examined.after] at verdict
      cases verdict

/-- A run that is over reports its verdict. -/
theorem verdict_of_terminal (ended : s.isTerminal = true) :
  s.step.1.isTerminal = true
  := by
  unfold step
  split
  · rfl
  · rfl
  · rename_i running
    rw [isTerminal, running] at ended
    cases ended

/-- The next step reports a verdict exactly if the run is over or no rule is pending. -/
theorem isTerminal_step (s : Solver) :
  s.step.1.isTerminal = (s.isTerminal || s.pending.isEmpty)
  := by
  cases ended : s.isTerminal with
  | true => rw [verdict_of_terminal ended, Bool.true_or]
  | false =>
    have running : s.status = .running := by
      cases status : s.status with
      | running => rfl
      | succeeded => rw [isTerminal, status] at ended; cases ended
      | failed d => rw [isTerminal, status] at ended; cases ended
    rw [Bool.false_or]
    cases current : s.pending[s.cursor]? with
    | none =>
      rw [Array.isEmpty_iff.mpr (current_eq_none_iff.mp current), step, running]
      dsimp only
      rw [current]
      rfl
    | some id =>
      have nonempty : s.pending ≠ #[] := by
        intro empty
        rw [current_eq_none_iff.mpr empty] at current
        cases current
      obtain ⟨e, u, examined⟩ := s.exists_examines id
      rw [step_of_current running current, examined.after, Array.isEmpty_eq_false_iff.mpr nonempty]
      rfl

/-- A step that examines a rule finds it under the cursor of a running solver. -/
theorem step_of_examined {e : Examination} (outcome : s.step.1 = .examined e) :
  s.status = .running ∧ s.pending[s.cursor]? = some e.rule ∧
    ∃ u, s.Examines e.rule e u ∧ s.step.2 = u.record e.rule e.performing
  := by
  cases standing : s.position.standing with
  | succeeded =>
    rw [step_of_standing_succeeded standing] at outcome
    cases outcome
  | failed d =>
    rw [step_of_standing_failed standing] at outcome
    cases outcome
  | running =>
    obtain ⟨running, id, current⟩ := current_of_standing_running standing
    obtain ⟨e', u, examined⟩ := s.exists_examines id
    rw [step_of_current running current, examined.after] at outcome
    obtain rfl : e' = e := Outcome.examined.inj outcome
    obtain rfl := examined.rule
    apply And.intro running
    apply And.intro current
    use u, examined
    rw [step_of_current running current, examined.after]

/-- A step that examines a rule fires it and asserts what it concludes, or passes it over and
asserts nothing. -/
theorem step_eq_of_examined {e : Examination} (outcome : s.step.1 = .examined e) :
  (e.performing = true ∧ e.asserted = (s.ruleAt e.rule).conclusions
      ∧ s.step.2 = (s.fire e.rule (s.ruleAt e.rule)).settle.record e.rule true)
    ∨ (e.performing = false ∧ e.asserted = []
      ∧ s.step.2 = s.skip.settle.record e.rule false)
  := by
  obtain ⟨running, current, -⟩ := step_of_examined outcome
  rw [step_of_current running current] at outcome ⊢
  by_cases satisfied : (s.ruleAt e.rule).isSatisfied s.memory = true
  · left
    rw [examine_of_satisfied satisfied] at outcome ⊢
    have same := Outcome.examined.inj outcome.symm
    exact ⟨congrArg Examination.performing same, congrArg Examination.asserted same, rfl⟩
  · right
    rw [examine_of_unsatisfied satisfied] at outcome ⊢
    have same := Outcome.examined.inj outcome.symm
    exact ⟨congrArg Examination.performing same, congrArg Examination.asserted same, rfl⟩

/-- A step that examines a rule is counted. -/
theorem steps_of_examined {e : Examination} (outcome : s.step.1 = .examined e) :
  s.step.2.steps = s.steps + 1
  := by
  obtain ⟨-, -, u, examined, after⟩ := step_of_examined outcome
  rw [after, ← examined.steps]
  apply congrArg Position.steps (position_record u e.rule e.performing)

/-- To settle a pass ends it or changes nothing about it. -/
theorem pass_settle (s : Solver) :
  (s.settle.iteration = s.iteration ∧ s.settle.firedThisPass = s.firedThisPass)
    ∨ (s.settle.iteration = s.iteration + 1 ∧ s.settle.firedThisPass = 0)
  := by
  unfold settle
  split
  · right
    exact ⟨rfl, rfl⟩
  · left
    exact ⟨rfl, rfl⟩

/-- A step counts the rule that it fires, unless it ends the pass. -/
theorem pass_step (s : Solver) :
  (s.step.2.iteration = s.iteration
      ∧ s.step.2.firedThisPass = s.firedThisPass + s.step.1.fired.length)
    ∨ (s.step.2.iteration = s.iteration + 1 ∧ s.step.2.firedThisPass = 0)
  := by
  have settled : ∀ (t : Solver) (id : RuleId) (performing : Bool),
      (t.settle.record id performing).iteration = t.settle.iteration
        ∧ (t.settle.record id performing).firedThisPass = t.settle.firedThisPass := by
    intro t id performing
    have same := position_record t.settle id performing
    exact ⟨congrArg Position.iteration same, congrArg Position.firedThisPass same⟩
  obtain ⟨e, outcome⟩ | verdict := s.examined_or_verdict
  · rw [outcome, Outcome.fired]
    obtain ⟨performing, -, after⟩ | ⟨performing, -, after⟩ := step_eq_of_examined outcome
    · obtain ⟨iteration, fired⟩ := settled (s.fire e.rule (s.ruleAt e.rule)) e.rule true
      rw [after, iteration, fired, performing]
      exact pass_settle _
    · obtain ⟨iteration, fired⟩ := settled s.skip e.rule false
      rw [after, iteration, fired, performing]
      exact pass_settle _
  · left
    have same := (step_of_verdict verdict).1
    rw [Outcome.fired_of_verdict verdict]
    exact ⟨congrArg Position.iteration same, congrArg Position.firedThisPass same⟩

/-- Once a rule has been examined, the run either goes on or has failed. -/
theorem status_of_examined {e : Examination} (outcome : s.step.1 = .examined e) :
  s.step.2.status ≠ .succeeded
  := by
  obtain ⟨running, current, -⟩ := step_of_examined outcome
  rw [step_of_current running current]
  apply status_examine running

theorem problem_step (s : Solver) :
  s.step.2.problem = s.problem
  := by
  cases standing : s.position.standing with
  | succeeded =>
    rw [step_of_standing_succeeded standing]
    rfl
  | failed d =>
    rw [step_of_standing_failed standing]
  | running =>
    obtain ⟨running, id, current⟩ := current_of_standing_running standing
    obtain ⟨e, u, examined⟩ := s.exists_examines id
    rw [step_of_current running current, examined.after, problem_record, examined.problem]

/-- A step adds to the memory what it asserts. -/
theorem memory_step (s : Solver) :
  s.step.2.memory = s.memory.assertAll s.step.1.asserted
  := by
  obtain ⟨e, outcome⟩ | verdict := s.examined_or_verdict
  · obtain ⟨-, -, u, examined, after⟩ := step_of_examined outcome
    rw [after, outcome, Outcome.asserted, ← examined.memory]
    apply congrArg Position.memory (position_record u e.rule e.performing)
  · rw [Outcome.asserted_of_verdict verdict]
    apply congrArg Position.memory (step_of_verdict verdict).1

/-- A step adds to the fired rules the one that it fires. -/
theorem fired_step (s : Solver) :
  s.step.2.fired = s.fired.append s.step.1.fired
  := by
  obtain ⟨e, outcome⟩ | verdict := s.examined_or_verdict
  · obtain ⟨-, -, u, examined, after⟩ := step_of_examined outcome
    rw [after, outcome, ← examined.fired]
    apply congrArg Position.fired (position_record u e.rule e.performing)
  · rw [Outcome.fired_of_verdict verdict]
    apply congrArg Position.fired (step_of_verdict verdict).1

theorem log_record (s : Solver) (id : RuleId) (performing : Bool) :
  (s.record id performing).log = s.log
  := by
  unfold record
  split <;> rfl

/-- A step makes the invocations that the facts which it asserts call for, in their order. -/
theorem log_step (s : Solver) :
  s.step.2.log = s.log.append (s.step.1.asserted.flatMap s.registry.perform)
  := by
  cases standing : s.position.standing with
  | succeeded =>
    rw [step_of_standing_succeeded standing]
    rfl
  | failed d =>
    rw [step_of_standing_failed standing]
    rfl
  | running =>
    obtain ⟨running, id, current⟩ := current_of_standing_running standing
    obtain ⟨e, u, examined⟩ := s.exists_examines id
    rw [step_of_current running current, examined.after, log_record, examined.log]
    rfl

end Solver

end ForwardChaining
