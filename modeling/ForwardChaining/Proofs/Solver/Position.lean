import Mathlib.Tactic.Common
import ForwardChaining.Solver.Run

/-!
# Positions

The position of a solver is the part of its state that decides how the run goes on.  The
registry, the settings, the history, the log of invocations and the facts asserted last are
not part of it.  Solvers in one position take steps of one outcome to one position
(`Solver.step_congr`).

A step that finds no rule pending turns a running solver into one that has succeeded, and
does nothing else.  It is not counted, so a position does not tell the two solvers apart:
`Status.standing`.
-/

namespace ForwardChaining

/-- The status of a run in which the given rules are pending, where a run without pending
rules counts as one that has succeeded. -/
def Status.standing (status : Status) (pending : Array RuleId) : Status :=
  if status = .running ∧ pending = #[] then .succeeded else status

/-- What decides how a run goes on. -/
structure Position where
  /-- All rules, in order of declaration. -/
  rules : Array Rule
  memory : WorkingMemory
  /-- The rules that have not fired, in order of declaration. -/
  pending : Array RuleId
  /-- The rules that have fired, in firing order. -/
  fired : Log RuleId
  /-- The cursor's place in the queue. -/
  head : Nat
  /-- The number of completed passes. -/
  iteration : Nat
  /-- The number of rules fired so far in the pass. -/
  firedThisPass : Nat
  /-- The number of examined rules. -/
  steps : Nat
  /-- The status, which is not running if no rule is pending. -/
  standing : Status

namespace Solver

/-- The position of a solver. -/
def position (s : Solver) : Position where
  rules := s.rules
  memory := s.memory
  pending := s.pending
  fired := s.fired
  head := s.head
  iteration := s.iteration
  firedThisPass := s.firedThisPass
  steps := s.steps
  standing := s.status.standing s.pending

/-- The rule `id` of the list of rules. -/
def ruleAt (s : Solver) (id : RuleId) : Rule :=
  (s.rule? id).getD {}

variable {s t : Solver} {id : RuleId}

/-! ### Verdicts -/

/-- A running solver has come to no verdict, except that it succeeds if no rule is pending. -/
theorem standing_of_running (running : s.status = .running) :
  s.position.standing = if s.pending = #[] then .succeeded else .running
  := by
  simp [position, Status.standing, running]

theorem standing_of_succeeded (status : s.status = .succeeded) :
  s.position.standing = .succeeded
  := by
  simp [position, Status.standing, status]

theorem standing_of_failed {d : Deadlock} (status : s.status = .failed d) :
  s.position.standing = .failed d
  := by
  simp [position, Status.standing, status]

/-! ### What a step can do -/

/-- No rule stands under the cursor exactly if no rule is pending. -/
theorem current_eq_none_iff :
  s.pending[s.cursor]? = none ↔ s.pending = #[]
  := by
  rw [Array.getElem?_eq_none_iff, ← Array.size_eq_zero_iff, cursor]
  split <;> omega

/-- A step from a position of success reports it. -/
theorem step_of_standing_succeeded (standing : s.position.standing = .succeeded) :
  s.step = (.succeeded, { s with status := .succeeded })
  := by
  unfold position Status.standing at standing
  dsimp only at standing
  split at standing
  · rename_i waiting
    obtain ⟨running, empty⟩ := waiting
    simp [step, running, empty]
  · simp only [step, standing]
    obtain ⟨⟩ := s
    obtain rfl := standing
    rfl

/-- To say that a run has succeeded does not change a position of success. -/
theorem position_with_succeeded (standing : s.position.standing = .succeeded) :
  { s with status := .succeeded }.position = s.position
  := by
  rw [position, position, Position.mk.injEq]
  simpa [position, Status.standing] using standing.symm

/-- A step from a position of failure reports it. -/
theorem step_of_standing_failed {d : Deadlock} (standing : s.position.standing = .failed d) :
  s.step = (.failed d, s)
  := by
  unfold position Status.standing at standing
  dsimp only at standing
  split at standing
  · cases standing
  · simp [step, standing]

/-- A step from any other position finds a rule under the cursor. -/
theorem current_of_standing_running (standing : s.position.standing = .running) :
  s.status = .running ∧ ∃ id, s.pending[s.cursor]? = some id
  := by
  unfold position Status.standing at standing
  dsimp only at standing
  split at standing
  · cases standing
  · rename_i ongoing
    apply And.intro standing
    cases current : s.pending[s.cursor]? with
    | none => apply absurd (And.intro standing (current_eq_none_iff.mp current)) ongoing
    | some id => use id

/-- A step examines the rule under the cursor. -/
theorem step_of_current (running : s.status = .running)
    (current : s.pending[s.cursor]? = some id) :
  s.step = s.examine id
  := by
  simp [step, running, current]

theorem position_record (s : Solver) (id : RuleId) (performing : Bool) :
  (s.record id performing).position = s.position
  := by
  unfold record
  split <;> rfl

theorem status_record (s : Solver) (id : RuleId) (performing : Bool) :
  (s.record id performing).status = s.status
  := by
  unfold record
  split <;> rfl

/-- A satisfied rule fires when it is examined. -/
theorem examine_of_satisfied (satisfied : (s.ruleAt id).isSatisfied s.memory = true) :
  s.examine id = (.examined ⟨id, true, (s.ruleAt id).conclusions⟩,
    (s.fire id (s.ruleAt id)).settle.record id true)
  := if_pos satisfied

/-- Any other rule is passed over when it is examined. -/
theorem examine_of_unsatisfied (unsatisfied : ¬ (s.ruleAt id).isSatisfied s.memory = true) :
  s.examine id = (.examined ⟨id, false, []⟩, s.skip.settle.record id false)
  := if_neg unsatisfied

/-- To examine a rule does not by itself make a run succeed. -/
theorem status_examine (running : s.status = .running) (id : RuleId) :
  (s.examine id).2.status ≠ .succeeded
  := by
  have settled : ∀ t : Solver, t.status = .running → t.settle.status ≠ .succeeded := by
    intro t running
    unfold settle finishPass
    split
    · dsimp only
      split <;> simp [running]
    · simp [running]
  unfold examine
  dsimp only
  split
  · rw [status_record]
    apply settled (s.fire id _) running
  · rw [status_record]
    apply settled s.skip running

/-! ### Equal positions -/

/-- Solvers that differ at most in what decides nothing about the run. -/
structure Alike (s t : Solver) : Prop where
  position : s.position = t.position
  status : s.status = t.status

theorem Alike.eq_with (alike : s.Alike t) :
  t = { s with
    registry := t.registry
    lastAsserted := t.lastAsserted
    history := t.history
    config := t.config
    log := t.log }
  := by
  obtain ⟨same, status⟩ := alike
  obtain ⟨⟩ := s
  obtain ⟨⟩ := t
  simp only [Solver.position, Position.mk.injEq] at same
  obtain ⟨rfl, rfl, rfl, rfl, rfl, rfl, rfl, rfl, -⟩ := same
  obtain rfl := status
  rfl

/-- Solvers in one position that do not report success have one status. -/
theorem alike_of_position_eq (same : s.position = t.position) (hs : s.status ≠ .succeeded)
    (ht : t.status ≠ .succeeded) :
  s.Alike t
  := by
  apply Alike.mk same
  have pending : s.pending = t.pending := congrArg Position.pending same
  have standing : s.status.standing s.pending = t.status.standing t.pending :=
    congrArg Position.standing same
  rw [pending] at standing
  -- Standings can agree where statuses do not only if one of the solvers reports success.
  unfold Status.standing at standing
  split at standing
  · rename_i waiting
    split at standing
    · rename_i waiting'
      rw [waiting.1, waiting'.1]
    · apply absurd standing.symm ht
  · split at standing
    · apply absurd standing hs
    · apply standing

theorem Alike.fire (alike : s.Alike t) (id : RuleId) (rule : Rule) :
  (s.fire id rule).Alike (t.fire id rule)
  := by
  rw [alike.eq_with]
  constructor
  · rfl
  · rfl

theorem Alike.skip (alike : s.Alike t) :
  s.skip.Alike t.skip
  := by
  rw [alike.eq_with]
  constructor
  · rfl
  · rfl

theorem Alike.settle (alike : s.Alike t) :
  s.settle.Alike t.settle
  := by
  rw [alike.eq_with]
  unfold Solver.settle
  split
  · constructor
    · rfl
    · rfl
  · constructor
    · rfl
    · rfl

theorem Alike.record (alike : s.Alike t) (id : RuleId) (performing : Bool) :
  (s.record id performing).Alike (t.record id performing)
  := by
  constructor
  · rw [position_record, position_record, alike.position]
  · rw [status_record, status_record, alike.status]

/-- To examine a rule comes to the same outcome and the same position from solvers that are
alike. -/
theorem Alike.examine (alike : s.Alike t) (id : RuleId) :
  (s.examine id).1 = (t.examine id).1 ∧ (s.examine id).2.Alike (t.examine id).2
  := by
  have rule : t.ruleAt id = s.ruleAt id := by
    rw [alike.eq_with]
    rfl
  have memory : t.memory = s.memory := by
    rw [alike.eq_with]
  by_cases satisfied : (s.ruleAt id).isSatisfied s.memory = true
  · have satisfied' : (t.ruleAt id).isSatisfied t.memory = true := by
      rw [rule, memory]
      apply satisfied
    rw [examine_of_satisfied satisfied, examine_of_satisfied satisfied', rule]
    apply And.intro rfl
    apply ((alike.fire id _).settle).record
  · have unsatisfied' : ¬ (t.ruleAt id).isSatisfied t.memory = true := by
      rw [rule, memory]
      apply satisfied
    rw [examine_of_unsatisfied satisfied, examine_of_unsatisfied unsatisfied']
    apply And.intro rfl
    apply alike.skip.settle.record

/-- Steps from one position come to the same outcome and the same position. -/
theorem step_congr (same : s.position = t.position) :
  s.step.1 = t.step.1 ∧ s.step.2.position = t.step.2.position
  := by
  cases standing : s.position.standing with
  | succeeded =>
    have standing' : t.position.standing = .succeeded := by
      rw [← same, standing]
    rw [step_of_standing_succeeded standing, step_of_standing_succeeded standing']
    apply And.intro rfl
    rw [position_with_succeeded standing, position_with_succeeded standing', same]
  | failed d =>
    rw [step_of_standing_failed standing]
    rw [same] at standing
    rw [step_of_standing_failed standing]
    apply And.intro rfl same
  | running =>
    obtain ⟨running, id, current⟩ := current_of_standing_running standing
    rw [same] at standing
    obtain ⟨running', -⟩ := current_of_standing_running standing
    have alike : s.Alike t := by
      apply Alike.mk same
      rw [running, running']
    have current' : t.pending[t.cursor]? = some id := by
      rw [alike.eq_with]
      apply current
    rw [step_of_current running current, step_of_current running' current']
    obtain ⟨outcome, after⟩ := alike.examine id
    apply And.intro outcome after.position

end Solver

end ForwardChaining
