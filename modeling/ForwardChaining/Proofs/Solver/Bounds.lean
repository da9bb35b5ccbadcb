import Mathlib.Tactic.Ring
import ForwardChaining.Proofs.Solver.Fixpoint

/-!
# Bounds on a run

A run over `n` rules examines at most `1 + 2 + ... + n` rules in at most `n` passes, whatever
the moves, so that each way to drive it comes to an end (`Solver.bounded_afterMoves`).

The steps that were taken and the steps that can still be taken never come to more than
that sum (`Position.Budgeted`): a pass examines each rule once that is pending when it begins,
and leaves fewer rules to the next one, unless it is the last.
-/

namespace ForwardChaining

/-- The sum of the numbers up to `n`. -/
def triangle (n : Nat) : Nat :=
  n * (n + 1) / 2

theorem triangle_succ (n : Nat) :
  triangle (n + 1) = triangle n + (n + 1)
  := by
  have sum : (n + 1) * (n + 1 + 1) = n * (n + 1) + (n + 1) * 2 := by ring
  rw [triangle, sum, Nat.add_mul_div_right _ _ (by decide), triangle]

theorem add_triangle_pred (n : Nat) :
  n + triangle (n - 1) = triangle n
  := by
  cases n with
  | zero => rfl
  | succ n => rw [triangle_succ, Nat.add_sub_cancel, Nat.add_comm]

theorem triangle_le {m n : Nat} (within : m ≤ n) :
  triangle m ≤ triangle n
  := Nat.div_le_div_right (Nat.mul_le_mul within (Nat.succ_le_succ within))

namespace Position

/-- The number of rules that were pending when the pass began. -/
def passSize (p : Position) : Nat :=
  p.pending.size + p.firedThisPass

/-- How many steps can still be taken: those of the rules that the cursor has yet to pass, and
those of later passes, the next of which begins with fewer rules than this one. -/
def allowance (p : Position) : Nat :=
  p.pending.size - p.head + triangle (p.passSize - 1)

/-- A run over `n` rules keeps to its bounds up to this position, and beyond it. -/
structure Budgeted (n : Nat) (p : Position) : Prop where
  iteration : p.iteration ≤ n
  steps : p.steps ≤ triangle n
  ongoing : p.standing = .running →
    p.iteration + p.passSize ≤ n ∧ p.steps + p.allowance ≤ triangle n

end Position

namespace Solver

variable {s start : Solver} {id : RuleId} {inputs : List FactId} {rules : List Rule} {n : Nat}
  {registry : Registry} {config : SolverConfig}

/-! ### The budget of a run -/

theorem budgeted_initial (registry : Registry) (inputs : List FactId) (rules : List Rule)
    (config : SolverConfig) :
  (initial registry inputs rules config).position.Budgeted rules.length
  := by
  have size : (initial registry inputs rules config).position.pending.size = rules.length := by
    change ((Array.range rules.length).map RuleId.mk).size = _
    rw [Array.size_map, Array.size_range]
  constructor
  · apply Nat.zero_le
  · apply Nat.zero_le
  · intro _
    rw [Position.allowance, Position.passSize, size]
    change 0 + (rules.length + 0) ≤ _ ∧ 0 + (rules.length - 0 + triangle (rules.length + 0 - 1)) ≤ _
    rw [Nat.sub_zero, Nat.add_zero, add_triangle_pred, Nat.zero_add, Nat.zero_add]
    apply And.intro (Nat.le_refl _) (Nat.le_refl _)

/-- To end a pass keeps the budget: another pass is begun only if a rule has fired, and with
the rules that are left. -/
theorem budgeted_finishPass (begun : 0 < s.position.passSize)
    (iteration : s.iteration + s.position.passSize ≤ n)
    (steps : s.steps + triangle (s.position.passSize - 1) ≤ triangle n) :
  s.finishPass.position.Budgeted n
  := by
  have passSize : s.position.passSize = s.pending.size + s.firedThisPass := rfl
  constructor
  · change s.iteration + 1 ≤ n
    omega
  · change s.steps ≤ triangle n
    omega
  · intro ongoing
    have fired : 0 < s.firedThisPass ∨ s.pending.size = 0 := by
      by_contra barren
      have failed : s.finishPass.status = .failed ⟨s.pending.toList, s.iteration + 1⟩ := by
        apply if_pos
        omega
      rw [standing_of_failed failed] at ongoing
      cases ongoing
    have allowance : s.finishPass.position.allowance = triangle s.pending.size :=
      add_triangle_pred s.pending.size
    -- either a rule has fired in the pass, or none is left for another one
    have fewer : triangle s.pending.size ≤ triangle (s.position.passSize - 1) := by
      apply triangle_le
      omega
    constructor
    · change s.iteration + 1 + (s.pending.size + 0) ≤ n
      omega
    · rw [allowance]
      change s.steps + _ ≤ triangle n
      omega

theorem budgeted_settle (begun : 0 < s.position.passSize)
    (iteration : s.iteration + s.position.passSize ≤ n)
    (steps : s.steps + s.position.allowance ≤ triangle n) :
  s.settle.position.Budgeted n
  := by
  have later : s.steps + triangle (s.position.passSize - 1) ≤ triangle n := by
    have : triangle (s.position.passSize - 1) ≤ s.position.allowance := Nat.le_add_left _ _
    omega
  unfold settle
  split
  · apply budgeted_finishPass begun iteration later
  · constructor
    · change s.iteration ≤ n
      omega
    · change s.steps ≤ triangle n
      omega
    · intro _
      apply And.intro iteration steps

/-- A solver that is about to examine a rule has not come to a verdict. -/
theorem standing_of_current (running : s.status = .running)
    (current : s.pending[s.cursor]? = some id) :
  s.position.standing = .running
  := by
  have nonempty : s.pending ≠ #[] := by
    intro empty
    rw [current_eq_none_iff.mpr empty] at current
    cases current
  rw [standing_of_running running, if_neg nonempty]

/-- A rule that fires leaves the queue, and no longer has to be passed. -/
theorem budgeted_fire (budgeted : s.position.Budgeted n) (inPlace : s.position.InPlace)
    (running : s.status = .running) (current : s.pending[s.cursor]? = some id) (rule : Rule) :
  (s.fire id rule).settle.position.Budgeted n
  := by
  obtain ⟨iteration, steps⟩ := budgeted.ongoing (standing_of_current running current)
  obtain ⟨inside, -⟩ := getElem_of_current current
  have cursor := cursor_of_inPlace inPlace
  have size : (s.fire id rule).pending.size = s.pending.size - 1 := by
    rw [← Array.length_toList, ← Array.length_toList]
    change (s.pending.eraseIdxIfInBounds s.cursor).toList.length = _
    rw [Array.toList_eraseIdxIfInBounds, List.length_eraseIdx_of_lt inside]
  rw [Array.length_toList] at inside
  have passSize : (s.fire id rule).position.passSize = s.position.passSize := by
    change (s.fire id rule).pending.size + (s.firedThisPass + 1) = s.pending.size + s.firedThisPass
    omega
  apply budgeted_settle
  · rw [passSize]
    change 0 < s.pending.size + s.firedThisPass
    omega
  · rw [passSize]
    apply iteration
  · rw [Position.allowance, passSize]
    change s.steps + 1 + ((s.fire id rule).pending.size - s.cursor + _) ≤ _
    rw [Position.allowance] at steps
    change s.steps + (s.pending.size - s.head + _) ≤ _ at steps
    omega

/-- A rule that is passed over no longer has to be passed. -/
theorem budgeted_skip (budgeted : s.position.Budgeted n) (inPlace : s.position.InPlace)
    (running : s.status = .running) (current : s.pending[s.cursor]? = some id) :
  s.skip.settle.position.Budgeted n
  := by
  obtain ⟨iteration, steps⟩ := budgeted.ongoing (standing_of_current running current)
  obtain ⟨inside, -⟩ := getElem_of_current current
  have cursor := cursor_of_inPlace inPlace
  rw [Array.length_toList] at inside
  apply budgeted_settle
  · change 0 < s.pending.size + s.firedThisPass
    omega
  · apply iteration
  · change s.steps + 1 + (s.pending.size - (s.cursor + 1) + _) ≤ _
    change s.steps + (s.pending.size - s.head + triangle (s.position.passSize - 1)) ≤ _ at steps
    change s.steps + 1 + (s.pending.size - (s.cursor + 1) + triangle (s.position.passSize - 1)) ≤ _
    omega

theorem budgeted_afterMoves (created : create registry inputs rules config = .ok start)
    (moves : List Move) :
  (start.afterMoves moves).position.Budgeted rules.length
  := by
  apply kept_induction created
  · obtain ⟨-, -, rfl⟩ := (create_eq_ok_iff ..).mp created
    apply budgeted_initial
  · intro s id kept budgeted running current _
    apply budgeted_fire budgeted kept.inPlace running current
  · intro s id kept budgeted running current _
    apply budgeted_skip budgeted kept.inPlace running current

/-! ### Every run ends in time -/

/-- After the steps that are left to it, a solver reports its verdict. -/
theorem verdict_in_time (created : create registry inputs rules config = .ok start)
    (moves : List Move) :
  ((start.afterMoves moves).afterSteps
    (triangle rules.length - (start.afterMoves moves).steps)).step.1.isTerminal = true
  := by
  generalize left : triangle rules.length - (start.afterMoves moves).steps = k
  obtain ⟨e, outcome⟩ | verdict := ((start.afterMoves moves).afterSteps k).examined_or_verdict
  · -- One step more would be one too many.
    have bound := (budgeted_afterMoves created (moves ++ List.replicate (k + 1) .step)).steps
    have counted := steps_of_examined outcome
    rw [afterMoves_append, afterMoves_replicate_step] at bound
    change ((start.afterMoves moves).afterSteps k).step.2.steps ≤ _ at bound
    rw [counted, steps_afterSteps outcome] at bound
    omega
  · apply verdict

/-- As long as no verdict is reported, every step is counted. -/
theorem steps_of_unended {k : Nat}
    (earlier : ∀ j < k, (s.afterSteps j).step.1.isTerminal = false) :
  (s.afterSteps k).steps = s.steps + k
  := by
  cases k with
  | zero => rfl
  | succ k =>
    obtain ⟨e, outcome⟩ | verdict := (s.afterSteps k).examined_or_verdict
    · rw [afterSteps, steps_of_examined outcome, steps_afterSteps outcome, Nat.add_assoc]
    · rw [earlier k (Nat.lt_succ_self k)] at verdict
      cases verdict

/-- The first verdict is reported after no more steps than are left. -/
theorem le_of_unended (created : create registry inputs rules config = .ok start)
    (moves : List Move) {k : Nat}
    (earlier : ∀ j < k, ((start.afterMoves moves).afterSteps j).step.1.isTerminal = false) :
  k ≤ triangle rules.length - (start.afterMoves moves).steps
  := by
  by_contra late
  have verdict := verdict_in_time created moves
  rw [earlier _ (by omega)] at verdict
  cases verdict

/-- A run to the end gives the first verdict that its steps report. -/
theorem exists_verdict (s : Solver) :
  ∃ k, s.run.2 = s.afterSteps (k + 1) ∧ (s.afterSteps k).step.1.termination? = some s.run.1
    ∧ ∀ j < k, (s.afterSteps j).step.1.isTerminal = false
  := by
  obtain ⟨k, length, ended, earlier⟩ := s.exists_last_step fun _ => false
  simp only [Bool.or_false] at ended earlier
  have final : s.run.2 = s.afterSteps (k + 1) := by
    rw [run_eq, stages, length]
  use k, final
  apply And.intro _ earlier
  obtain ⟨outcome, status⟩ | ⟨d, outcome, status⟩ := status_of_verdict ended
  · obtain ⟨result, -⟩ | ⟨d, -, status'⟩ := s.run_cases
    · rw [outcome, result]
      rfl
    · rw [final, afterSteps, status] at status'
      cases status'
  · obtain ⟨-, status'⟩ | ⟨d', result, status'⟩ := s.run_cases
    · rw [final, afterSteps, status] at status'
      cases status'
    · rw [final, afterSteps, status] at status'
      obtain rfl := Status.failed.inj status'
      rw [outcome, result]
      rfl

/-- A run to the end counts all its steps but the one that reports the verdict. -/
theorem unended_of_lt_steps_run {k : Nat} (before : s.steps + k < s.run.2.steps) :
  (s.afterSteps k).step.1.isTerminal = false
  := by
  obtain ⟨last, final, reported, earlier⟩ := s.exists_verdict
  have verdict : (s.afterSteps last).step.1.isTerminal = true := by
    cases outcome : (s.afterSteps last).step.1 with
    | examined e =>
      rw [outcome] at reported
      cases reported
    | succeeded => rfl
    | failed d => rfl
  have same : (s.afterSteps last).step.2.steps = (s.afterSteps last).steps :=
    congrArg Position.steps (step_of_verdict verdict).1
  rw [final, afterSteps, same, steps_of_unended earlier] at before
  apply earlier k
  omega

/-- To complete a pass is to take steps until the pass is complete or a verdict is
reported. -/
theorem exists_pass_end (s : Solver) :
  ∃ k, s.iterate = (s.outcomes (k + 1), s.afterSteps (k + 1))
    ∧ ((s.afterSteps k).step.1.isTerminal = true ∨ (s.afterSteps (k + 1)).iteration ≠ s.iteration)
    ∧ ∀ j < k, (s.afterSteps j).step.1.isTerminal = false
      ∧ (s.afterSteps (j + 1)).iteration = s.iteration
  := by
  obtain ⟨k, length, ended, earlier⟩ := s.exists_last_step fun after =>
    after.iteration != s.iteration
  simp only [Bool.or_eq_true, bne_iff_ne, Bool.or_eq_false_iff, bne_eq_false_iff_eq]
    at ended earlier
  use k
  apply And.intro _ (And.intro ended earlier)
  have outcomes := s.outcomes_stagesUntil fun after => after.iteration != s.iteration
  rw [length] at outcomes
  apply Prod.ext outcomes
  rw [iterate_eq, passStages, length]

/-- In the state `s` of a run over `n` rules, the counters are within their bounds, and so is
what is left of the run, which every way to drive it brings to an end. -/
structure Bounded (n : Nat) (s : Solver) : Prop where
  iteration : s.iteration ≤ n
  steps : s.steps ≤ n * (n + 1) / 2
  /-- Among so many next steps is one that reports a verdict. -/
  verdict : ∃ o ∈ s.outcomes (n * (n + 1) / 2 - s.steps + 1), o.isTerminal = true
  /-- A run to the end returns the first verdict that is reported. -/
  run : ∃ k ≤ n * (n + 1) / 2 - s.steps, s.run.2 = s.afterSteps (k + 1)
    ∧ (s.afterSteps k).step.1.termination? = some s.run.1
    ∧ ∀ j < k, (s.afterSteps j).step.1.isTerminal = false
  /-- To complete a pass returns as soon as it is complete or a verdict is reported. -/
  iterate : ∃ k ≤ n * (n + 1) / 2 - s.steps,
    s.iterate = (s.outcomes (k + 1), s.afterSteps (k + 1))
    ∧ ((s.afterSteps k).step.1.isTerminal = true ∨ (s.afterSteps (k + 1)).iteration ≠ s.iteration)
    ∧ ∀ j < k, (s.afterSteps j).step.1.isTerminal = false
      ∧ (s.afterSteps (j + 1)).iteration = s.iteration

theorem bounded_afterMoves (created : create registry inputs rules config = .ok start)
    (moves : List Move) :
  (start.afterMoves moves).Bounded rules.length
  := by
  have budgeted := budgeted_afterMoves created moves
  constructor
  · apply budgeted.iteration
  · apply budgeted.steps
  · use ((start.afterMoves moves).afterSteps
      (triangle rules.length - (start.afterMoves moves).steps)).step.1
    apply And.intro _ (verdict_in_time created moves)
    apply List.mem_map_of_mem (List.mem_range.mpr (Nat.lt_succ_self _))
  · obtain ⟨k, final, verdict, earlier⟩ := (start.afterMoves moves).exists_verdict
    use k, le_of_unended created moves earlier, final, verdict, earlier
  · obtain ⟨k, result, ended, earlier⟩ := (start.afterMoves moves).exists_pass_end
    have within := le_of_unended created moves fun j before => (earlier j before).1
    use k, within, result, ended, earlier

end Solver

end ForwardChaining
