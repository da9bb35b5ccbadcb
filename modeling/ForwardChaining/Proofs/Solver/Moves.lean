import Mathlib.Data.List.Induction
import ForwardChaining.Proofs.Solver.Step

/-!
# Moves

What a caller can do with a solver: step it, complete a pass, run it to the end, or rewind it,
in any order (`Solver.afterMoves`).  To complete a pass or to run to the end is to take some
number of steps (`Solver.iterate_eq`, `Solver.run_eq`), so a property that steps and rewinds
preserve holds after all moves (`Solver.afterMoves_induction`).
-/

namespace ForwardChaining

/-- What a caller can do with a solver. -/
inductive Move where
  /-- One step. -/
  | step
  /-- Steps until the pass is complete or the run is over. -/
  | iterate
  /-- Steps until the run is over. -/
  | run
  /-- Back to the state after the given step. -/
  | rewind (step : Nat)
  deriving DecidableEq

namespace Solver

/-- The solver after a move; a rewind that fails leaves it as it is. -/
def afterMove (s : Solver) : Move → Solver
  | .step => s.step.2
  | .iterate => s.iterate.2
  | .run => s.run.2
  | .rewind step => (s.rewind step).toOption.getD s

/-- The solver after the given moves, made in order. -/
def afterMoves (s : Solver) (moves : List Move) : Solver :=
  moves.foldl afterMove s

/-- The solver `t` is one that moves other than rewinds lead to from `s`. -/
def Continues (s t : Solver) : Prop :=
  ∃ moves : List Move, (∀ move ∈ moves, ∀ n, move ≠ .rewind n) ∧ s.afterMoves moves = t

/-- The solver after `n` steps. -/
def afterSteps (s : Solver) : Nat → Solver
  | 0 => s
  | n + 1 => (s.afterSteps n).step.2

/-- The outcomes of the next `n` steps. -/
def outcomes (s : Solver) (n : Nat) : List Outcome :=
  (List.range n).map fun k => (s.afterSteps k).step.1

variable {s t : Solver}

/-! ### Steps in a row -/

theorem afterSteps_step (s : Solver) (n : Nat) :
  s.step.2.afterSteps n = s.afterSteps (n + 1)
  := by
  induction n with
  | zero => rfl
  | succ n ih =>
    rw [afterSteps, ih]
    rfl

theorem afterSteps_add (s : Solver) (m n : Nat) :
  s.afterSteps (m + n) = (s.afterSteps m).afterSteps n
  := by
  induction n with
  | zero => rfl
  | succ n ih => rw [← Nat.add_assoc, afterSteps, afterSteps, ih]

theorem afterSteps_congr (same : s.position = t.position) (n : Nat) :
  (s.afterSteps n).position = (t.afterSteps n).position
  := by
  induction n with
  | zero => apply same
  | succ n ih => apply (step_congr ih).2

theorem outcomes_congr (same : s.position = t.position) (n : Nat) :
  s.outcomes n = t.outcomes n
  := by
  apply List.map_congr_left
  intro k _
  apply (step_congr (afterSteps_congr same k)).1

/-- The next outcomes are that of the next step and those that follow it. -/
theorem outcomes_succ (s : Solver) (n : Nat) :
  s.outcomes (n + 1) = s.step.1 :: s.step.2.outcomes n
  := by
  rw [outcomes, List.range_succ_eq_map, List.map_cons, List.map_map]
  apply congrArg (_ :: ·)
  apply List.map_congr_left
  intro k _
  rw [afterSteps_step]
  rfl

/-- Steps assert facts behind those of the memory. -/
theorem sequence_afterSteps (s : Solver) (n : Nat) :
  (s.afterSteps n).memory.sequence = s.memory.sequence ++ (s.outcomes n).flatMap (·.asserted)
  := by
  induction n generalizing s with
  | zero => exact (List.append_nil _).symm
  | succ n ih =>
    rw [← afterSteps_step, ih, memory_step, WorkingMemory.sequence_assertAll, outcomes_succ,
      List.flatMap_cons, List.append_assoc]

/-- Steps make the invocations that their assertions call for, in their order. -/
theorem log_afterSteps_eq (s : Solver) (n : Nat) :
  (s.afterSteps n).log.toList
    = s.log.toList ++ ((s.outcomes n).flatMap (·.asserted)).flatMap s.registry.perform
  := by
  induction n generalizing s with
  | zero => exact (List.append_nil _).symm
  | succ n ih =>
    have registry : s.step.2.registry = s.registry := congrArg Problem.registry s.problem_step
    rw [← afterSteps_step, ih, log_step, Log.toList_append, registry, outcomes_succ,
      List.flatMap_cons, List.flatMap_append, List.append_assoc]

/-! ### Stages -/

/-- What holds of a run's last stage, and of a run if it holds from its second stage on, holds
of every run. -/
theorem stagesUntil_induction {stop : Solver → Bool} {P : Solver → List Stage → Prop}
    (last : ∀ s : Solver, (s.step.1.isTerminal || stop s.step.2) = true →
      P s [⟨s.step.1, s.step.2⟩])
    (more : ∀ s : Solver, (s.step.1.isTerminal || stop s.step.2) ≠ true →
      P s.step.2 (s.step.2.stagesUntil stop) →
      P s (⟨s.step.1, s.step.2⟩ :: s.step.2.stagesUntil stop))
    (s : Solver) :
  P s (s.stagesUntil stop)
  := by
  -- The induction is that of `collectUntil`, which carries along the stages that are done.
  generalize ended : ([] : List Stage) = done
  clear ended
  induction s, done using collectUntil.induct stop with
  | case1 s done outcome after taken ended =>
    have ended' : (s.step.1.isTerminal || stop s.step.2) = true := by
      rw [taken]
      apply ended
    rw [stagesUntil_eq, if_pos ended']
    apply last s ended'
  | case2 s done outcome after taken goesOn ih =>
    have goesOn' : (s.step.1.isTerminal || stop s.step.2) ≠ true := by
      rw [taken]
      apply goesOn
    rw [stagesUntil_eq, if_neg goesOn']
    apply more s goesOn'
    rw [taken]
    apply ih

theorem afterStages_cons (s : Solver) (stage : Stage) (stages : List Stage) :
  s.afterStages (stage :: stages) = stage.after.afterStages stages
  := by
  unfold afterStages
  cases stages with
  | nil => rfl
  | cons next rest =>
    rw [List.getLast?_cons_cons]
    cases last : (next :: rest).getLast? with
    | none => simp at last
    | some stage => rfl

/-- A run leads to where as many steps lead. -/
theorem afterStages_stagesUntil (s : Solver) (stop : Solver → Bool) :
  s.afterStages (s.stagesUntil stop) = s.afterSteps (s.stagesUntil stop).length
  := by
  apply stagesUntil_induction
    (P := fun s stages => s.afterStages stages = s.afterSteps stages.length)
  · intro s _
    rfl
  · intro s _ ih
    rw [afterStages_cons, ih, List.length_cons, ← afterSteps_step]

/-- A run reports what as many steps report. -/
theorem outcomes_stagesUntil (s : Solver) (stop : Solver → Bool) :
  (s.stagesUntil stop).map (·.outcome) = s.outcomes (s.stagesUntil stop).length
  := by
  apply stagesUntil_induction
    (P := fun s stages => stages.map (·.outcome) = s.outcomes stages.length)
  · intro s _
    rfl
  · intro s _ ih
    rw [List.map_cons, List.length_cons, outcomes_succ, ih]

/-- The last step of a run is the first that reports a verdict or after which the run is to
stop. -/
theorem exists_last_step (s : Solver) (stop : Solver → Bool) :
  ∃ k, (s.stagesUntil stop).length = k + 1
    ∧ ((s.afterSteps k).step.1.isTerminal || stop (s.afterSteps (k + 1))) = true
    ∧ ∀ j < k, ((s.afterSteps j).step.1.isTerminal || stop (s.afterSteps (j + 1))) = false
  := by
  apply stagesUntil_induction (P := fun s stages => ∃ k, stages.length = k + 1
    ∧ ((s.afterSteps k).step.1.isTerminal || stop (s.afterSteps (k + 1))) = true
    ∧ ∀ j < k, ((s.afterSteps j).step.1.isTerminal || stop (s.afterSteps (j + 1))) = false)
  · intro s ended
    use 0, rfl, ended
    intro j before
    omega
  · rintro s goesOn ⟨k, length, ended, earlier⟩
    rw [afterSteps_step, afterSteps_step] at ended
    use k + 1
    apply And.intro (by rw [List.length_cons, length])
    apply And.intro ended
    intro j before
    cases j with
    | zero => apply Bool.eq_false_iff.mpr goesOn
    | succ j =>
      rw [← afterSteps_step, ← afterSteps_step]
      apply earlier j (by omega)

/-- A run to the end ends when the run is over. -/
theorem isTerminal_afterStages (s : Solver) :
  (s.afterStages s.stages).isTerminal = true
  := by
  apply stagesUntil_induction (P := fun s stages => (s.afterStages stages).isTerminal = true)
  · intro s ended
    rw [Bool.or_false] at ended
    apply (step_of_verdict ended).2.2
  · intro s _ ih
    rw [afterStages_cons]
    apply ih

/-- Runs from one position have the same outcomes, if they stop at the same positions. -/
theorem outcomes_stagesUntil_congr {stop stop' : Solver → Bool} (same : s.position = t.position)
    (stops : ∀ u v : Solver, u.position = v.position → stop u = stop' v) :
  (s.stagesUntil stop).map (·.outcome) = (t.stagesUntil stop').map (·.outcome)
  := by
  revert t
  apply stagesUntil_induction (P := fun s stages => ∀ {t : Solver}, s.position = t.position →
    stages.map (·.outcome) = (t.stagesUntil stop').map (·.outcome))
  · intro s ended t same
    obtain ⟨outcome, position⟩ := step_congr same
    rw [outcome, stops _ _ position] at ended
    rw [stagesUntil_eq, if_pos ended, List.map_singleton, List.map_singleton, outcome]
  · intro s goesOn ih t same
    obtain ⟨outcome, position⟩ := step_congr same
    rw [outcome, stops _ _ position] at goesOn
    rw [stagesUntil_eq stop' t, if_neg goesOn, List.map_cons, List.map_cons, outcome, ih position]

/-! ### Passes and runs -/

theorem iterate_eq (s : Solver) :
  s.iterate.2 = s.afterSteps s.passStages.length
  := afterStages_stagesUntil s _

theorem run_snd (s : Solver) :
  s.run.2 = s.afterStages s.stages
  := by
  unfold run
  dsimp only
  split <;> rfl

theorem run_eq (s : Solver) :
  s.run.2 = s.afterSteps s.stages.length
  := by
  rw [run_snd]
  apply afterStages_stagesUntil

/-- A run to the end gives the verdict that its last state holds. -/
theorem run_cases (s : Solver) :
  (s.run.1 = .succeeded ∧ s.run.2.status = .succeeded)
    ∨ ∃ d, s.run.1 = .failed d ∧ s.run.2.status = .failed d
  := by
  have ended := isTerminal_afterStages s
  rw [run_snd]
  unfold run
  dsimp only
  cases status : (s.afterStages s.stages).status with
  | running =>
    rw [isTerminal, status] at ended
    cases ended
  | succeeded =>
    left
    apply And.intro rfl rfl
  | failed d =>
    right
    use d

theorem stages_of_verdict (verdict : s.step.1.isTerminal = true) :
  s.stages = [⟨s.step.1, s.step.2⟩]
  := by
  rw [stages, stagesUntil_eq, verdict]
  rfl

theorem stages_of_unended (unended : s.step.1.isTerminal = false) :
  s.stages = ⟨s.step.1, s.step.2⟩ :: s.step.2.stages
  := by
  rw [stages, stagesUntil_eq, unended]
  rfl

theorem exists_stages_eq_cons (s : Solver) :
  ∃ rest, s.stages = ⟨s.step.1, s.step.2⟩ :: rest
  := by
  cases verdict : s.step.1.isTerminal with
  | true => exact ⟨_, stages_of_verdict verdict⟩
  | false => exact ⟨_, stages_of_unended verdict⟩

/-- What holds of solvers that report a verdict at once, and before a step if it holds after it,
holds of all. -/
theorem stages_induction {P : Solver → Prop}
    (verdict : ∀ s : Solver, s.step.1.isTerminal = true → P s)
    (unended : ∀ s : Solver, s.step.1.isTerminal = false → P s.step.2 → P s) (s : Solver) :
  P s
  := by
  have principle := @stagesUntil_induction (fun _ => false) fun s _ => P s
  apply principle
  · intro s ended
    rw [Bool.or_false] at ended
    apply verdict s ended
  · intro s goesOn ih
    rw [Bool.or_false, ne_eq, Bool.not_eq_true] at goesOn
    apply unended s goesOn ih

/-- A run goes on as it does after its first step. -/
theorem run_of_unended (unended : s.step.1.isTerminal = false) :
  s.run = s.step.2.run
  := by
  unfold run
  rw [stages_of_unended unended, afterStages_cons]

/-- A verdict tells how the run ended. -/
theorem exists_termination (verdict : s.step.1.isTerminal = true) :
  ∃ termination, s.step.1.termination? = some termination
  := by
  obtain ⟨outcome, -⟩ | ⟨d, outcome, -⟩ := status_of_verdict verdict
  · use .succeeded
    rw [outcome]
    rfl
  · use .failed d
    rw [outcome]
    rfl

/-- A run that reports a verdict at once ends there. -/
theorem run_of_verdict {termination : Termination}
    (reported : s.step.1.termination? = some termination) :
  s.run = (termination, s.step.2)
  := by
  have verdict : s.step.1.isTerminal = true := by
    cases outcome : s.step.1 with
    | examined e =>
      rw [outcome] at reported
      cases reported
    | succeeded => rfl
    | failed d => rfl
  have last : s.afterStages s.stages = s.step.2 := by
    rw [stages_of_verdict verdict]
    rfl
  unfold run
  rw [last]
  obtain ⟨outcome, status⟩ | ⟨d, outcome, status⟩ := status_of_verdict verdict
  · rw [outcome] at reported
    cases reported
    simp only [status]
  · rw [outcome] at reported
    cases reported
    simp only [status]

/-- A step leaves a solver whose run is over as it is. -/
theorem step_of_terminal (ended : s.isTerminal = true) :
  s.step.2 = s
  := by
  unfold step
  split
  · rfl
  · rfl
  · rename_i running
    rw [isTerminal, running] at ended
    cases ended

/-- A run ends the same, whether a step has been taken already or not. -/
theorem run_step (s : Solver) :
  s.step.2.run = s.run
  := by
  cases verdict : s.step.1.isTerminal with
  | false => apply (run_of_unended verdict).symm
  | true =>
    obtain ⟨position, -, ended⟩ := step_of_verdict verdict
    have same : s.step.2.step.1 = s.step.1 := (step_congr position).1
    obtain ⟨termination, reported⟩ := exists_termination verdict
    rw [run_of_verdict reported, run_of_verdict (same ▸ reported), step_of_terminal ended]

theorem run_afterSteps (s : Solver) (n : Nat) :
  (s.afterSteps n).run = s.run
  := by
  induction n with
  | zero => rfl
  | succ n ih => rw [afterSteps, run_step, ih]

theorem afterSteps_of_terminal (ended : s.isTerminal = true) (n : Nat) :
  s.afterSteps n = s
  := by
  induction n with
  | zero => rfl
  | succ n ih => rw [afterSteps, ih, step_of_terminal ended]

theorem iterate_congr (same : s.position = t.position) :
  s.iterate.1 = t.iterate.1
  := by
  apply outcomes_stagesUntil_congr same
  intro u v samePlace
  have before : s.iteration = t.iteration := congrArg Position.iteration same
  have after : u.iteration = v.iteration := congrArg Position.iteration samePlace
  rw [before, after]

theorem run_congr (same : s.position = t.position) :
  s.run.1 = t.run.1
  := by
  have outcomes : s.stages.map (·.outcome) = t.stages.map (·.outcome) := by
    apply outcomes_stagesUntil_congr same
    intro u v _
    rfl
  have lengths : s.stages.length = t.stages.length := by
    simpa using congrArg List.length outcomes
  have final : s.run.2.position = t.run.2.position := by
    rw [run_eq, run_eq, lengths]
    apply afterSteps_congr same
  have standing : s.run.2.position.standing = t.run.2.position.standing := by
    rw [final]
  obtain ⟨verdict, status⟩ | ⟨d, verdict, status⟩ := run_cases s
  · obtain ⟨verdict', status'⟩ | ⟨d', verdict', status'⟩ := run_cases t
    · rw [verdict, verdict']
    · rw [standing_of_succeeded status, standing_of_failed status'] at standing
      cases standing
  · obtain ⟨verdict', status'⟩ | ⟨d', verdict', status'⟩ := run_cases t
    · rw [standing_of_failed status, standing_of_succeeded status'] at standing
      cases standing
    · rw [standing_of_failed status, standing_of_failed status'] at standing
      cases standing
      rw [verdict, verdict']

/-! ### Moves -/

theorem afterMoves_concat (s : Solver) (moves : List Move) (move : Move) :
  s.afterMoves (moves ++ [move]) = (s.afterMoves moves).afterMove move
  := by
  rw [afterMoves, List.foldl_append]
  rfl

theorem afterMoves_append (s : Solver) (moves more : List Move) :
  s.afterMoves (moves ++ more) = (s.afterMoves moves).afterMoves more
  := List.foldl_append

theorem afterMove_rewind {n : Nat} (rewound : s.rewind n = .ok t) :
  s.afterMove (.rewind n) = t
  := by
  simp [afterMove, rewound, Except.toOption]

theorem afterMove_rewind_error {n : Nat} {e : Error} (failed : s.rewind n = .error e) :
  s.afterMove (.rewind n) = s
  := by
  simp [afterMove, failed, Except.toOption]

/-- A property that steps and rewinds preserve holds after all moves. -/
theorem afterMoves_induction {P : Solver → Prop} (start : P s)
    (step : ∀ s : Solver, P s → P s.step.2)
    (rewind : ∀ (s t : Solver) (n : Nat), P s → s.rewind n = .ok t → P t) (moves : List Move) :
  P (s.afterMoves moves)
  := by
  have steps : ∀ (s : Solver) (n : Nat), P s → P (s.afterSteps n) := by
    intro s n start
    induction n with
    | zero => apply start
    | succ n ih => apply step _ ih
  induction moves using List.reverseRecOn with
  | nil => apply start
  | append_singleton moves move ih =>
    rw [afterMoves_concat]
    cases move with
    | step => apply step _ ih
    | iterate =>
      rw [afterMove, iterate_eq]
      apply steps _ _ ih
    | run =>
      rw [afterMove, run_eq]
      apply steps _ _ ih
    | rewind n =>
      cases rewound : (s.afterMoves moves).rewind n with
      | error e =>
        rw [afterMove_rewind_error rewound]
        apply ih
      | ok t =>
        rw [afterMove_rewind rewound]
        apply rewind _ t n ih rewound

theorem Continues.refl (s : Solver) :
  s.Continues s
  := ⟨[], List.forall_mem_nil _, rfl⟩

/-- To run to the end is no rewind. -/
theorem Continues.run (continues : s.Continues t) :
  s.Continues t.run.2
  := by
  obtain ⟨moves, forward, rfl⟩ := continues
  use moves ++ [.run]
  constructor
  · rw [List.forall_mem_append, List.forall_mem_singleton]
    exact ⟨forward, fun _ => Move.noConfusion⟩
  · rw [afterMoves_concat]
    rfl

/-- Without a rewind, all that moves do is to take steps. -/
theorem Continues.exists_afterSteps (continues : s.Continues t) :
  ∃ n, s.afterSteps n = t
  := by
  obtain ⟨moves, forward, rfl⟩ := continues
  induction moves generalizing s with
  | nil =>
    use 0
    rfl
  | cons move moves ih =>
    rw [List.forall_mem_cons] at forward
    have first : ∃ m, s.afterSteps m = s.afterMove move := by
      cases move with
      | step => use 1; rfl
      | iterate => use s.passStages.length; exact s.iterate_eq.symm
      | run => use s.stages.length; exact s.run_eq.symm
      | rewind n => exact absurd rfl (forward.1 n)
    obtain ⟨m, first⟩ := first
    obtain ⟨n, rest⟩ := ih (s := s.afterMove move) forward.2
    use m + n
    rw [afterSteps_add, first, rest]
    rfl

/-- To make `n` steps is one way to move. -/
theorem afterMoves_replicate_step (s : Solver) (n : Nat) :
  s.afterMoves (List.replicate n .step) = s.afterSteps n
  := by
  induction n with
  | zero => rfl
  | succ n ih =>
    rw [List.replicate_succ', afterMoves_concat, ih]
    rfl

end Solver

end ForwardChaining
