import ForwardChaining.Proofs.Solver.Chronicle

/-!
# Time travel

The number of counted steps tells the state of a run: whatever moves led to two solvers that
began with the same registry, inputs and rules, they agree if they have counted as many steps,
under any settings.  So a rewind restores exactly the state after its step, and what follows
from there is what followed the first time (`Solver.agree_and_rewind_exact`).
-/

namespace ForwardChaining

namespace Solver

/-- The solvers are in the same state of a run; at most, one of them has yet to report the
success that the other has reported. -/
structure Agree (s t : Solver) : Prop where
  steps : s.steps = t.steps
  memory : s.memory.sequence = t.memory.sequence
  pending : s.pending = t.pending
  fired : s.fired.toList = t.fired.toList
  head : s.head = t.head
  iteration : s.iteration = t.iteration
  firedThisPass : s.firedThisPass = t.firedThisPass
  status : s.status = t.status
    ∨ s.pending = #[] ∧ s.status = .running ∧ t.status = .succeeded
    ∨ s.pending = #[] ∧ s.status = .succeeded ∧ t.status = .running

variable {s t start start' restored : Solver} {registry : Registry} {inputs : List FactId}
  {rules : List Rule} {config config' : SolverConfig} {n : Nat}

theorem agree_of_position_eq (same : s.position = t.position) :
  s.Agree t
  := by
  have pending : s.pending = t.pending := congrArg Position.pending same
  have standing : s.status.standing s.pending = t.status.standing t.pending :=
    congrArg Position.standing same
  constructor
  · apply congrArg Position.steps same
  · apply congrArg (fun p => p.memory.sequence) same
  · apply pending
  · apply congrArg (fun p => p.fired.toList) same
  · apply congrArg Position.head same
  · apply congrArg Position.iteration same
  · apply congrArg Position.firedThisPass same
  · rw [pending] at standing ⊢
    unfold Status.standing at standing
    split at standing
    · rename_i waiting
      split at standing
      · rename_i waiting'
        left
        rw [waiting.1, waiting'.1]
      · right
        left
        apply And.intro waiting.2 (And.intro waiting.1 standing.symm)
    · split at standing
      · rename_i waiting
        right
        right
        apply And.intro waiting.2 (And.intro standing waiting.1)
      · left
        apply standing

/-- The settings have no part in a new solver's position. -/
theorem position_of_create (created : create registry inputs rules config = .ok start)
    (created' : create registry inputs rules config' = .ok start') :
  start.position = start'.position
  := by
  obtain ⟨-, -, rfl⟩ := (create_eq_ok_iff ..).mp created
  obtain ⟨-, -, rfl⟩ := (create_eq_ok_iff ..).mp created'
  rfl

/-- After as many counted steps, two solvers for the same inputs and rules are in one
position. -/
theorem position_eq_of_steps_eq (created : create registry inputs rules config = .ok start)
    (created' : create registry inputs rules config' = .ok start') (moves moves' : List Move)
    (steps : (start.afterMoves moves).steps = (start'.afterMoves moves').steps) :
  (start.afterMoves moves).position = (start'.afterMoves moves').position
  := by
  have onCourse := onCourse_afterMoves (new_of_create created) moves
  have onCourse' := onCourse_afterMoves (new_of_create created') moves'
  rw [onCourse.position, onCourse'.position, steps]
  apply afterSteps_congr (position_of_create created created')

/-- A successful rewind leads to the state right after its step, and is one more move. -/
theorem status_of_rewind (created : create registry inputs rules config = .ok start)
    (created' : create registry inputs rules config' = .ok start') (moves : List Move)
    (rewound : (start.afterMoves moves).rewind n = .ok restored) :
  restored = start.afterMoves (moves ++ [.rewind n]) ∧ restored.steps = n
    ∧ (start'.afterSteps n).steps = n ∧ restored.status = (start'.afterSteps n).status
  := by
  have onCourse := onCourse_afterMoves (new_of_create created) moves
  have made : restored = start.afterMoves (moves ++ [.rewind n]) := by
    rw [afterMoves_concat, afterMove_rewind rewound]
  have back : start.OnCourse restored := onCourse.rewind (new_of_create created) rewound
  obtain ⟨σ, found, rfl⟩ := rewind_eq_ok_iff.mp rewound
  obtain ⟨retained, rfl⟩ := History.mem_of_get? found
  obtain ⟨k, e, -, step, outcome, -, snapshot⟩ :=
    onCourse.exists_step (new_of_create created) retained
  have outcome' : (start'.afterSteps k).step.1 = .examined e := by
    rw [← outcome]
    symm
    apply (step_congr (afterSteps_congr (position_of_create created created') k)).1
  have position := afterSteps_congr (position_of_create created created') (k + 1)
  apply And.intro made
  apply And.intro rfl
  constructor
  · rw [step]
    have steps := steps_afterSteps outcome'
    rw [(new_of_create created').steps, Nat.zero_add] at steps
    rw [afterSteps, steps_of_examined outcome', steps]
  · have alike := alike_of_position_eq position (status_of_examined outcome)
      (status_of_examined outcome')
    rw [step, ← alike.status, ← snapshot]
    rfl

/-- Solvers that have counted as many steps agree; and a rewind restores the state right after
its step, so that all that follows is as it was for any solver that has counted as many
steps. -/
theorem agree_and_rewind_exact (created : create registry inputs rules config = .ok start)
    (created' : create registry inputs rules config' = .ok start') :
  (∀ moves moves' : List Move,
      (start.afterMoves moves).steps = (start'.afterMoves moves').steps →
      (start.afterMoves moves).Agree (start'.afterMoves moves'))
    ∧ ∀ (moves : List Move) (n : Nat) (restored : Solver),
      (start.afterMoves moves).rewind n = .ok restored →
      restored.steps = n
        ∧ (start'.afterSteps n).steps = n ∧ restored.status = (start'.afterSteps n).status
        ∧ ∀ moves' : List Move, (start'.afterMoves moves').steps = n →
          restored.Agree (start'.afterMoves moves')
            ∧ (∀ k, restored.outcomes k = (start'.afterMoves moves').outcomes k)
            ∧ restored.iterate.1 = (start'.afterMoves moves').iterate.1
            ∧ restored.run.1 = (start'.afterMoves moves').run.1
  := by
  constructor
  · intro moves moves' steps
    apply agree_of_position_eq (position_eq_of_steps_eq created created' moves moves' steps)
  · intro moves n restored rewound
    obtain ⟨made, steps, steps', status⟩ := status_of_rewind created created' moves rewound
    apply And.intro steps
    apply And.intro steps'
    apply And.intro status
    intro moves' counted
    have same : restored.position = (start'.afterMoves moves').position := by
      rw [made]
      apply position_eq_of_steps_eq created created'
      rw [← made, steps, counted]
    apply And.intro (agree_of_position_eq same)
    apply And.intro (outcomes_congr same)
    apply And.intro (iterate_congr same) (run_congr same)

/-- The solver that steps three times through the chain and rewinds agrees with one that steps
twice and retains nothing, and so does what is left of its run. -/
theorem agree_and_rewind_exact_chain :
  ((chain { snapshots := .everyStep }).afterMoves [.step, .step, .step, .rewind 2]).Agree
      ((chain { snapshots := .never }).afterMoves [.step, .rewind 1, .step])
    ∧ ∃ restored,
      ((chain { snapshots := .everyStep }).afterMoves [.step, .step, .step]).rewind 2 = .ok restored
        ∧ restored.run.1 = ((chain { snapshots := .never }).afterMoves [.step, .step]).run.1
  := by
  obtain ⟨agree, restores⟩ := agree_and_rewind_exact (create_chain { snapshots := .everyStep })
    (create_chain { snapshots := .never })
  constructor
  · apply agree
    decide +kernel
  · have found : (((chain { snapshots := .everyStep }).afterMoves [.step, .step, .step]).rewind
        2).toOption.isSome = true := by
      decide +kernel
    cases rewound : ((chain { snapshots := .everyStep }).afterMoves [.step, .step, .step]).rewind
        2 with
    | error e =>
      rw [rewound] at found
      cases found
    | ok restored =>
      have counted : ((chain { snapshots := .never }).afterMoves [.step, .step]).steps = 2 := by
        decide +kernel
      use restored, rfl
      obtain ⟨-, -, -, after⟩ := restores _ _ _ rewound
      apply (after _ counted).2.2.2

end Solver

end ForwardChaining
