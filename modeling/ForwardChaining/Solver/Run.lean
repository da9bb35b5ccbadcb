import ForwardChaining.Solver.Basic

/-!
# Runs

A run steps a solver until it reports a verdict.  It ends for every state of a solver, not
only for those that a run can reach: `Solver.effort` bounds from above, in lexicographic
order, what is left to do, and every step that examines a rule lowers it.

A run is given by its stages, each an outcome together with the solver after that step; the
last stage reports the verdict.
-/

namespace ForwardChaining

/-- A step of a run: its outcome, and the solver after it. -/
structure Stage where
  outcome : Outcome
  after : Solver
  deriving DecidableEq

namespace Solver

/-! ### Every run ends -/

/-- What is left to do, in lexicographic order: whether the run goes on; how many rules are
pending; whether rules have fired in the pass, and whether the cursor is out of place; how
many rules the cursor has to pass. -/
def effort (s : Solver) : Nat × Nat × Nat × Nat :=
  (if s.isTerminal then 0 else 1,
    s.pending.size,
    (if s.firedThisPass = 0 then 0 else 1) + (if s.head < s.pending.size then 0 else 1),
    s.pending.size - s.head)

/-- The lexicographic order of efforts. -/
abbrev EffortLt : Nat × Nat × Nat × Nat → Nat × Nat × Nat × Nat → Prop :=
  Prod.Lex (· < ·) (Prod.Lex (· < ·) (Prod.Lex (· < ·) (· < ·)))

theorem effort_record (s : Solver) (id : RuleId) (performing : Bool) :
  (s.record id performing).effort = s.effort
  := by
  unfold record
  split <;> rfl

/-- To settle a running solver either ends the run or leaves the queue as it is. -/
theorem isTerminal_or_pending_settle (s : Solver) :
  s.settle.isTerminal = true ∨ s.settle.pending = s.pending
  := by
  unfold settle finishPass
  split <;> simp

theorem effort_fire_lt {s : Solver} {id : RuleId} (rule : Rule) (running : s.isTerminal = false)
    (current : s.pending[s.cursor]? = some id) :
  EffortLt (s.fire id rule).settle.effort s.effort
  := by
  have inside : s.cursor < s.pending.size := (Array.getElem?_eq_some_iff.mp current).1
  have shorter : (s.fire id rule).pending.size < s.pending.size := by
    simp only [fire, Array.eraseIdxIfInBounds, inside, dite_true, Array.size_eraseIdx]
    omega
  rcases Bool.eq_false_or_eq_true (s.fire id rule).settle.isTerminal with stopped | ongoing
  · apply Prod.Lex.left
    simp [stopped, running]
  · have same : (s.fire id rule).settle.pending = (s.fire id rule).pending :=
      (isTerminal_or_pending_settle _).resolve_left (by simp [ongoing])
    have ones : (s.fire id rule).settle.effort.1 = s.effort.1 := by
      simp [effort, ongoing, running]
    rw [effort, effort, ongoing, running, same]
    exact .right _ (.left _ _ shorter)

theorem effort_skip_lt {s : Solver} {id : RuleId} (running : s.isTerminal = false)
    (current : s.pending[s.cursor]? = some id) :
  EffortLt s.skip.settle.effort s.effort
  := by
  have inside : s.cursor < s.pending.size := (Array.getElem?_eq_some_iff.mp current).1
  have nonempty : 0 < s.pending.size := by omega
  unfold settle
  split
  · rename_i atEnd
    by_cases none : s.firedThisPass = 0
    · apply Prod.Lex.left
      simp [isTerminal, finishPass, skip, none, nonempty, Status.isTerminal] at running ⊢
      simp [running]
    · have ongoing : (s.skip.finishPass).isTerminal = false := by
        simpa [isTerminal, finishPass, skip, none] using running
      rw [effort, effort, ongoing, running]
      refine .right _ (.right _ (.left _ _ ?_))
      simp [finishPass, skip, none]
      simp only [nonempty, if_true]
      omega
  · rename_i before
    have ongoing : s.skip.isTerminal = false := running
    rw [effort, effort, ongoing, running]
    have next : s.skip.head = s.cursor + 1 := rfl
    have same : s.skip.pending = s.pending := rfl
    have count : s.skip.firedThisPass = s.firedThisPass := rfl
    rw [same] at before
    rw [same, count]
    by_cases place : s.head < s.pending.size
    · have : s.cursor = s.head := by simp [cursor, place]
      simp only [place, Nat.not_le.mp before, if_true]
      refine .right _ (.right _ (.right _ ?_))
      omega
    · refine .right _ (.right _ (.left _ _ ?_))
      simp [place, Nat.not_le.mp before]

/-- A step that examines a rule lowers the effort. -/
theorem effort_step_lt {s : Solver} (ongoing : s.step.1.isTerminal = false) :
  EffortLt s.step.2.effort s.effort
  := by
  unfold step at ongoing ⊢
  split at ongoing
  · simp [Outcome.isTerminal] at ongoing
  · simp [Outcome.isTerminal] at ongoing
  · rename_i status
    have running : s.isTerminal = false := by simp [isTerminal, status, Status.isTerminal]
    split at ongoing
    · simp [Outcome.isTerminal] at ongoing
    · rename_i id current
      unfold examine
      dsimp only
      split
      · rw [effort_record]
        exact effort_fire_lt _ running current
      · rw [effort_record]
        exact effort_skip_lt running current

/-! ### Stages -/

/-- Steps the solver until it reports a verdict or a step leaves it in a state that satisfies
`stop`: the stages, latest first, before those that are `done`. -/
def collectUntil (stop : Solver → Bool) (s : Solver) (done : List Stage) : List Stage :=
  match _ : s.step with
  | (outcome, after) =>
    if _ : (outcome.isTerminal || stop after) = true then ⟨outcome, after⟩ :: done
    else collectUntil stop after (⟨outcome, after⟩ :: done)
termination_by s.effort
decreasing_by
  rename_i taken last
  have ongoing : outcome.isTerminal = false := by
    rw [Bool.or_eq_true, not_or] at last
    simpa using last.1
  have := effort_step_lt (s := s) (by rw [taken]; exact ongoing)
  rwa [taken] at this

theorem collectUntil_eq (stop : Solver → Bool) (s : Solver) (done : List Stage) :
  s.collectUntil stop done =
    if s.step.1.isTerminal || stop s.step.2 then ⟨s.step.1, s.step.2⟩ :: done
    else s.step.2.collectUntil stop (⟨s.step.1, s.step.2⟩ :: done)
  := by
  rw [collectUntil]
  split
  rename_i outcome after taken
  rw [taken]
  rfl

/-- What is done already stays behind what is collected. -/
theorem collectUntil_append (stop : Solver → Bool) (s : Solver) (done earlier : List Stage) :
  s.collectUntil stop (done ++ earlier) = s.collectUntil stop done ++ earlier
  := by
  induction s, done using collectUntil.induct stop with
  | case1 s done outcome after taken last =>
    rw [collectUntil_eq, collectUntil_eq stop s done, taken]
    simp [last]
  | case2 s done outcome after taken more ih =>
    rw [collectUntil_eq, collectUntil_eq stop s done, taken]
    simpa [more] using ih

/-- Steps the solver until it reports a verdict or a step leaves it in a state that satisfies
`stop`. -/
def stagesUntil (stop : Solver → Bool) (s : Solver) : List Stage :=
  (s.collectUntil stop []).reverse

/-- The stages of a run, one step at a time. -/
theorem stagesUntil_eq (stop : Solver → Bool) (s : Solver) :
  s.stagesUntil stop =
    if s.step.1.isTerminal || stop s.step.2 then [⟨s.step.1, s.step.2⟩]
    else ⟨s.step.1, s.step.2⟩ :: s.step.2.stagesUntil stop
  := by
  unfold stagesUntil
  rw [collectUntil_eq]
  split
  · rfl
  · rw [← List.nil_append [_], collectUntil_append, List.reverse_append]
    rfl

/-- The stages of a run to its end. -/
def stages (s : Solver) : List Stage :=
  s.stagesUntil fun _ => false

/-- The stages that complete the current pass, or end the run. -/
def passStages (s : Solver) : List Stage :=
  s.stagesUntil fun after => after.iteration != s.iteration

/-- The solver after the given stages, which start from `s`. -/
def afterStages (s : Solver) (stages : List Stage) : Solver :=
  (stages.getLast?.map (·.after)).getD s

/-- Steps until a pass is complete or the run is over: the outcomes, and the solver then. -/
def iterate (s : Solver) : List Outcome × Solver :=
  (s.passStages.map (·.outcome), s.afterStages s.passStages)

/-- The end of the run from `s`, and the solver then. -/
def run (s : Solver) : Termination × Solver :=
  let final := s.afterStages s.stages
  match final.status with
  | .failed deadlock => (.failed deadlock, final)
  | _ => (.succeeded, final)

end Solver

end ForwardChaining
