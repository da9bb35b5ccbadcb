import ForwardChaining.Proofs.Solver.Coherence

/-!
# Passes

The cursor tells what comes next (`Solver.foretells_afterMoves`).  The rule under it is the one that
the next step examines, and a pass examines that rule and those behind it, each once and in queue
order, however far the pass has come.

The queue loses the rules that fire while the cursor moves over it.  What a step takes off in either
case is the first of the rules that lie ahead (`Solver.ahead`): a rule that fires leaves the queue
and the cursor stays, any other stays and the cursor leaves it behind.
-/

namespace ForwardChaining

namespace Solver

variable {s start : Solver} {id : RuleId} {n : Nat} {inputs : List FactId} {rules : List Rule}
  {registry : Registry} {config : SolverConfig}

/-! ### The next step -/

/-- There is a current rule as long as the run goes on and a rule is under the cursor. -/
theorem current?_eq_some_iff_running :
  s.current? = some id ↔ s.status = .running ∧ s.pending[s.cursor]? = some id
  := by
  rw [current?, isTerminal]
  cases s.status <;> simp [Status.isTerminal]

/-- The current rule is the one that the next step examines. -/
theorem current?_eq_some_iff :
  s.current? = some id ↔ ∃ e, s.step.1 = .examined e ∧ e.rule = id
  := by
  rw [current?_eq_some_iff_running]
  constructor
  · rintro ⟨running, current⟩
    obtain ⟨e, u, examined⟩ := s.exists_examines id
    use e
    rw [step_of_current running current, examined.after]
    exact ⟨rfl, examined.rule⟩
  · rintro ⟨e, outcome, rfl⟩
    obtain ⟨running, current, -⟩ := step_of_examined outcome
    exact ⟨running, current⟩

/-- No rule is under the cursor exactly if the next step reports a verdict. -/
theorem current?_eq_none_iff :
  s.current? = none ↔ s.step.1.isTerminal = true
  := by
  rw [Option.eq_none_iff_forall_ne_some]
  constructor
  · intro none
    obtain ⟨e, outcome⟩ | verdict := s.examined_or_verdict
    · exact absurd (current?_eq_some_iff.mpr ⟨e, outcome, rfl⟩) (none e.rule)
    · exact verdict
  · intro verdict id current
    obtain ⟨e, outcome, -⟩ := current?_eq_some_iff.mp current
    rw [outcome] at verdict
    cases verdict

/-! ### What lies ahead -/

/-- The rules that the pass has yet to examine, in queue order. -/
def ahead (s : Solver) : List RuleId :=
  s.pending.toList.drop s.head

/-- The rule under the cursor is the first of those ahead. -/
theorem ahead_eq_cons (inPlace : s.position.InPlace) (current : s.pending[s.cursor]? = some id) :
  s.ahead = id :: s.pending.toList.drop (s.cursor + 1)
  := by
  obtain ⟨inside, rfl⟩ := getElem_of_current current
  rw [ahead, ← cursor_of_inPlace inPlace, List.drop_eq_getElem_cons inside]

/-- A rule that fires leaves the queue, and the cursor stays. -/
theorem ahead_fire (current : s.pending[s.cursor]? = some id) (rule : Rule) :
  (s.fire id rule).ahead = s.pending.toList.drop (s.cursor + 1)
  := by
  obtain ⟨inside, -⟩ := getElem_of_current current
  change (s.pending.eraseIdxIfInBounds s.cursor).toList.drop s.cursor = _
  rw [Array.toList_eraseIdxIfInBounds, List.eraseIdx_eq_take_drop_succ]
  apply List.drop_left'
  apply List.length_take_of_le (Nat.le_of_lt inside)

/-- A rule that is passed over stays in the queue, and the cursor leaves it behind. -/
theorem ahead_skip (s : Solver) :
  s.skip.ahead = s.pending.toList.drop (s.cursor + 1)
  := rfl

/-- The pass ends once nothing lies ahead, and goes on as it is before that. -/
theorem settle_cases (s : Solver) :
  (s.ahead = [] ∧ s.settle.iteration = s.iteration + 1 ∧ s.settle.head = 0)
    ∨ (s.ahead ≠ [] ∧ s.settle = s)
  := by
  unfold settle ahead
  split
  · rename_i atEnd
    left
    exact ⟨List.drop_of_length_le atEnd, rfl, rfl⟩
  · rename_i inside
    right
    apply And.intro _ rfl
    rw [ne_eq, List.drop_eq_nil_iff]
    exact inside

/-- The solver `t` is in the pass numbered `n` and runs, with the rules `rest` ahead. -/
structure Underway (n : Nat) (rest : List RuleId) (t : Solver) : Prop where
  running : t.status = .running
  inPlace : t.position.InPlace
  iteration : t.iteration = n
  ahead : t.ahead = rest

/-- The solver `t` stands at the end of the pass numbered `n`. -/
structure Completed (n : Nat) (t : Solver) : Prop where
  iteration : t.iteration = n + 1
  head : t.head = 0

/-- A solver that runs, with the rules `rest` ahead, is underway once the pass is settled, unless
this is the end of the pass. -/
theorem underway_settle {rest : List RuleId} (running : s.status = .running)
    (ahead : s.ahead = rest) (performing : Bool) :
  (rest = [] ∧ (s.settle.record id performing).Completed s.iteration)
    ∨ (rest ≠ [] ∧ (s.settle.record id performing).Underway s.iteration rest)
  := by
  have same := position_record s.settle id performing
  have inPlace := inPlace_settle s
  rw [← same] at inPlace
  obtain ⟨none, iteration, head⟩ | ⟨some, goesOn⟩ := s.settle_cases
  · left
    refine ⟨ahead.symm.trans none, ?_, ?_⟩
    · exact (congrArg Position.iteration same).trans iteration
    · exact (congrArg Position.head same).trans head
  · right
    refine ⟨ahead ▸ some, ?_, inPlace, ?_, ?_⟩
    · rw [status_record, goesOn, running]
    · rw [goesOn] at same ⊢
      exact congrArg Position.iteration same
    · rw [← ahead, goesOn]
      unfold record
      split <;> rfl

/-- The first of the rules ahead is the one under the cursor. -/
theorem current_of_ahead {rest : List RuleId} (inPlace : s.position.InPlace)
    (ahead : s.ahead = id :: rest) :
  s.pending[s.cursor]? = some id
  := by
  have first : s.ahead.head? = some id := by rw [ahead, List.head?_cons]
  rwa [Solver.ahead, List.head?_drop, Array.getElem?_toList, ← cursor_of_inPlace inPlace] at first

/-- A step examines the first of the rules ahead, and leaves the others. -/
theorem step_of_underway {rest : List RuleId} (underway : s.Underway n (id :: rest)) :
  ∃ e, s.step.1 = .examined e ∧ e.rule = id
    ∧ ((rest = [] ∧ s.step.2.Completed n) ∨ (rest ≠ [] ∧ s.step.2.Underway n rest))
  := by
  obtain ⟨running, inPlace, rfl, ahead⟩ := underway
  have current := current_of_ahead inPlace ahead
  obtain ⟨e, outcome, rfl⟩ :=
    current?_eq_some_iff.mp (current?_eq_some_iff_running.mpr ⟨running, current⟩)
  rw [ahead_eq_cons inPlace current, List.cons_inj_right] at ahead
  use e, outcome, rfl
  obtain ⟨-, -, after⟩ | ⟨-, -, after⟩ := step_eq_of_examined outcome
  · rw [after]
    have ahead' := (ahead_fire current (s.ruleAt e.rule)).trans ahead
    exact underway_settle (s := s.fire e.rule (s.ruleAt e.rule)) running ahead' true
  · rw [after]
    exact underway_settle (s := s.skip) running (s.ahead_skip.trans ahead) false

/-! ### Passes -/

/-- A pass that is underway examines the rules ahead, in their order, and comes to its end. -/
theorem stages_of_underway {rest : List RuleId} (some : rest ≠ []) (underway : s.Underway n rest) :
  ∃ examinations : List Examination,
    (s.stagesUntil fun after => after.iteration != n).map (·.outcome) = examinations.map .examined
      ∧ examinations.map (·.rule) = rest
      ∧ (s.afterStages (s.stagesUntil fun after => after.iteration != n)).Completed n
  := by
  revert rest
  apply stagesUntil_induction (P := fun s stages => ∀ {rest : List RuleId}, rest ≠ [] →
    s.Underway n rest → ∃ examinations : List Examination,
      stages.map (·.outcome) = examinations.map .examined
        ∧ examinations.map (·.rule) = rest ∧ (s.afterStages stages).Completed n)
  · intro s ended rest some underway
    obtain ⟨id, rest, rfl⟩ := List.exists_cons_of_ne_nil some
    obtain ⟨e, outcome, rfl, ⟨rfl, completed⟩ | ⟨-, later⟩⟩ := step_of_underway underway
    · use [e]
      rw [List.map_singleton, outcome]
      exact ⟨rfl, rfl, completed⟩
    · rw [outcome, later.iteration, bne_self_eq_false] at ended
      cases ended
  · intro s goesOn ih rest some underway
    obtain ⟨id, rest, rfl⟩ := List.exists_cons_of_ne_nil some
    obtain ⟨e, outcome, rfl, ⟨-, completed⟩ | ⟨more, later⟩⟩ := step_of_underway underway
    · rw [completed.iteration, ne_eq, Bool.or_eq_true, not_or, bne_iff_ne] at goesOn
      exact absurd (Nat.succ_ne_self n) goesOn.2
    · obtain ⟨examinations, outcomes, examined, completed⟩ := ih more later
      use e :: examinations
      rw [List.map_cons, outcome, outcomes, List.map_cons, List.map_cons, examined, afterStages_cons]
      exact ⟨rfl, rfl, completed⟩

/-- What the cursor of the state `s` tells of what comes next. -/
structure Foretells (s : Solver) : Prop where
  /-- The current rule is the one that the next step examines. -/
  current : ∀ id, s.current? = some id ↔ ∃ e, s.step.1 = .examined e ∧ e.rule = id
  /-- No rule is current exactly if the next step reports a verdict. -/
  verdict : s.current? = none ↔ s.step.1.isTerminal = true
  /-- If a rule is current, to complete the pass is to examine the rules from the cursor on. -/
  pass : ∀ id, s.current? = some id → ∃ examinations : List Examination,
    s.iterate.1 = examinations.map .examined
      ∧ s.iterate.1.length = s.pending.size - s.head
      ∧ examinations.map (·.rule) = s.pending.toList.drop s.head
      ∧ s.iterate.2.iteration = s.iteration + 1 ∧ s.iterate.2.head = 0
  /-- If no rule is current, to complete the pass is to be told the verdict. -/
  ended : s.current? = none → s.iterate = ([s.step.1], s.step.2)

/-- Whatever the moves, the cursor tells what the next step and the rest of the pass come to. -/
theorem foretells_afterMoves (created : create registry inputs rules config = .ok start)
    (moves : List Move) :
  (start.afterMoves moves).Foretells
  := by
  obtain ⟨-, inPlace⟩ := balanced_afterMoves created moves
  generalize start.afterMoves moves = s at inPlace
  constructor
  · intro id
    exact current?_eq_some_iff
  · exact current?_eq_none_iff
  · intro id current
    obtain ⟨running, found⟩ := current?_eq_some_iff_running.mp current
    have underway : s.Underway s.iteration s.ahead := ⟨running, inPlace, rfl, rfl⟩
    have some : s.ahead ≠ [] := by
      rw [ahead_eq_cons inPlace found]
      apply List.cons_ne_nil
    obtain ⟨examinations, outcomes, examined, completed⟩ := stages_of_underway some underway
    refine ⟨examinations, outcomes, ?_, examined, completed.iteration, completed.head⟩
    change (s.passStages.map (·.outcome)).length = _
    rw [passStages, outcomes, List.length_map, ← List.length_map (·.rule), examined, ahead,
      List.length_drop, Array.length_toList]
  · intro none
    have stages : s.passStages = [⟨s.step.1, s.step.2⟩] := by
      rw [passStages, stagesUntil_eq, current?_eq_none_iff.mp none, Bool.true_or, if_pos rfl]
    rw [iterate, stages]
    rfl

/-- The chain, put back into the middle of its first pass, where the rule from X to A has been passed
over and the rule from B to C is current. -/
theorem foretells_chain :
  ((chain ⟨2, .everyStep⟩).afterMoves [.step, .step, .rewind 1]).current? = some ⟨1⟩
    ∧ ((chain ⟨2, .everyStep⟩).afterMoves [.step, .step, .rewind 1]).Foretells
  := by
  constructor
  · decide +kernel
  · apply foretells_afterMoves (create_chain _)

end Solver

end ForwardChaining
