import ForwardChaining.Proofs.Solver.Creation
import ForwardChaining.Proofs.Solver.Moves

/-!
# Chronicles

The chronicle of a number of steps is the list of the snapshots that they take.  A solver
stays on course whatever the moves: after `k` counted steps it is in the position that `k`
steps from the start lead to, and its history is an end of their chronicle
(`Solver.onCourse_afterMoves`).
-/

namespace ForwardChaining

namespace Solver

/-- The snapshot that the next step takes, if it takes one. -/
def taken? (s : Solver) : Option Snapshot :=
  match s.step.1 with
  | .examined e =>
    if s.config.snapshotsStep e.performing then
      some (s.step.2.snapshot e.rule e.performing)
    else none
  | _ => none

/-- The snapshots that the next `n` steps take. -/
def chronicle (s : Solver) (n : Nat) : List Snapshot :=
  (List.range n).filterMap fun k => (s.afterSteps k).taken?

variable {s t start : Solver} {σ : Snapshot} {m n : Nat}

/-! ### Snapshots of steps -/

theorem snapshot_record (s : Solver) (id : RuleId) (performing : Bool) :
  (s.record id performing).snapshot id performing = s.snapshot id performing
  := by
  unfold record
  split <;> rfl

theorem taken?_eq_some_iff :
  s.taken? = some σ
    ↔ ∃ e, s.step.1 = .examined e ∧ s.config.snapshotsStep e.performing = true
      ∧ s.step.2.snapshot e.rule e.performing = σ
  := by
  unfold taken?
  cases s.step.1 with
  | examined e => simp
  | succeeded => simp
  | failed d => simp

theorem taken?_of_verdict (verdict : s.step.1.isTerminal = true) :
  s.taken? = none
  := by
  cases taken : s.taken? with
  | none => rfl
  | some σ =>
    obtain ⟨e, outcome, -⟩ := taken?_eq_some_iff.mp taken
    rw [outcome] at verdict
    cases verdict

theorem taken?_of_examined {e : Examination} (outcome : s.step.1 = .examined e) :
  s.taken? = if s.config.snapshotsStep e.performing then
      some (s.step.2.snapshot e.rule e.performing)
    else none
  := by
  rw [taken?, outcome]

/-- A step adds the snapshot that it takes to the history. -/
theorem history_step (s : Solver) :
  s.step.2.history = s.taken?.elim s.history s.history.push
  := by
  obtain ⟨e, outcome⟩ | verdict := s.examined_or_verdict
  · obtain ⟨-, -, u, examined, after⟩ := step_of_examined outcome
    have config : u.config = s.config := congrArg Problem.config examined.problem
    rw [taken?_of_examined outcome, after, snapshot_record, record, config]
    split
    · rw [← examined.history]
      rfl
    · rw [examined.history]
      rfl
  · rw [(step_of_verdict verdict).2.1, taken?_of_verdict verdict]
    rfl

/-- Steps from one position under the same settings take the same snapshot. -/
theorem taken?_congr (same : s.position = t.position) (config : s.config = t.config) :
  s.taken? = t.taken?
  := by
  obtain ⟨outcomes, after⟩ := step_congr same
  obtain ⟨e, outcome⟩ | verdict := s.examined_or_verdict
  · have outcome' : t.step.1 = .examined e := by
      rw [← outcomes, outcome]
    have alike : s.step.2.Alike t.step.2 :=
      alike_of_position_eq after (status_of_examined outcome) (status_of_examined outcome')
    rw [taken?_of_examined outcome, taken?_of_examined outcome', config, alike.eq_with]
    rfl
  · have verdict' : t.step.1.isTerminal = true := by
      rw [← outcomes, verdict]
    rw [taken?_of_verdict verdict, taken?_of_verdict verdict']

/-- The step of a snapshot is the number of steps counted when it was taken. -/
theorem step_of_taken (taken : s.taken? = some σ) :
  σ.step = s.steps + 1
  := by
  obtain ⟨e, outcome, -, rfl⟩ := taken?_eq_some_iff.mp taken
  apply steps_of_examined outcome

/-! ### The snapshots of a chronicle -/

theorem chronicle_succ (s : Solver) (n : Nat) :
  s.chronicle (n + 1) = s.chronicle n ++ (s.afterSteps n).taken?.toList
  := by
  rw [chronicle, List.range_succ, List.filterMap_append]
  congr 1

theorem mem_chronicle :
  σ ∈ s.chronicle n ↔ ∃ k < n, (s.afterSteps k).taken? = some σ
  := by
  simp [chronicle]

/-- As long as rules are examined, every step is counted. -/
theorem steps_afterSteps {e : Examination} (outcome : (s.afterSteps n).step.1 = .examined e) :
  (s.afterSteps n).steps = s.steps + n
  := by
  induction n generalizing e with
  | zero => rfl
  | succ n ih =>
    obtain ⟨before, outcome'⟩ | verdict := (s.afterSteps n).examined_or_verdict
    · rw [afterSteps, steps_of_examined outcome', ih outcome', Nat.add_assoc]
    · -- A verdict would be reported again by the next step.
      have ended := verdict_of_terminal (step_of_verdict verdict).2.2
      rw [← afterSteps, outcome] at ended
      cases ended

theorem step_of_taken_afterSteps (taken : (s.afterSteps n).taken? = some σ) :
  σ.step = s.steps + n + 1
  := by
  obtain ⟨e, outcome, -⟩ := taken?_eq_some_iff.mp taken
  rw [step_of_taken taken, steps_afterSteps outcome]

theorem pairwise_chronicle (s : Solver) (n : Nat) :
  (s.chronicle n).Pairwise (·.step < ·.step)
  := by
  apply List.pairwise_filterMap.mpr
  apply List.pairwise_lt_range.imp
  intro i j before σ taken τ taken'
  rw [step_of_taken_afterSteps taken, step_of_taken_afterSteps taken']
  omega

theorem step_le_of_mem_chronicle (member : σ ∈ s.chronicle n) :
  σ.step ≤ s.steps + n
  := by
  obtain ⟨k, before, taken⟩ := mem_chronicle.mp member
  rw [step_of_taken_afterSteps taken]
  omega

/-- A longer chronicle begins with the shorter ones, and a step's number tells where they
end. -/
theorem filter_chronicle (s : Solver) (within : n ≤ m) :
  (s.chronicle m).filter (·.step ≤ s.steps + n) = s.chronicle n
  := by
  induction within with
  | refl =>
    apply List.filter_eq_self.mpr
    intro σ member
    apply decide_eq_true (step_le_of_mem_chronicle member)
  | @step m within ih =>
    have within : n ≤ m := within
    rw [chronicle_succ, List.filter_append, ih]
    apply List.append_right_eq_self.mpr
    apply List.filter_eq_nil_iff.mpr
    intro σ taken late
    have step := step_of_taken_afterSteps (Option.mem_toList.mp taken)
    have := of_decide_eq_true late
    omega

end Solver

/-- A history whose steps increase loses exactly its later snapshots when it is truncated. -/
theorem History.snapshots_truncateAfter_of_increasing {h : History}
    (increasing : h.snapshots.Pairwise (·.step < ·.step)) (step : Nat) :
  (h.truncateAfter step).snapshots = h.snapshots.filter (·.step ≤ step)
  := by
  rw [snapshots_truncateAfter]
  generalize h.snapshots = snapshots at increasing
  -- Truncation goes from the end of the list to its beginning, and so does the induction.
  induction snapshots using List.reverseRecOn with
  | nil => rfl
  | append_singleton earlier σ ih =>
    obtain ⟨increasing, -, before⟩ := List.pairwise_append.mp increasing
    rw [List.reverse_concat, List.dropWhile_cons, List.filter_append]
    split
    · rename_i late
      have late := of_decide_eq_true late
      rw [ih increasing, List.filter_cons_of_neg (by simpa using late), List.filter_nil,
        List.append_nil]
    · rename_i retained
      have retained : σ.step ≤ step := by simpa using retained
      have kept : earlier.filter (·.step ≤ step) = earlier := by
        apply List.filter_eq_self.mpr
        intro τ member
        have := before τ member σ (List.mem_singleton.mpr rfl)
        apply decide_eq_true
        omega
      rw [kept, List.filter_cons_of_pos (by simpa using retained), List.reverse_cons,
        List.reverse_reverse]
      rfl

theorem History.mem_of_get? {h : History} {step : Nat} {σ : Snapshot}
    (found : h.get? step = some σ) :
  σ ∈ h.snapshots ∧ σ.step = step
  := by
  constructor
  · apply List.mem_of_find?_eq_some found
  · simpa using List.find?_some found

theorem History.get?_eq_none_iff {h : History} {step : Nat} :
  h.get? step = none ↔ ∀ σ ∈ h.snapshots, σ.step ≠ step
  := by
  simp [get?]

namespace Solver

variable {s t start : Solver} {n : Nat}

/-! ### Rewinding -/

/-- The solver `s` with the state of a snapshot and without later snapshots. -/
def restore (s : Solver) (σ : Snapshot) : Solver :=
  { s with
    memory := .ofSequence σ.memory.toList
    pending := σ.pending
    fired := σ.fired
    head := σ.head
    iteration := σ.iteration
    firedThisPass := σ.firedThisPass
    steps := σ.step
    status := σ.status
    lastAsserted := []
    history := s.history.truncateAfter σ.step }

/-- A rewind restores the state of the snapshot that it finds. -/
theorem rewind_of_found {σ : Snapshot} (found : s.history.get? n = some σ) :
  s.rewind n = .ok (s.restore σ)
  := by
  obtain ⟨-, rfl⟩ := History.mem_of_get? found
  rw [rewind, found]
  rfl

/-- A rewind fails if no snapshot of the step is retained. -/
theorem rewind_of_missing (missing : s.history.get? n = none) :
  s.rewind n = fail (.snapshotNotFound n)
  := by
  rw [rewind, missing]

theorem rewind_eq_ok_iff :
  s.rewind n = .ok t ↔ ∃ σ, s.history.get? n = some σ ∧ s.restore σ = t
  := by
  cases found : s.history.get? n with
  | none =>
    rw [rewind_of_missing found]
    constructor
    · intro rewound
      cases rewound
    · rintro ⟨σ, missing, -⟩
      cases missing
  | some σ =>
    rw [rewind_of_found found]
    simp

/-- The state of a snapshot restores the position of the solver that it was taken of. -/
theorem position_restore {u : Solver} {id : RuleId} {performing : Bool} {σ : Snapshot}
    (taken : u.snapshot id performing = σ) (rules : s.rules = u.rules)
    (memory : u.memory = .ofSequence u.memory.sequence) :
  (s.restore σ).position = u.position
  := by
  obtain rfl := taken
  rw [position, position, Position.mk.injEq]
  apply And.intro rules
  apply And.intro memory.symm
  simp only [restore, snapshot, and_self]

/-! ### The course of a run -/

/-- The solver stands at the beginning of a run. -/
structure New (s : Solver) : Prop where
  steps : s.steps = 0
  snapshots : s.history.snapshots = []
  memory : s.memory = .ofSequence s.memory.sequence

theorem new_initial (registry : Registry) (inputs : List FactId) (rules : List Rule)
    (config : SolverConfig) :
  (initial registry inputs rules config).New
  := by
  constructor
  · rfl
  · rfl
  · change WorkingMemory.ofSequence inputs = .ofSequence (WorkingMemory.ofSequence inputs).sequence
    rw [WorkingMemory.sequence_ofSequence]

theorem new_of_create {registry : Registry} {inputs : List FactId} {rules : List Rule}
    {config : SolverConfig} (created : create registry inputs rules config = .ok start) :
  start.New
  := by
  obtain ⟨-, -, rfl⟩ := (create_eq_ok_iff ..).mp created
  apply new_initial

theorem problem_afterSteps (s : Solver) (n : Nat) :
  (s.afterSteps n).problem = s.problem
  := by
  induction n with
  | zero => rfl
  | succ n ih => rw [afterSteps, problem_step, ih]

/-- A memory in which a run has asserted facts is the memory of their sequence. -/
theorem New.memory_afterSteps (new : start.New) (n : Nat) :
  (start.afterSteps n).memory = .ofSequence (start.afterSteps n).memory.sequence
  := by
  induction n with
  | zero => apply new.memory
  | succ n ih =>
    rw [afterSteps, memory_step, WorkingMemory.sequence_assertAll, WorkingMemory.ofSequence_append,
      ← ih]

/-- The solver `s` is where its steps, taken from `start` without a move back, lead to; and
its history is an end of their chronicle. -/
structure OnCourse (start s : Solver) : Prop where
  problem : s.problem = start.problem
  position : s.position = (start.afterSteps s.steps).position
  snapshots : s.history.snapshots <:+ start.chronicle s.steps
  bounded : s.history.snapshots.length ≤ start.history.capacity

theorem New.onCourse (new : start.New) :
  start.OnCourse start
  := by
  constructor
  · rfl
  · rw [new.steps]
    rfl
  · rw [new.snapshots]
    apply List.nil_suffix
  · rw [new.snapshots]
    apply Nat.zero_le

theorem OnCourse.step (onCourse : start.OnCourse s) :
  start.OnCourse s.step.2
  := by
  obtain ⟨e, outcome⟩ | verdict := s.examined_or_verdict
  · have problem : s.problem = (start.afterSteps s.steps).problem := by
      rw [problem_afterSteps, onCourse.problem]
    have config : s.config = (start.afterSteps s.steps).config := congrArg Problem.config problem
    have taken := taken?_congr onCourse.position config
    have capacity : s.history.capacity = start.history.capacity :=
      congrArg Problem.capacity onCourse.problem
    have steps := steps_of_examined outcome
    constructor
    · rw [problem_step, onCourse.problem]
    · rw [steps]
      apply (step_congr onCourse.position).2
    · rw [steps, chronicle_succ, history_step, ← taken]
      cases s.taken? with
      | none => simpa using onCourse.snapshots
      | some σ =>
        have longer : s.history.snapshots ++ [σ] <:+ start.chronicle s.steps ++ [σ] :=
          List.suffix_append_self_iff.mpr onCourse.snapshots
        rw [Option.elim_some, History.snapshots_push]
        -- Even when the oldest snapshot is dropped, an end of the chronicle is left.
        split
        · apply (List.tail_suffix _).trans longer
        · apply longer
    · rw [history_step]
      cases s.taken? with
      | none => apply onCourse.bounded
      | some σ =>
        have bounded := onCourse.bounded
        rw [Option.elim_some, History.snapshots_push]
        split
        · rw [List.length_tail, List.length_append]
          apply bounded
        · rw [List.length_append, List.length_singleton]
          omega
  · obtain ⟨position, history, -⟩ := step_of_verdict verdict
    have steps : s.step.2.steps = s.steps := congrArg Position.steps position
    constructor
    · rw [problem_step, onCourse.problem]
    · rw [position, steps]
      apply onCourse.position
    · rw [history, steps]
      apply onCourse.snapshots
    · rw [history]
      apply onCourse.bounded

/-- A retained snapshot shows the state after its step. -/
theorem OnCourse.exists_step {σ : Snapshot} (new : start.New) (onCourse : start.OnCourse s)
    (retained : σ ∈ s.history.snapshots) :
  ∃ k e, k < s.steps ∧ σ.step = k + 1 ∧ (start.afterSteps k).step.1 = .examined e
    ∧ start.config.snapshotsStep e.performing = true
    ∧ (start.afterSteps (k + 1)).snapshot e.rule e.performing = σ
  := by
  obtain ⟨k, before, taken⟩ := mem_chronicle.mp (onCourse.snapshots.subset retained)
  have step : σ.step = k + 1 := by
    rw [step_of_taken_afterSteps taken, new.steps, Nat.zero_add]
  obtain ⟨e, outcome, recorded, snapshot⟩ := taken?_eq_some_iff.mp taken
  have config : (start.afterSteps k).config = start.config :=
    congrArg Problem.config (problem_afterSteps start k)
  rw [config] at recorded
  use k, e, before, step, outcome, recorded, snapshot

theorem OnCourse.increasing (onCourse : start.OnCourse s) :
  s.history.snapshots.Pairwise (·.step < ·.step)
  := (pairwise_chronicle start s.steps).sublist onCourse.snapshots.sublist

theorem OnCourse.rewind (new : start.New) (onCourse : start.OnCourse s)
    (rewound : s.rewind n = .ok t) :
  start.OnCourse t
  := by
  obtain ⟨σ, found, rfl⟩ := rewind_eq_ok_iff.mp rewound
  obtain ⟨retained, rfl⟩ := History.mem_of_get? found
  obtain ⟨k, e, before, step, -, -, snapshot⟩ := onCourse.exists_step new retained
  have kept : (s.restore σ).history.snapshots = s.history.snapshots.filter (·.step ≤ σ.step) := by
    apply History.snapshots_truncateAfter_of_increasing onCourse.increasing
  constructor
  · apply onCourse.problem
  · have problem : s.problem = (start.afterSteps (k + 1)).problem := by
      rw [problem_afterSteps, onCourse.problem]
    change (s.restore σ).position = (start.afterSteps σ.step).position
    rw [step]
    apply position_restore snapshot (congrArg Problem.rules problem)
    apply new.memory_afterSteps (k + 1)
  · have within : σ.step ≤ s.steps := by omega
    have shorter := start.filter_chronicle within
    rw [new.steps, Nat.zero_add] at shorter
    change (s.restore σ).history.snapshots <:+ start.chronicle σ.step
    rw [kept, ← shorter]
    apply onCourse.snapshots.filter
  · rw [kept]
    apply Nat.le_trans (List.length_filter_le _ _) onCourse.bounded

/-- Whatever the moves, a solver stays on course. -/
theorem onCourse_afterMoves (new : start.New) (moves : List Move) :
  start.OnCourse (start.afterMoves moves)
  := by
  apply afterMoves_induction new.onCourse
  · intro s onCourse
    apply onCourse.step
  · intro s t n onCourse rewound
    apply onCourse.rewind new rewound

end Solver

end ForwardChaining
