import ForwardChaining.Proofs.Solver.Chronicle

/-!
# Retention

Whatever the moves, the history of a solver shows what happened (`Solver.FaithfulHistory`):
each snapshot is the state right after its step, no recorded step is missing after the oldest
retained one, and memory and fired rules only grow from snapshot to snapshot.  A rewind finds
exactly the retained steps, and drops exactly the later ones.
-/

namespace ForwardChaining

/-! ### What a snapshot shows -/

/-- The snapshot holds what the solver `t` holds right after a step that came to the examination
`e`. -/
structure Snapshot.Shows (σ : Snapshot) (e : Examination) (t : Solver) : Prop where
  step : σ.step = t.steps
  iteration : σ.iteration = t.iteration
  head : σ.head = t.head
  firedThisPass : σ.firedThisPass = t.firedThisPass
  examined : σ.examined = e.rule
  performing : σ.performing = e.performing
  status : σ.status = t.status
  memory : σ.memory = t.memory.log
  pending : σ.pending = t.pending
  fired : σ.fired = t.fired

/-- A snapshot shows the state that it was taken of. -/
theorem Snapshot.shows_snapshot (t : Solver) (e : Examination) :
  (t.snapshot e.rule e.performing).Shows e t
  := by
  constructor <;> rfl

namespace Solver

variable {s t start : Solver} {e : Examination} {σ τ : Snapshot} {m n : Nat}

/-! ### Growth -/

/-- A memory keeps what has been asserted before. -/
theorem sequence_afterSteps_prefix (s : Solver) (within : m ≤ n) :
  (s.afterSteps m).memory.sequence <+: (s.afterSteps n).memory.sequence
  := by
  induction within with
  | refl => apply List.prefix_rfl
  | step _ ih =>
    rw [afterSteps, memory_step, WorkingMemory.sequence_assertAll]
    apply ih.trans (List.prefix_append _ _)

/-- A rule that has fired before stands where it stood. -/
theorem fired_afterSteps_prefix (s : Solver) (within : m ≤ n) :
  (s.afterSteps m).fired.toList <+: (s.afterSteps n).fired.toList
  := by
  induction within with
  | refl => apply List.prefix_rfl
  | step _ ih =>
    rw [afterSteps, fired_step, Log.toList_append]
    apply ih.trans (List.prefix_append _ _)

/-! ### Steps taken -/

/-- Some moves from `start` are followed by a step that comes to the examination `e` and leads
to `t`. -/
def Took (start : Solver) (e : Examination) (t : Solver) : Prop :=
  ∃ moves : List Move, (start.afterMoves moves).step = (.examined e, t)

/-- Whatever moves came before a step, it is the step that is taken without a move back. -/
theorem Took.exists_step (new : start.New) (took : start.Took e t) :
  ∃ k, t.steps = k + 1 ∧ (start.afterSteps k).step.1 = .examined e
    ∧ (start.afterSteps (k + 1)).snapshot e.rule e.performing = t.snapshot e.rule e.performing
  := by
  obtain ⟨moves, taken⟩ := took
  have onCourse := onCourse_afterMoves new moves
  have outcome : (start.afterMoves moves).step.1 = .examined e := by rw [taken]
  have after : (start.afterMoves moves).step.2 = t := by rw [taken]
  obtain ⟨outcomes, position⟩ := step_congr onCourse.position
  have outcome' : (start.afterSteps (start.afterMoves moves).steps).step.1 = .examined e := by
    rw [← outcomes, outcome]
  have alike := alike_of_position_eq position (status_of_examined outcome)
    (status_of_examined outcome')
  use (start.afterMoves moves).steps
  constructor
  · rw [← after, steps_of_examined outcome]
  · apply And.intro outcome'
    rw [← after, afterSteps, alike.eq_with]
    rfl

theorem took_afterSteps (outcome : (start.afterSteps n).step.1 = .examined e) :
  start.Took e (start.afterSteps (n + 1))
  := by
  use List.replicate n .step
  rw [afterMoves_replicate_step, ← outcome]
  rfl

/-! ### Faithful histories -/

/-- The history of `s` shows what happened from `start` on. -/
structure FaithfulHistory (start s : Solver) : Prop where
  increasing : s.history.snapshots.Pairwise (·.step < ·.step)
  bounded : s.history.snapshots.length ≤ start.config.historyCapacity
  past : ∀ σ ∈ s.history.snapshots, σ.step ≤ s.steps
  /-- A snapshot is of a step that was to be recorded. -/
  recorded : ∀ σ ∈ s.history.snapshots, ∃ e t, start.Took e t ∧ t.steps = σ.step
    ∧ start.config.snapshotsStep e.performing = true
  /-- A snapshot shows the state after its step, however often that step was taken. -/
  shown : ∀ σ ∈ s.history.snapshots, ∀ e t, start.Took e t → t.steps = σ.step → σ.Shows e t
  /-- No step since the oldest retained one is missing that was to be recorded. -/
  complete : ∀ oldest, s.history.oldest? = some oldest → ∀ e t, start.Took e t →
    oldest.step ≤ t.steps → t.steps ≤ s.steps →
    start.config.snapshotsStep e.performing = true →
    ∃ σ ∈ s.history.snapshots, σ.Shows e t
  growing : s.history.snapshots.Pairwise fun σ τ =>
    σ.memory.toList <+: τ.memory.toList ∧ σ.fired.toList <+: τ.fired.toList
  extended : ∀ σ ∈ s.history.snapshots,
    σ.memory.toList <+: s.memory.sequence ∧ σ.fired.toList <+: s.fired.toList
  /-- A rewind finds exactly the retained steps. -/
  rewindable : ∀ n, (∃ t, s.rewind n = .ok t) ↔ ∃ σ ∈ s.history.snapshots, σ.step = n
  rewound : ∀ n t, s.rewind n = .ok t →
    t.history.snapshots = s.history.snapshots.filter (·.step ≤ n)
  unchanged : ∀ n, (∀ σ ∈ s.history.snapshots, σ.step ≠ n) →
    s.rewind n = fail (.snapshotNotFound n) ∧ s.afterMove (.rewind n) = s

/-- A snapshot stands in the end of an increasing list if it is not older than that end. -/
theorem mem_of_suffix_of_increasing {snapshots retained : List Snapshot}
    (increasing : snapshots.Pairwise (·.step < ·.step)) (suffix : retained <:+ snapshots)
    {oldest : Snapshot} (first : retained.head? = some oldest) (member : τ ∈ snapshots)
    (since : oldest.step ≤ τ.step) :
  τ ∈ retained
  := by
  obtain ⟨earlier, rfl⟩ := suffix
  obtain early | kept := List.mem_append.mp member
  · have before := (List.pairwise_append.mp increasing).2.2 τ early oldest
      (List.mem_of_head? first)
    omega
  · apply kept

/-- A retained snapshot shows what its step came to. -/
theorem OnCourse.snapshot_eq (new : start.New) (onCourse : start.OnCourse s)
    (retained : σ ∈ s.history.snapshots) (took : start.Took e t) (step : t.steps = σ.step) :
  t.snapshot e.rule e.performing = σ
  := by
  obtain ⟨k, e', -, step', outcome', -, snapshot'⟩ := onCourse.exists_step new retained
  obtain ⟨l, counted, outcome, snapshot⟩ := took.exists_step new
  obtain rfl : l = k := by omega
  rw [outcome] at outcome'
  obtain rfl := Outcome.examined.inj outcome'
  rw [← snapshot, snapshot']

/-- A recorded step is retained if it is not older than the oldest retained one. -/
theorem OnCourse.snapshot_mem (new : start.New) (onCourse : start.OnCourse s)
    {oldest : Snapshot} (first : s.history.oldest? = some oldest) (took : start.Took e t)
    (since : oldest.step ≤ t.steps) (past : t.steps ≤ s.steps)
    (recorded : start.config.snapshotsStep e.performing = true) :
  t.snapshot e.rule e.performing ∈ s.history.snapshots
  := by
  obtain ⟨k, counted, outcome, snapshot⟩ := took.exists_step new
  have config : (start.afterSteps k).config = start.config :=
    congrArg Problem.config (problem_afterSteps start k)
  have taken : (start.afterSteps k).taken? = some (t.snapshot e.rule e.performing) := by
    apply taken?_eq_some_iff.mpr
    use e, outcome
    rw [config]
    apply And.intro recorded snapshot
  have member : t.snapshot e.rule e.performing ∈ start.chronicle s.steps := by
    apply mem_chronicle.mpr
    use k
    apply And.intro (by omega) taken
  have head : s.history.snapshots.head? = some oldest := by
    rw [History.snapshots, ← Log.oldest?_eq]
    apply first
  apply mem_of_suffix_of_increasing (pairwise_chronicle _ _) onCourse.snapshots head member
  apply since

theorem OnCourse.past (new : start.New) (onCourse : start.OnCourse s)
    (retained : σ ∈ s.history.snapshots) :
  σ.step ≤ s.steps
  := by
  obtain ⟨k, e, before, step, -⟩ := onCourse.exists_step new retained
  omega

/-- What a retained snapshot shows begins what any state that is not earlier holds. -/
theorem OnCourse.prefix_of_le (new : start.New) (onCourse : start.OnCourse s)
    (retained : σ ∈ s.history.snapshots) (within : σ.step ≤ n) :
  σ.memory.toList <+: (start.afterSteps n).memory.sequence
    ∧ σ.fired.toList <+: (start.afterSteps n).fired.toList
  := by
  obtain ⟨k, e, -, step, -, -, rfl⟩ := onCourse.exists_step new retained
  rw [step] at within
  constructor
  · apply sequence_afterSteps_prefix start within
  · apply fired_afterSteps_prefix start within

theorem rewind_isOk_iff (s : Solver) (n : Nat) :
  (∃ t, s.rewind n = .ok t) ↔ ∃ σ ∈ s.history.snapshots, σ.step = n
  := by
  constructor
  · rintro ⟨t, rewound⟩
    obtain ⟨σ, found, -⟩ := rewind_eq_ok_iff.mp rewound
    use σ
    apply History.mem_of_get? found
  · rintro ⟨σ, retained, step⟩
    cases found : s.history.get? n with
    | none => apply absurd step (History.get?_eq_none_iff.mp found σ retained)
    | some τ =>
      use s.restore τ
      apply rewind_of_found found

/-- A step that is not retained cannot be rewound to. -/
theorem rewind_of_not_retained (missing : ∀ σ ∈ s.history.snapshots, σ.step ≠ n) :
  s.rewind n = fail (.snapshotNotFound n) ∧ s.afterMove (.rewind n) = s
  := by
  have failed := rewind_of_missing (History.get?_eq_none_iff.mpr missing)
  apply And.intro failed
  apply afterMove_rewind_error failed

/-- The history of a solver is faithful whatever the moves. -/
theorem faithfulHistory_afterMoves {registry : Registry} {inputs : List FactId}
    {rules : List Rule} {config : SolverConfig}
    (created : create registry inputs rules config = .ok start) (moves : List Move) :
  start.FaithfulHistory (start.afterMoves moves)
  := by
  have new := new_of_create created
  have onCourse := onCourse_afterMoves new moves
  constructor
  · apply onCourse.increasing
  · obtain ⟨-, -, rfl⟩ := (create_eq_ok_iff ..).mp created
    apply onCourse.bounded
  · intro σ retained
    apply onCourse.past new retained
  · intro σ retained
    obtain ⟨k, e, -, step, outcome, recorded, rfl⟩ := onCourse.exists_step new retained
    use e, start.afterSteps (k + 1), took_afterSteps outcome
    apply And.intro rfl recorded
  · intro σ retained e t took step
    rw [← onCourse.snapshot_eq new retained took step]
    apply Snapshot.shows_snapshot
  · intro oldest first e t took since past recorded
    use t.snapshot e.rule e.performing
    apply And.intro (onCourse.snapshot_mem new first took since past recorded)
    apply Snapshot.shows_snapshot
  · apply onCourse.increasing.imp_of_mem
    intro σ τ retained retained' before
    obtain ⟨k, e, -, step, -, -, rfl⟩ := onCourse.exists_step new retained'
    apply onCourse.prefix_of_le new retained
    omega
  · intro σ retained
    have live := onCourse.prefix_of_le new retained (onCourse.past new retained)
    have memory : (start.afterMoves moves).memory = _ := congrArg Position.memory onCourse.position
    have fired : (start.afterMoves moves).fired = _ := congrArg Position.fired onCourse.position
    rw [memory, fired]
    apply live
  · apply rewind_isOk_iff
  · intro n t rewound
    obtain ⟨σ, found, rfl⟩ := rewind_eq_ok_iff.mp rewound
    obtain ⟨-, rfl⟩ := History.mem_of_get? found
    apply History.snapshots_truncateAfter_of_increasing onCourse.increasing
  · intro n missing
    apply rewind_of_not_retained missing

/-- The history of the chain, of which two snapshots are retained: after three steps the first
step can no longer be rewound to, and the second can. -/
theorem faithfulHistory_chain :
  (chain ⟨2, .everyStep⟩).FaithfulHistory
      ((chain ⟨2, .everyStep⟩).afterMoves [.step, .step, .step, .rewind 1, .rewind 2])
    ∧ (((chain ⟨2, .everyStep⟩).afterMoves
      [.step, .step, .step, .rewind 1, .rewind 2]).history.snapshots.map (·.step)) = [2]
  := by
  constructor
  · apply faithfulHistory_afterMoves (create_chain _)
  · decide +kernel

end Solver

end ForwardChaining
