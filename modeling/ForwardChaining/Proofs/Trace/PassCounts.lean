import ForwardChaining.Proofs.Trace.Attribution

/-!
# Counts of fired rules

A tracer counts the rules that it sees fire in a pass, and a rewind sets its count to nought.  So
when a pass ends it has counted the rules that have fired in the pass since the solver was last
rewound, and not those that had fired in it before the step to which that was
(`Watch.passEnd_after`).  The number that it records is the number of rules that fired in the pass
exactly if none of them had.
-/

namespace ForwardChaining

namespace Solver

/-- The rules that fire in the next `n` steps, in order, each with the pass in which it fires. -/
def firings (s : Solver) (n : Nat) : List (RuleId × Nat) :=
  (List.range n).flatMap fun k =>
    (s.afterSteps k).step.1.fired.map fun rule => (rule, (s.afterSteps k).iteration)

/-- The number of rules that fire in the pass in the next `n` steps. -/
def firedIn (s : Solver) (n pass : Nat) : Nat :=
  (s.firings n).countP fun firing => firing.2 = pass

variable {s start : Solver} {m n pass : Nat}

theorem firings_succ (s : Solver) (n : Nat) :
  s.firings (n + 1) = s.firings n
    ++ (s.afterSteps n).step.1.fired.map fun rule => (rule, (s.afterSteps n).iteration)
  := by
  rw [firings, List.range_succ, List.flatMap_append, List.flatMap_singleton]
  rfl

/-- The rules that fire are added to the fired rules. -/
theorem map_fst_firings (s : Solver) (n : Nat) :
  s.fired.toList ++ (s.firings n).map (·.1) = (s.afterSteps n).fired.toList
  := by
  induction n with
  | zero => exact List.append_nil _
  | succ n ih =>
    have rules : ((s.afterSteps n).step.1.fired.map
        fun rule => (rule, (s.afterSteps n).iteration)).map (·.1)
          = (s.afterSteps n).step.1.fired := by
      rw [List.map_map]
      exact List.map_id _
    rw [firings_succ, List.map_append, ← List.append_assoc, ih, rules, afterSteps, fired_step,
      Log.toList_append]

theorem firedIn_succ (s : Solver) (n pass : Nat) :
  s.firedIn (n + 1) pass = s.firedIn n pass
    + if (s.afterSteps n).iteration = pass then (s.afterSteps n).step.1.fired.length else 0
  := by
  rw [firedIn, firings_succ, List.countP_append, List.countP_map]
  congr 1
  split
  · rename_i same
    apply List.countP_eq_length.mpr
    intro rule _
    exact decide_eq_true same
  · rename_i other
    apply List.countP_eq_zero.mpr
    intro rule _ told
    exact other (of_decide_eq_true told)

theorem firedIn_le (s : Solver) (within : m ≤ n) (pass : Nat) :
  s.firedIn m pass ≤ s.firedIn n pass
  := by
  induction within with
  | refl => exact Nat.le_refl _
  | step _ ih =>
    rw [firedIn_succ]
    exact Nat.le_add_right_of_le ih

/-- No rule has fired in a pass that has not begun. -/
theorem firedIn_of_iteration_lt (before : (s.afterSteps n).iteration < pass) :
  s.firedIn n pass = 0
  := by
  induction n with
  | zero => rfl
  | succ n ih =>
    have earlier : (s.afterSteps n).iteration < pass := by
      rw [afterSteps] at before
      obtain ⟨same, -⟩ | ⟨turned, -⟩ := (s.afterSteps n).pass_step
      · omega
      · omega
    rw [firedIn_succ, ih earlier, if_neg (by omega)]

/-- The fired rules of a solver are those that fired on its course. -/
theorem OnCourse.map_fst_firings (onCourse : start.OnCourse s) (begun : start.fired.toList = []) :
  (start.firings s.steps).map (·.1) = s.fired.toList
  := by
  have fired : s.fired = (start.afterSteps s.steps).fired :=
    congrArg Position.fired onCourse.position
  rw [fired, ← Solver.map_fst_firings, begun, List.nil_append]

/-- A step that examines a rule counts it in the pass of the solver if it fires. -/
theorem OnCourse.firedIn_step (onCourse : start.OnCourse s) {e : Examination}
    (outcome : s.step.1 = .examined e) (pass : Nat) :
  start.firedIn s.step.2.steps pass = start.firedIn s.steps pass
    + if s.iteration = pass then s.step.1.fired.length else 0
  := by
  have iteration : s.iteration = (start.afterSteps s.steps).iteration :=
    congrArg Position.iteration onCourse.position
  rw [steps_of_examined outcome, firedIn_succ, iteration, (step_congr onCourse.position).1]

theorem OnCourse.firedIn_of_iteration_lt (onCourse : start.OnCourse s)
    (before : s.iteration < pass) :
  start.firedIn s.steps pass = 0
  := by
  have iteration : s.iteration = (start.afterSteps s.steps).iteration :=
    congrArg Position.iteration onCourse.position
  rw [iteration] at before
  exact Solver.firedIn_of_iteration_lt before

end Solver

namespace Watch

/-- The tracer has counted the rules that fired in the pass since `resumed`. -/
structure Counts (start : Solver) (resumed w : Watch) : Prop where
  steps : resumed.solver.steps ≤ w.solver.steps
  fired : w.tracer.firedInPass + start.firedIn resumed.solver.steps w.solver.iteration
    = start.firedIn w.solver.steps w.solver.iteration

variable {w resumed : Watch} {t : Tracer} {start s : Solver} {acts : List Act} {act : Act} {n : Nat}

/-! ### Counting -/

/-- A tracer that is told of a step goes on counting, or begins to count with the next pass. -/
theorem Counts.step (counts : Counts start resumed w) (onCourse : start.OnCourse w.solver)
    (enabled : w.tracer.config.enabled = true) (started : w.tracer.started = true)
    (agrees : w.tracer.currentPass = w.solver.iteration) :
  Counts start resumed (w.act .step)
  := by
  have notes := (Tracer.tells_observe enabled started w.solver).2
  have counted := congrArg Tracer.Notes.firedInPass notes
  obtain ⟨e, outcome⟩ | verdict := w.solver.examined_or_verdict
  · have steps : (w.act .step).solver.steps = w.solver.steps + 1 :=
      Solver.steps_of_examined outcome
    have firedIn := onCourse.firedIn_step outcome
    rw [Tracer.firedInPass_afterStep _ outcome] at counted
    change (w.act .step).tracer.firedInPass = (if w.solver.step.2.iteration
      = w.tracer.currentPass then w.tracer.firedInPass + w.solver.step.1.fired.length else 0)
      at counted
    constructor
    · rw [steps]
      exact Nat.le_succ_of_le counts.steps
    · change (w.act .step).tracer.firedInPass
        + start.firedIn resumed.solver.steps w.solver.step.2.iteration
          = start.firedIn w.solver.step.2.steps w.solver.step.2.iteration
      obtain ⟨same, -⟩ | ⟨turned, -⟩ := w.solver.pass_step
      · have fired := counts.fired
        rw [counted, agrees, firedIn, same, if_pos rfl, if_pos rfl]
        omega
      · -- no rule has fired in the pass that begins
        have after : start.firedIn w.solver.steps (w.solver.iteration + 1) = 0 :=
          onCourse.firedIn_of_iteration_lt (Nat.lt_succ_self _)
        have before := start.firedIn_le counts.steps (w.solver.iteration + 1)
        rw [counted, agrees, firedIn, turned, if_neg (by omega), if_neg (by omega)]
        omega
  · have position := (Solver.step_of_verdict verdict).1
    have steps : (w.act .step).solver.steps = w.solver.steps := congrArg Position.steps position
    have iteration : (w.act .step).solver.iteration = w.solver.iteration :=
      congrArg Position.iteration position
    rw [Tracer.afterStep_of_verdict _ verdict] at counted
    constructor
    · rw [steps]
      exact counts.steps
    · have same : (w.act .step).tracer.firedInPass = w.tracer.firedInPass := counted
      rw [same, steps, iteration, counts.fired]

/-- To rewind a solver is to begin to count anew. -/
theorem counts_rewound (start : Solver) (w : Watch) (s : Solver) (n : Nat) :
  Counts start ⟨s, w.tracer.rewound s n⟩ ⟨s, w.tracer.rewound s n⟩
  := by
  have notes := (w.tracer.tells_rewound s n).2
  have counted : (w.tracer.rewound s n).firedInPass = 0 :=
    congrArg Tracer.Notes.firedInPass notes
  constructor
  · exact Nat.le_refl _
  · rw [counted, Nat.zero_add]

/-- Whatever was done before, a tracer that is never disabled has counted the rules that fired in
the pass since the solver was last rewound. -/
theorem counts_after (new : start.New) (enabled : t.config.enabled = true)
    (steady : .setEnabled false ∉ acts) :
  Counts start ((begin t start).latest rewinds acts) ((begin t start).after acts)
  := by
  induction acts using List.reverseRecOn with
  | nil =>
    have notes := (Tracer.tells_begin enabled start).2
    have counted : (t.begin start).firedInPass = 0 := congrArg Tracer.Notes.firedInPass notes
    constructor
    · exact Nat.le_refl _
    · change (t.begin start).firedInPass + _ = _
      rw [counted, Nat.zero_add]
      rfl
  | append_singleton acts act ih =>
    obtain ⟨before, -⟩ := steady_of_concat steady
    rw [after_concat]
    obtain rfl | ⟨n, s, rfl, rewound⟩ | idle :=
      ((begin t start).after acts).step_or_rewind_or_idle act
    · rw [latest_concat_of_not_kind rfl]
      apply (ih before).step (onCourse_after new t acts)
      · exact enabled_after enabled start before
      · exact started_after enabled start acts
      · rw [currentPass_after enabled start, iteration_latest_of_steady enabled before]
    · rw [latest_concat_of_kind (rewinds_of_ok rewound), act_rewind rewound]
      exact counts_rewound start _ s n
    · have fired : (((begin t start).after acts).act act).tracer.firedInPass
          = ((begin t start).after acts).tracer.firedInPass :=
        congrArg Tracer.Notes.firedInPass idle.notes
      rw [latest_concat_of_not_kind idle.noRewind]
      constructor
      · rw [idle.solver]
        exact (ih before).steps
      · rw [idle.solver, fired]
        exact (ih before).fired

/-! ### Ends of passes -/

/-- The end of a pass that is told of a step counts the rules that fired in the pass, except for
those that had fired in it before the tracer began to count. -/
theorem Counts.passEnd (counts : Counts start resumed w) (onCourse : start.OnCourse w.solver)
    (agrees : w.tracer.currentPass = w.solver.iteration) {noted pass fired : Nat}
    (told : (noted, .passEnd pass fired) ∈ w.tracer.notes.stepEntries w.solver) :
  fired + start.firedIn resumed.solver.steps pass
    = start.firedIn (w.act .step).solver.steps pass
  := by
  obtain ⟨ended, number, turned⟩ := Tracer.passEnd_of_mem_stepEntries told
  have ended : pass = w.solver.iteration := ended.trans agrees
  have turned : w.solver.step.2.iteration ≠ w.solver.iteration := agrees ▸ turned
  obtain ⟨e, outcome⟩ | verdict := w.solver.examined_or_verdict
  · have firedIn : start.firedIn (w.act .step).solver.steps pass = start.firedIn w.solver.steps pass
        + if w.solver.iteration = pass then w.solver.step.1.fired.length else 0 :=
      onCourse.firedIn_step outcome pass
    have before := counts.fired
    change fired = w.tracer.firedInPass + w.solver.step.1.fired.length at number
    rw [firedIn, number, ended, if_pos rfl]
    omega
  · have same := congrArg Position.iteration (Solver.step_of_verdict verdict).1
    exact absurd same turned

/-- Whatever was done before, the end of a pass that is recorded of a step counts the rules that
fired in the pass, except for those that had fired in it when the solver was last rewound. -/
theorem passEnd_after {registry : Registry} {inputs : List FactId} {rules : List Rule}
    {config : SolverConfig} (created : Solver.create registry inputs rules config = .ok start)
    (t : Tracer) (acts : List Act) (enabled : t.config.enabled = true)
    (steady : .setEnabled false ∉ acts) :
  (start.firings ((begin t start).after (acts ++ [.step])).solver.steps).map (·.1)
      = ((begin t start).after (acts ++ [.step])).solver.fired.toList
    ∧ ∃ made, ((begin t start).after acts).tracer.Makes made
        ((begin t start).after (acts ++ [.step])).tracer
      ∧ ∀ r ∈ made, ∀ pass fired, r.event = .passEnd pass fired →
        fired + start.firedIn ((begin t start).latest rewinds acts).solver.steps pass
            = start.firedIn ((begin t start).after (acts ++ [.step])).solver.steps pass
          ∧ (fired = start.firedIn ((begin t start).after (acts ++ [.step])).solver.steps pass
            ↔ start.firedIn ((begin t start).latest rewinds acts).solver.steps pass = 0)
  := by
  have new := Solver.new_of_create created
  have onCourse := onCourse_after new t acts
  have counts := counts_after new enabled steady
  have agrees := currentPass_after enabled start acts
  rw [iteration_latest_of_steady enabled steady] at agrees
  constructor
  · apply (onCourse_after new t _).map_fst_firings
    obtain ⟨-, -, rfl⟩ := (Solver.create_eq_ok_iff ..).mp created
    rfl
  · rw [after_concat]
    obtain ⟨made, makes, told⟩ := exists_made_step (started_after enabled start acts)
    use made, makes
    intro r member pass fired event
    have entry := told r member
    rw [TraceRecord.entry, event] at entry
    have number := counts.passEnd onCourse agrees entry
    refine ⟨number, ?_⟩
    omega

/-! ### Chains that are rewound -/

/-- A tracer counts all rules of a pass to whose beginning the chain is rewound. -/
theorem passEnd_after_chain :
  ∃ made, made.map (·.entry) = [(1, .ruleExamined ⟨1⟩ true), (1, .ruleFired ⟨1⟩),
      (1, .factAsserted (Solver.chainFact 2) ⟨1⟩), (1, .passEnd 1 1), (2, .passStart 2)]
    ∧ ((chainWatch {}).after [.step, .step, .step, .step, .rewind 3, .step]).tracer.Makes made
      ((chainWatch {}).after [.step, .step, .step, .step, .rewind 3, .step, .step]).tracer
    ∧ 1 = (Solver.chain {}).firedIn
      ((chainWatch {}).after [.step, .step, .step, .step, .rewind 3, .step, .step]).solver.steps 1
  := by
  obtain ⟨-, made, makes, counted⟩ := passEnd_after (Solver.create_chain {})
    (.create { enabled := true }) [.step, .step, .step, .step, .rewind 3, .step] rfl (by decide)
  have entries : made.map (·.entry) = [(1, .ruleExamined ⟨1⟩ true), (1, .ruleFired ⟨1⟩),
      (1, .factAsserted (Solver.chainFact 2) ⟨1⟩), (1, .passEnd 1 1), (2, .passStart 2)] := by
    rw [makes.eq_drop (by decide +kernel)]
    decide +kernel
  have ended : (1, .passEnd 1 1) ∈ made.map (·.entry) := by
    rw [entries]
    decide
  obtain ⟨r, member, entry⟩ := List.mem_map.mp ended
  have number := counted r member 1 1 (congrArg Prod.snd entry)
  exact ⟨made, entries, makes, number.2.mpr (by decide +kernel)⟩

/-- The solver for the rules from A to B and from B to C with the input A, both of which fire in
the first pass. -/
def straightChain : Solver :=
  .initial Solver.chainRegistry [Solver.chainFact 0]
    [.implies [Solver.chainFact 0] [Solver.chainFact 1],
      .implies [Solver.chainFact 1] [Solver.chainFact 2]] {}

/-- A tracer does not count the first rule of the straight chain when that is rewound to the step
which fired it. -/
theorem passEnd_short_straightChain :
  (((begin (.create { enabled := true }) straightChain).after
      [.step, .rewind 1, .step]).tracer.buffer.records.map (·.entry)).getLast?
        = some (0, .passEnd 0 1)
    ∧ straightChain.firings ((begin (.create { enabled := true }) straightChain).after
        [.step, .rewind 1, .step]).solver.steps = [(⟨0⟩, 0), (⟨1⟩, 0)]
  := by
  decide +kernel

end Watch

end ForwardChaining
