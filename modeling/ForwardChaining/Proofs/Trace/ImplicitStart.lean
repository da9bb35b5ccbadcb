import ForwardChaining.Proofs.Trace.Following

/-!
# Runs whose start is not told

A tracer that was not told of the start of a run starts it when it is told of the first step.  It
then has the state after that step only, and takes its pass for the pass of the step.  This goes
unnoticed unless the first step ends a pass, which it does exactly if there is one rule
(`Solver.iteration_first_step`).  With one rule everything is told under the pass after
it, and the end of the pass is not told at all (`Tracer.records_overhear`).
-/

namespace ForwardChaining

/-- What is told of an event of the only pass of a run by a tracer that starts the run after that
pass. -/
def TraceEvent.late? : TraceEvent → Option (Nat × TraceEvent)
  | passEnd .. => none
  | passStart _ => some (1, passStart 1)
  | event => some (1, event)

namespace Solver

variable {start : Solver} {registry : Registry} {inputs : List FactId} {rules : List Rule}
  {config : SolverConfig} {e : Examination}

theorem iteration_settle_record (s : Solver) (id : RuleId) (performing : Bool) :
  (s.settle.record id performing).iteration
    = if s.pending.size ≤ s.head then s.iteration + 1 else s.iteration
  := by
  have recorded : (s.settle.record id performing).iteration = s.settle.iteration :=
    congrArg Position.iteration (position_record s.settle id performing)
  rw [recorded, settle]
  split <;> rfl

/-! ### The first step -/

/-- In the beginning all rules are pending. -/
theorem size_pending_of_create (created : create registry inputs rules config = .ok start) :
  start.pending.size = rules.length
  := by
  obtain ⟨-, -, rfl⟩ := (create_eq_ok_iff ..).mp created
  change ((Array.range rules.length).map RuleId.mk).size = _
  rw [Array.size_map, Array.size_range]

/-- The first step examines a rule if there is one. -/
theorem examined_of_create (created : create registry inputs rules config = .ok start)
    (inside : 0 < rules.length) :
  ∃ e, start.step.1 = .examined e
  := by
  obtain examined | verdict := start.examined_or_verdict
  · exact examined
  · have size := size_pending_of_create created
    have running : start.isTerminal = false := by
      obtain ⟨-, -, rfl⟩ := (create_eq_ok_iff ..).mp created
      rfl
    rw [isTerminal_step, running, Bool.false_or, Array.isEmpty_iff_size_eq_zero] at verdict
    omega

/-- The first step fires the first rule or passes it over, and settles the pass. -/
theorem exists_settled_of_create (created : create registry inputs rules config = .ok start)
    (inside : 0 < rules.length) (outcome : start.step.1 = .examined e) :
  ∃ t : Solver, start.step.2 = t.settle.record e.rule e.performing
    ∧ t.iteration = 0
    ∧ (t.pending.size = rules.length - 1 ∧ t.head = 0
      ∨ t.pending.size = rules.length ∧ t.head = 1 ∧ t.status = .running ∧ t.firedThisPass = 0)
  := by
  have size := size_pending_of_create created
  obtain ⟨-, -, rfl⟩ := (create_eq_ok_iff ..).mp created
  have front : (initial registry inputs rules config).cursor = 0 := by
    unfold cursor
    split <;> rfl
  obtain ⟨performing, -, after⟩ | ⟨performing, -, after⟩ := step_eq_of_examined outcome
  · rw [performing]
    refine ⟨_, after, rfl, .inl ⟨?_, front⟩⟩
    have under : (initial registry inputs rules config).cursor
        < (initial registry inputs rules config).pending.size := by
      omega
    rw [fire, Array.eraseIdxIfInBounds, dif_pos under, Array.size_eraseIdx, size]
  · rw [performing]
    exact ⟨_, after, rfl, .inr ⟨size, congrArg (· + 1) front, rfl, rfl⟩⟩

/-- The first step ends a pass exactly if there is one rule. -/
theorem iteration_first_step (created : create registry inputs rules config = .ok start) :
  start.step.2.iteration = if rules.length = 1 then 1 else 0
  := by
  obtain none | inside := Nat.eq_zero_or_pos rules.length
  · have verdict : start.step.1.isTerminal = true := by
      have size := size_pending_of_create created
      rw [none] at size
      rw [isTerminal_step, Array.isEmpty_iff_size_eq_zero.mpr size, Bool.or_true]
    have same : start.step.2.iteration = start.iteration :=
      congrArg Position.iteration (step_of_verdict verdict).1
    rw [same, none, if_neg Nat.zero_ne_one]
    obtain ⟨-, -, rfl⟩ := (create_eq_ok_iff ..).mp created
    rfl
  · obtain ⟨e, outcome⟩ := examined_of_create created inside
    obtain ⟨t, after, first, ⟨size, head⟩ | ⟨size, head, -⟩⟩ :=
      exists_settled_of_create created inside outcome
    · rw [after, iteration_settle_record, size, head, first]
      split <;> split <;> omega
    · rw [after, iteration_settle_record, size, head, first]
      split <;> split <;> omega

/-- A run with one rule is over after its first step. -/
theorem verdict_of_one_rule (created : create registry inputs rules config = .ok start)
    (one : rules.length = 1) (k : Nat) :
  (start.afterSteps (k + 1)).step.1.isTerminal = true
  := by
  induction k with
  | zero =>
    change start.step.2.step.1.isTerminal = true
    have inside : 0 < rules.length := by
      omega
    obtain ⟨e, outcome⟩ := examined_of_create created inside
    obtain ⟨t, after, -, ⟨size, -⟩ | ⟨size, head, running, unfired⟩⟩ :=
      exists_settled_of_create created inside outcome
    · have pending : start.step.2.pending = t.pending := by
        have settled : t.settle.pending = t.pending := by
          rw [settle_eq_with]
        rw [after, ← settled]
        exact congrArg Position.pending (position_record t.settle e.rule e.performing)
      have none : t.pending.isEmpty = true := by
        rw [Array.isEmpty_iff_size_eq_zero, size, one]
      rw [isTerminal_step, pending, none, Bool.or_true]
    · have failed : t.settle.status = .failed ⟨t.pending.toList, t.iteration + 1⟩ := by
        rw [settle, if_pos (by omega)]
        exact if_pos ⟨unfired, by omega⟩
      rw [isTerminal_step, isTerminal, after, status_record, failed]
      rfl
  | succ k ih => exact verdict_of_terminal (step_of_verdict ih).2.2

end Solver

namespace Tracer

/-- The tracer that is told of the first `n` steps of a run, when the clock shows the given times,
and not of its start. -/
def overhear (t : Tracer) (start : Solver) (times : Nat → Nat) : Nat → Tracer
  | 0 => t
  | n + 1 => ((t.overhear start times n).atTime (times (n + 1))).observe (start.afterSteps (n + 1))
    (start.afterSteps n).step.1

variable {t : Tracer} {start : Solver} {registry : Registry} {inputs : List FactId}
  {rules : List Rule} {config : SolverConfig} {e : Examination}

/-! ### Several rules -/

/-- A first step that ends no pass leaves the tracer where it would be had it been told of the
start. -/
theorem follows_overhear (enabled : t.config.enabled = true) (unstarted : t.started = false)
    (begun : start.firedThisPass = 0) (ongoing : start.step.2.iteration = start.iteration)
    (times : Nat → Nat) (n : Nat) :
  t.Follows start (n + 1) (t.overhear start times (n + 1))
  := by
  induction n with
  | zero =>
    have clock : t.Tells [] (t.atTime (times 1)) := tells_nil rfl rfl
    obtain ⟨told, notes⟩ := tells_observe_first (t := t.atTime (times 1)) enabled unstarted start
    have agrees : Notes.starting start.step.2 = notesOf start false := by
      rw [Notes.starting, notesOf, ongoing, begun]
    have entries : startEntries start.step.2 start.memory.size
        = startEntries start start.memory.size := by
      have rules : start.step.2.rules = start.rules :=
        congrArg Solver.Problem.rules start.problem_step
      rw [startEntries, startEntries, rules, ongoing]
    rw [agrees] at told notes
    rw [entries, stepEntries_notesOf] at told
    rw [afterStep_notesOf] at notes
    constructor
    · rw [Solver.entries_succ]
      exact clock.append told
    · rw [Solver.reported_succ]
      exact notes
  | succ n ih => exact ih.observe enabled (times (n + 2))

/-! ### One rule -/

/-- A verdict is told late as it is. -/
theorem filterMap_late?_of_verdict {s : Solver} (verdict : s.step.1.isTerminal = true)
    (reported : Bool) :
  (s.stepStory reported).filterMap (·.late?)
    = (s.stepStory reported).map fun event => (1, event)
  := by
  obtain ⟨event, terminal, told⟩ := Solver.stepStory_of_verdict verdict reported
  have late : event.late? = some (1, event) := by
    cases event <;> first | rfl | cases terminal
  rw [told]
  split
  · rfl
  · rw [List.filterMap_cons_some late]
    rfl

/-- An examination is told late as it is. -/
theorem filterMap_late?_examinationStory (s : Solver) (e : Examination) :
  (s.examinationStory e).filterMap (·.late?) = (s.examinationStory e).map fun event => (1, event)
  := by
  have late : ∀ event ∈ s.examinationStory e, event.late? = some (1, event) := by
    intro event told
    obtain ⟨boundary, -⟩ := Solver.mem_examinationStory told
    cases event <;> first | rfl | cases boundary
  generalize s.examinationStory e = events at late
  induction events with
  | nil => rfl
  | cons event events ih =>
    obtain ⟨first, rest⟩ := List.forall_mem_cons.mp late
    rw [List.filterMap_cons_some first, ih rest, List.map_cons]

/-- The end of the only pass is not told late. -/
theorem filterMap_late?_story_one (created : Solver.create registry inputs rules config = .ok start)
    (one : rules.length = 1) (outcome : start.step.1 = .examined e) :
  (start.story 1).filterMap (·.late?)
    = (1, .runStart start.rules.size start.memory.size) :: (1, .passStart 1)
      :: (start.examinationStory e).map fun event => (1, event)
  := by
  have ended : start.passStory.filterMap (·.late?) = [] := by
    have verdict : start.step.2.step.1.isTerminal = true :=
      Solver.verdict_of_one_rule created one 0
    unfold Solver.passStory
    rw [if_pos verdict]
    split <;> rfl
  have story : start.story 1 = .runStart start.rules.size start.memory.size
      :: .passStart start.iteration :: start.stepStory false := by
    rw [Solver.story_succ]
    rfl
  rw [story, ← filterMap_late?_examinationStory]
  change _ :: _ :: (start.stepStory false).filterMap (·.late?) = _
  rw [Solver.stepStory_of_examined outcome, List.filterMap_append, ended, List.append_nil]

/-- A tracer that was not told of the start takes the state after the first step for the one
before it. -/
theorem tells_late_first (created : Solver.create registry inputs rules config = .ok start)
    (one : rules.length = 1) (enabled : t.config.enabled = true)
    (unstarted : t.started = false) :
  t.Tells ((start.story 1).filterMap (·.late?)) (t.observe start.step.2 start.step.1)
    ∧ (t.observe start.step.2 start.step.1).notes
      = ⟨1, start.step.1.fired.length, true, start.reported 1⟩
  := by
  obtain ⟨e, outcome⟩ := Solver.examined_of_create created (by omega)
  have turned : start.step.2.iteration = 1 := by
    rw [Solver.iteration_first_step created, if_pos one]
  have starting : Notes.starting start.step.2 = ⟨1, 0, true, false⟩ := by
    rw [Notes.starting, turned]
  have size : start.step.2.rules = start.rules :=
    congrArg Solver.Problem.rules start.problem_step
  obtain ⟨told, notes⟩ := tells_observe_first enabled unstarted start
  rw [starting] at told notes
  constructor
  · have unseen : ((⟨1, 0, true, false⟩ : Notes).counted start.step.1).turnEntries start.step.2
        = [] := if_pos turned
    rw [stepEntries_of_examined outcome, unseen, List.append_nil, startEntries, size,
      turned] at told
    rw [filterMap_late?_story_one created one outcome]
    exact told
  · have unreported : start.reported 1 = false := by
      rw [Solver.reported_succ, Solver.afterSteps, outcome]
      rfl
    rw [notes, unreported, afterStep_of_examined _ outcome, Notes.turned, Notes.counted,
      if_pos turned, Nat.zero_add]

/-- With one rule, a tracer that was not told of the start ascribes all that it tells to the pass
after the only one, and does not tell of the end of that. -/
theorem tells_late (created : Solver.create registry inputs rules config = .ok start)
    (one : rules.length = 1) (enabled : t.config.enabled = true) (unstarted : t.started = false)
    (times : Nat → Nat) (n : Nat) :
  t.Tells ((start.story (n + 1)).filterMap (·.late?)) (t.overhear start times (n + 1))
    ∧ (t.overhear start times (n + 1)).notes
      = ⟨1, start.step.1.fired.length, true, start.reported (n + 1)⟩
  := by
  induction n with
  | zero =>
    obtain ⟨told, notes⟩ :=
      tells_late_first (t := t.atTime (times 1)) created one enabled unstarted
    exact ⟨told.of_noted rfl rfl, notes⟩
  | succ n ih =>
    obtain ⟨before, agrees⟩ := ih
    have verdict := Solver.verdict_of_one_rule created one n
    have started : (t.overhear start times (n + 1)).started = true :=
      congrArg Notes.started agrees
    have noted : ((t.overhear start times (n + 1)).atTime (times (n + 2))).notes
        = ⟨1, start.step.1.fired.length, true, start.reported (n + 1)⟩ := agrees
    obtain ⟨told, notes⟩ :=
      tells_observe (t := (t.overhear start times (n + 1)).atTime (times (n + 2)))
        (before.config ▸ enabled) started (start.afterSteps (n + 1))
    rw [noted] at told notes
    rw [stepEntries_of_verdict verdict, ← filterMap_late?_of_verdict verdict] at told
    constructor
    · rw [Solver.story_succ, List.filterMap_append]
      exact before.append (told.of_noted rfl rfl)
    · have reported : start.reported (n + 2) = true := by
        rw [Solver.reported_succ, verdict, Bool.or_true]
      rw [reported]
      exact notes.trans (afterStep_of_verdict _ verdict)

/-! ### Told and untold starts -/

/-- What a tracer that was not told of the start tells of the first `n` steps of a run with so many
rules. -/
def overheardEntries (start : Solver) (rules n : Nat) : List (Nat × TraceEvent) :=
  if rules = 1 then (start.story n).filterMap (·.late?) else start.entries n

theorem tells_overhear (created : Solver.create registry inputs rules config = .ok start)
    (enabled : t.config.enabled = true) (unstarted : t.started = false) (times : Nat → Nat)
    (n : Nat) :
  t.Tells (overheardEntries start rules.length (n + 1)) (t.overhear start times (n + 1))
  := by
  unfold overheardEntries
  split
  · rename_i one
    exact (tells_late created one enabled unstarted times n).1
  · rename_i several
    have turned := Solver.iteration_first_step created
    rw [if_neg several] at turned
    obtain ⟨-, -, rfl⟩ := (Solver.create_eq_ok_iff ..).mp created
    exact (follows_overhear enabled unstarted rfl turned times n).tells

/-- There is a difference between what is told exactly if there is one rule. -/
theorem overheardEntries_eq_iff (created : Solver.create registry inputs rules config = .ok start)
    (n : Nat) :
  overheardEntries start rules.length n = start.entries n ↔ rules.length ≠ 1
  := by
  have begun : start.iteration = 0 := by
    obtain ⟨-, -, rfl⟩ := (Solver.create_eq_ok_iff ..).mp created
    rfl
  unfold overheardEntries
  split
  · rename_i one
    apply iff_of_false
    · intro same
      have first : (1 : Nat) = start.iteration :=
        congrArg Prod.fst (List.cons.inj same).1
      omega
    · exact not_not_intro one
  · rename_i several
    exact iff_of_true rfl several

theorem length_overheardEntries (start : Solver) (rules n : Nat) :
  (overheardEntries start rules n).length ≤ (start.story n).length
  := by
  unfold overheardEntries
  split
  · exact List.length_filterMap_le _ _
  · exact Nat.le_of_eq (by rw [← Solver.map_snd_entries, List.length_map])

/-- A tracer that was told of the start of a run has recorded the story so far, each event under
its pass.  One that was not has recorded the same, unless there is one rule; then it has recorded
everything under the pass after the only one, and not the end of that. -/
theorem records_overhear (created : Solver.create registry inputs rules config = .ok start)
    (t : Tracer) (times times' : Nat → Nat) (n : Nat) (enabled : t.config.enabled = true)
    (unfiltered : t.config.filter = []) (unstarted : t.started = false)
    (room : t.buffer.records.length + (start.story (n + 1)).length ≤ t.buffer.maxSize) :
  ∃ begun overheard,
    (t.follow start times (n + 1)).buffer.records = t.buffer.records ++ begun
      ∧ (t.overhear start times' (n + 1)).buffer.records = t.buffer.records ++ overheard
      ∧ begun.map (·.entry) = start.entries (n + 1)
      ∧ overheard.map (·.entry) = overheardEntries start rules.length (n + 1)
      ∧ (overheard.map (·.entry) = begun.map (·.entry) ↔ rules.length ≠ 1)
  := by
  have unfired : start.firedThisPass = 0 := by
    obtain ⟨-, -, rfl⟩ := (Solver.create_eq_ok_iff ..).mp created
    rfl
  obtain ⟨begun, makes, told⟩ :=
    (follows_follow (t := t) enabled unfired times (n + 1)).tells.exists_made unfiltered
  obtain ⟨overheard, makes', told'⟩ :=
    (tells_overhear created enabled unstarted times' n).exists_made unfiltered
  have length : begun.length = (start.story (n + 1)).length := by
    rw [← Solver.map_snd_entries, ← told, List.length_map, List.length_map]
  have length' : overheard.length ≤ (start.story (n + 1)).length := by
    have within := length_overheardEntries start rules.length (n + 1)
    rwa [← told', List.length_map] at within
  refine ⟨begun, overheard, makes.records_of_room (by omega), makes'.records_of_room (by omega),
    told, told', ?_⟩
  rw [told, told']
  exact overheardEntries_eq_iff created (n + 1)

/-! ### A chain and a lone rule -/

/-- Of the chain, a tracer that was not told of the start records what one that was records. -/
theorem records_overhear_chain :
  ∃ begun overheard,
    ((create { enabled := true }).follow (Solver.chain {}) id 9).buffer.records = begun
      ∧ ((create { enabled := true }).overhear (Solver.chain {}) id 9).buffer.records = overheard
      ∧ begun.length = 18
      ∧ overheard.map (·.entry) = begun.map (·.entry)
  := by
  have length : ((Solver.chain {}).story 9).length = 18 := by
    decide +kernel
  have room : (create { enabled := true }).buffer.records.length
      + ((Solver.chain {}).story 9).length ≤ (create { enabled := true }).buffer.maxSize := by
    rw [length]
    decide
  obtain ⟨begun, overheard, records, records', told, -, same⟩ :=
    records_overhear (Solver.create_chain {}) (create { enabled := true }) id id 8 rfl rfl rfl room
  refine ⟨begun, overheard, records, records', ?_, same.mpr (by decide)⟩
  rw [← length, ← Solver.map_snd_entries, ← told, List.length_map, List.length_map]

/-- The solver for the one rule from A to B with the input A. -/
def loneRule : Solver :=
  .initial Solver.chainRegistry [Solver.chainFact 0]
    [.implies [Solver.chainFact 0] [Solver.chainFact 1]] {}

/-- Of the lone rule, a tracer that was not told of the start does not record the end of pass 0,
and records under pass 1 what happens in pass 0. -/
theorem records_overhear_loneRule :
  ((create { enabled := true }).follow loneRule id 2).buffer.records.map (·.entry)
      = [(0, .runStart 1 1), (0, .passStart 0), (0, .ruleExamined ⟨0⟩ true), (0, .ruleFired ⟨0⟩),
        (0, .factAsserted (Solver.chainFact 1) ⟨0⟩), (0, .passEnd 0 1), (1, .runSucceeded 1)]
    ∧ ((create { enabled := true }).overhear loneRule id 2).buffer.records.map (·.entry)
      = [(1, .runStart 1 1), (1, .passStart 1), (1, .ruleExamined ⟨0⟩ true), (1, .ruleFired ⟨0⟩),
        (1, .factAsserted (Solver.chainFact 1) ⟨0⟩), (1, .runSucceeded 1)]
  := by
  decide +kernel

end Tracer

end ForwardChaining
