import ForwardChaining.Proofs.Trace.Telling

/-!
# Following a run

A tracer is not told when a pass ends.  It keeps a pass, a count of fired rules and two flags of
its own, and infers the turn of a pass from the solver after the step.  What it notes agrees
with the state of the solver after each step that it is told of (`Tracer.follows_follow`), and so
its records tell the story of the run, which is faithful (`Tracer.tells_story`), each event under
its pass.
-/

namespace ForwardChaining

/-! ### The story by passes -/

/-- The pass to which the event belongs, if it happens in the given pass: the start of a pass
belongs to the pass that it starts. -/
def TraceEvent.passIn (current : Nat) : TraceEvent → Nat
  | passStart pass => pass
  | _ => current

namespace Solver

/-- The events of the next step, each with its pass. -/
def entriesOfStep (s : Solver) (reported : Bool) : List (Nat × TraceEvent) :=
  (s.stepStory reported).map fun event => (event.passIn s.iteration, event)

/-- The events of the next `n` steps, each with its pass, for a solver that begins a run. -/
def entries (s : Solver) (n : Nat) : List (Nat × TraceEvent) :=
  Tracer.startEntries s s.memory.size
    ++ (List.range n).flatMap fun k => (s.afterSteps k).entriesOfStep (s.reported k)

theorem entries_succ (s : Solver) (n : Nat) :
  s.entries (n + 1) = s.entries n ++ (s.afterSteps n).entriesOfStep (s.reported n)
  := by
  rw [entries, List.range_succ, List.flatMap_append, List.flatMap_singleton, ← List.append_assoc]
  rfl

/-- Without the passes, this is the story. -/
theorem map_snd_entries (s : Solver) (n : Nat) :
  (s.entries n).map (·.2) = s.story n
  := by
  have step : ∀ k, ((s.afterSteps k).entriesOfStep (s.reported k)).map (·.2)
      = (s.afterSteps k).stepStory (s.reported k) := by
    intro k
    rw [entriesOfStep, List.map_map]
    exact List.map_id _
  rw [entries, story, List.map_append, List.map_flatMap]
  simp only [step]
  rfl

end Solver

namespace Tracer

/-- The tracer that is told of the start of a run and then of its first `n` steps, when the clock
shows the given times. -/
def follow (t : Tracer) (start : Solver) (times : Nat → Nat) : Nat → Tracer
  | 0 => (t.atTime (times 0)).begin start
  | n + 1 => ((t.follow start times n).atTime (times (n + 1))).observe (start.afterSteps (n + 1))
    (start.afterSteps n).step.1

/-- What there is to note of the state `s` of a run. -/
def notesOf (s : Solver) (reported : Bool) : Notes where
  currentPass := s.iteration
  firedInPass := s.firedThisPass
  started := true
  finished := reported

variable {t u : Tracer} {start : Solver} {n : Nat}

/-! ### Agreement -/

/-- A tracer that agrees with the solver infers the turn of the pass from the solver after the
step. -/
theorem turnEntries_notesOf (s : Solver) (reported : Bool) :
  ((notesOf s reported).counted s.step.1).turnEntries s.step.2
    = s.passStory.map fun event => (event.passIn s.iteration, event)
  := by
  have next : s.step.2.step.1.isTerminal = (s.step.2.isTerminal || s.step.2.pending.isEmpty) :=
    s.step.2.isTerminal_step
  change (if s.step.2.iteration = s.iteration then [] else _) = _
  unfold Solver.passStory
  obtain ⟨same, -⟩ | ⟨turned, -⟩ := s.pass_step
  · rw [if_pos same, if_pos same]
    rfl
  · have ends : s.step.2.iteration ≠ s.iteration := by omega
    rw [if_neg ends, if_neg ends, next, turned]
    cases s.step.2.isTerminal || s.step.2.pending.isEmpty <;> rfl

/-- A tracer that agrees with the solver before a step tells the story of the step. -/
theorem stepEntries_notesOf (s : Solver) (reported : Bool) :
  (notesOf s reported).stepEntries s = s.entriesOfStep reported
  := by
  unfold Solver.entriesOfStep
  obtain ⟨e, outcome⟩ | verdict := s.examined_or_verdict
  · have examination : (s.examinationStory e).map (fun event => (event.passIn s.iteration, event))
        = (s.examinationStory e).map fun event => (s.iteration, event) := by
      apply List.map_congr_left
      intro event told
      obtain ⟨boundary, -⟩ := Solver.mem_examinationStory told
      cases event <;> first | rfl | cases boundary
    rw [Solver.stepStory_of_examined outcome, List.map_append, examination, ← turnEntries_notesOf,
      stepEntries_of_examined outcome]
    rfl
  · unfold Notes.stepEntries Solver.stepStory
    cases outcome : s.step.1 with
    | examined e => rw [outcome] at verdict; cases verdict
    | succeeded => cases reported <;> rfl
    | failed d => cases reported <;> rfl

/-- A tracer that agrees with the solver before a step agrees with it after the step. -/
theorem afterStep_notesOf (s : Solver) (reported : Bool) :
  (notesOf s reported).afterStep s = notesOf s.step.2 (reported || s.step.1.isTerminal)
  := by
  unfold Notes.afterStep
  split
  · rename_i verdict
    have position := (Solver.step_of_verdict verdict).1
    have iteration : s.step.2.iteration = s.iteration := congrArg Position.iteration position
    have fired : s.step.2.firedThisPass = s.firedThisPass :=
      congrArg Position.firedThisPass position
    rw [verdict, Bool.or_true, notesOf, notesOf, iteration, fired]
  · rename_i ongoing
    rw [Bool.eq_false_iff.mpr ongoing, Bool.or_false]
    change (if s.step.2.iteration = s.iteration then _ else _) = _
    obtain ⟨same, fired⟩ | ⟨turned, fired⟩ := s.pass_step
    · rw [if_pos same]
      change (⟨s.iteration, s.firedThisPass + _, true, reported⟩ : Notes)
        = ⟨s.step.2.iteration, s.step.2.firedThisPass, true, reported⟩
      rw [same, fired]
    · have ends : s.step.2.iteration ≠ s.iteration := by omega
      rw [if_neg ends]
      change (⟨s.step.2.iteration, 0, true, reported⟩ : Notes)
        = ⟨s.step.2.iteration, s.step.2.firedThisPass, true, reported⟩
      rw [fired]

/-! ### Runs -/

/-- Between `t` and `u` the tracer was told the story of the first `n` steps, with the solver after
which `u` agrees. -/
structure Follows (t : Tracer) (start : Solver) (n : Nat) (u : Tracer) : Prop where
  tells : t.Tells (start.entries n) u
  agrees : u.notes = notesOf (start.afterSteps n) (start.reported n)

/-- A tracer that agrees with the solver before a step tells the story of the step, and agrees
with the solver after it. -/
theorem Follows.observe (follows : t.Follows start n u) (enabled : t.config.enabled = true)
    (time : Nat) :
  t.Follows start (n + 1)
    ((u.atTime time).observe (start.afterSteps (n + 1)) (start.afterSteps n).step.1)
  := by
  obtain ⟨before, agrees⟩ := follows
  have started : u.started = true := congrArg Notes.started agrees
  have clock : u.Tells [] (u.atTime time) := tells_nil rfl rfl
  have notes : (u.atTime time).notes = u.notes := rfl
  obtain ⟨told, notes'⟩ := tells_observe (t := u.atTime time) (before.config ▸ enabled) started
    (start.afterSteps n)
  rw [notes, agrees] at told notes'
  rw [stepEntries_notesOf] at told
  rw [afterStep_notesOf] at notes'
  constructor
  · rw [Solver.entries_succ]
    exact before.append (clock.append told)
  · rw [Solver.reported_succ]
    exact notes'

/-- A tracer that is told of the start of a run and of its steps follows the run. -/
theorem follows_follow (enabled : t.config.enabled = true) (begun : start.firedThisPass = 0)
    (times : Nat → Nat) (n : Nat) :
  t.Follows start n (t.follow start times n)
  := by
  induction n with
  | zero =>
    have clock : t.Tells [] (t.atTime (times 0)) := tells_nil rfl rfl
    obtain ⟨begins, notes⟩ := tells_begin (t := t.atTime (times 0)) enabled start
    constructor
    · exact clock.append begins
    · refine notes.trans ?_
      change _ = notesOf start false
      rw [notesOf, begun]
      rfl
  | succ n ih => exact ih.observe enabled (times (n + 1))

/-- After every step that it is told of, a tracer without a filter has recorded the story so far
and agrees with the solver. -/
theorem records_follow (enabled : t.config.enabled = true) (unfiltered : t.config.filter = [])
    (begun : start.firedThisPass = 0) (times : Nat → Nat) (n : Nat) :
  t.Records (start.story n) (t.follow start times n)
    ∧ (t.follow start times n).notes = notesOf (start.afterSteps n) (start.reported n)
  := by
  obtain ⟨told, agrees⟩ := follows_follow (t := t) enabled begun times n
  have records := told.records unfiltered
  rw [Solver.map_snd_entries] at records
  exact ⟨records, agrees⟩

/-- What a tracer records of a run, in addition to the records that it has, is its story, if it
is enabled, has no filter and drops no record; and the story is faithful. -/
theorem tells_story {registry : Registry} {inputs : List FactId} {rules : List Rule}
    {config : SolverConfig} (created : Solver.create registry inputs rules config = .ok start)
    (t : Tracer) (times : Nat → Nat) (n : Nat) (enabled : t.config.enabled = true)
    (unfiltered : t.config.filter = [])
    (room : t.buffer.records.length + (start.story n).length ≤ t.buffer.maxSize) :
  (∃ added, (t.follow start times n).buffer.records = t.buffer.records ++ added
      ∧ added.map (·.event) = start.story n)
    ∧ Solver.FaithfulStory inputs rules start n (start.story n)
  := by
  have begun : start.firedThisPass = 0 := by
    obtain ⟨-, -, rfl⟩ := (Solver.create_eq_ok_iff ..).mp created
    rfl
  have records := (records_follow enabled unfiltered begun times n).1
  exact ⟨(records.added room).2, Solver.faithful_story created n⟩

/-! ### A chain that is said -/

/-- The solver for the chain with the input A, which says the name of B when it concludes B. -/
def talkingChain : Solver :=
  .initial (Solver.chainRegistry.setEffect (Solver.chainFact 1) (some .sayName))
    [Solver.chainFact 0] Solver.chainRules {}

/-- What there is to tell of nine steps of the talking chain, of which the last three report the
deadlock. -/
def talkingStory : List TraceEvent :=
  [.runStart 3 1, .passStart 0, .ruleExamined ⟨0⟩ false, .ruleExamined ⟨1⟩ false,
    .ruleExamined ⟨2⟩ true, .ruleFired ⟨2⟩, .effectPerformed (Solver.chainFact 1) 1,
    .factAsserted (Solver.chainFact 1) ⟨2⟩, .passEnd 0 1, .passStart 1, .ruleExamined ⟨0⟩ false,
    .ruleExamined ⟨1⟩ true, .ruleFired ⟨1⟩, .factAsserted (Solver.chainFact 2) ⟨1⟩, .passEnd 1 1,
    .passStart 2, .ruleExamined ⟨0⟩ false, .passEnd 2 0, .runFailed [⟨0⟩]]

/-- A tracer of the default size has room for the story of the talking chain. -/
theorem tells_story_talkingChain :
  talkingChain.story 9 = talkingStory
    ∧ (∃ added, ((create { enabled := true }).follow talkingChain id 9).buffer.records
        = (create { enabled := true }).buffer.records ++ added
      ∧ added.map (·.event) = talkingChain.story 9)
    ∧ Solver.FaithfulStory [Solver.chainFact 0] Solver.chainRules talkingChain 9
      (talkingChain.story 9)
  := by
  have story : talkingChain.story 9 = talkingStory := by
    decide +kernel
  have created : Solver.create
      (Solver.chainRegistry.setEffect (Solver.chainFact 1) (some .sayName))
      [Solver.chainFact 0] Solver.chainRules {} = .ok talkingChain := rfl
  have room : (create { enabled := true }).buffer.records.length + (talkingChain.story 9).length
      ≤ (create { enabled := true }).buffer.maxSize := by
    rw [story]
    decide
  use story
  exact tells_story created _ id 9 rfl rfl room

end Tracer

end ForwardChaining
