import ForwardChaining.Proofs.Trace.Recording
import ForwardChaining.Proofs.Trace.Story

/-!
# What a tracer tells

What a tracer tells of a step, and under which pass, depends on the step and on what it has noted
of the run before, and on nothing else.  The same is true of what it notes then.  So a tracer is a
small machine whose states are its notes (`Tracer.Notes.stepEntries`, `Tracer.Notes.afterStep`),
and a buffer to which that machine writes (`Tracer.tells_observe`), and with it an output that it
writes lines to (`Tracer.streams_observe`).
-/

namespace ForwardChaining

namespace Tracer

/-! ### Notes and what they lead to -/

/-- The notes with a rule counted, if the outcome is that it fired. -/
def Notes.counted (ν : Notes) (o : Outcome) : Notes :=
  { ν with firedInPass := ν.firedInPass + o.fired.length }

/-- What is told of the turn of the pass when a step has led to `after`. -/
def Notes.turnEntries (ν : Notes) (after : Solver) : List (Nat × TraceEvent) :=
  if after.iteration = ν.currentPass then []
  else
    (ν.currentPass, .passEnd ν.currentPass ν.firedInPass) ::
      if after.isTerminal || after.pending.isEmpty then []
      else [(after.iteration, .passStart after.iteration)]

/-- The notes when the pass has been turned, if a step to `after` turns it. -/
def Notes.turned (ν : Notes) (after : Solver) : Notes :=
  if after.iteration = ν.currentPass then ν
  else { ν with currentPass := after.iteration, firedInPass := 0 }

/-- What is told of the next step of `s`. -/
def Notes.stepEntries (ν : Notes) (s : Solver) : List (Nat × TraceEvent) :=
  match s.step.1 with
  | .examined e =>
    (s.examinationStory e).map (fun event => (ν.currentPass, event))
      ++ (ν.counted s.step.1).turnEntries s.step.2
  | .succeeded => if ν.finished then [] else [(ν.currentPass, .runSucceeded s.step.2.steps)]
  | .failed d => if ν.finished then [] else [(ν.currentPass, .runFailed d.unsatisfied)]

/-- The notes after the next step of `s`. -/
def Notes.afterStep (ν : Notes) (s : Solver) : Notes :=
  if s.step.1.isTerminal then { ν with finished := true }
  else (ν.counted s.step.1).turned s.step.2

/-- What is told of an outcome that led to the state `after`. -/
def Notes.outcomeEntries (ν : Notes) (after : Solver) : Outcome → List (Nat × TraceEvent)
  | .examined e =>
    (examinationEvents after e).map (fun event => (ν.currentPass, event))
      ++ (ν.counted (.examined e)).turnEntries after
  | .succeeded => if ν.finished then [] else [(ν.currentPass, .runSucceeded after.steps)]
  | .failed d => if ν.finished then [] else [(ν.currentPass, .runFailed d.unsatisfied)]

/-- The notes after an outcome that led to the state `after`. -/
def Notes.afterOutcome (ν : Notes) (after : Solver) (o : Outcome) : Notes :=
  if o.isTerminal then { ν with finished := true } else (ν.counted o).turned after

/-- The notes at the start of a run. -/
def Notes.starting (s : Solver) : Notes where
  currentPass := s.iteration
  firedInPass := 0
  started := true
  finished := false

/-- What is told of the start of a run with so many facts in memory. -/
def startEntries (s : Solver) (inputs : Nat) : List (Nat × TraceEvent) :=
  [(s.iteration, .runStart s.rules.size inputs), (s.iteration, .passStart s.iteration)]

variable {t : Tracer} {s : Solver} {e : Examination}

/-! ### Examinations -/

theorem assertionEvents_eq (s : Solver) (rule : RuleId) (fact : FactId) :
  assertionEvents s rule fact = s.registry.assertionStory rule fact
  := by
  unfold assertionEvents Registry.assertionStory Registry.perform
  cases s.registry.fact? fact with
  | none => rfl
  | some f =>
    cases effect : f.effect with
    | none => simp [effect, Option.filter]
    | some effect' => simp [effect, Option.filter, Fact.perform]

/-- The tracer is told of the conclusions of the rule that it is told of. -/
theorem examinationEvents_eq (outcome : s.step.1 = .examined e) :
  examinationEvents s.step.2 e = s.examinationStory e
  := by
  have registry : s.step.2.registry = s.registry := congrArg Solver.Problem.registry s.problem_step
  unfold examinationEvents Solver.examinationStory
  obtain ⟨performing, asserted, -⟩ | ⟨performing, -, -⟩ := Solver.step_eq_of_examined outcome
  · have told : assertionEvents s.step.2 e.rule = s.registry.assertionStory e.rule := by
      funext fact
      rw [assertionEvents_eq, registry]
    rw [performing, asserted, told]
    rfl
  · rw [performing]
    rfl

/-! ### What is told of a step -/

theorem stepEntries_of_examined {ν : Notes} (outcome : s.step.1 = .examined e) :
  ν.stepEntries s = (s.examinationStory e).map (fun event => (ν.currentPass, event))
    ++ (ν.counted s.step.1).turnEntries s.step.2
  := by
  unfold Notes.stepEntries
  split
  · rename_i same
    rw [outcome] at same
    cases same
    rfl
  · rename_i other
    rw [outcome] at other
    cases other
  · rename_i other
    rw [outcome] at other
    cases other

/-- What is told of a step is what is told of its outcome. -/
theorem stepEntries_eq (ν : Notes) (s : Solver) :
  ν.stepEntries s = ν.outcomeEntries s.step.2 s.step.1
  := by
  cases outcome : s.step.1 with
  | examined e =>
    rw [stepEntries_of_examined outcome, ← examinationEvents_eq outcome, outcome]
    rfl
  | succeeded =>
    rw [Notes.stepEntries, outcome]
    rfl
  | failed d =>
    rw [Notes.stepEntries, outcome]
    rfl

/-- A verdict is told under the pass that is noted, unless it has been told. -/
theorem stepEntries_of_verdict (verdict : s.step.1.isTerminal = true) (ν : Notes) :
  ν.stepEntries s = (s.stepStory ν.finished).map fun event => (ν.currentPass, event)
  := by
  unfold Notes.stepEntries Solver.stepStory
  cases outcome : s.step.1 with
  | examined e => rw [outcome] at verdict; cases verdict
  | succeeded => cases ν.finished <;> rfl
  | failed d => cases ν.finished <;> rfl

theorem mem_turnEntries {ν : Notes} {after : Solver} {entry : Nat × TraceEvent}
    (member : entry ∈ ν.turnEntries after) :
  (entry = (ν.currentPass, .passEnd ν.currentPass ν.firedInPass)
      ∧ after.iteration ≠ ν.currentPass)
    ∨ entry = (after.iteration, .passStart after.iteration)
  := by
  unfold Notes.turnEntries at member
  split at member
  · cases member
  · rename_i other
    obtain rfl | member := List.mem_cons.mp member
    · left
      exact ⟨rfl, other⟩
    · right
      split at member
      · cases member
      · exact List.mem_singleton.mp member

/-- What is told of a step, and under which pass. -/
theorem mem_stepEntries {ν : Notes} {entry : Nat × TraceEvent} (member : entry ∈ ν.stepEntries s) :
  (entry.1 = ν.currentPass ∧ entry.2.isPassBoundary = false)
    ∨ (entry = (ν.currentPass,
        .passEnd ν.currentPass (ν.firedInPass + s.step.1.fired.length))
      ∧ s.step.2.iteration ≠ ν.currentPass)
    ∨ entry = (s.step.2.iteration, .passStart s.step.2.iteration)
  := by
  obtain ⟨e, outcome⟩ | verdict := s.examined_or_verdict
  · rw [stepEntries_of_examined outcome] at member
    obtain examined | turned := List.mem_append.mp member
    · obtain ⟨event, told, rfl⟩ := List.mem_map.mp examined
      left
      exact ⟨rfl, (Solver.mem_examinationStory told).1⟩
    · right
      exact mem_turnEntries turned
  · rw [stepEntries_of_verdict verdict] at member
    obtain ⟨event, told, rfl⟩ := List.mem_map.mp member
    obtain ⟨event', terminal, story⟩ := Solver.stepStory_of_verdict verdict ν.finished
    rw [story] at told
    left
    use rfl
    split at told
    · cases told
    · obtain rfl := List.mem_singleton.mp told
      cases event <;> first | rfl | cases terminal

/-- A step that examines a rule does not tell of the end of the run. -/
theorem isTerminal_of_mem_stepEntries {ν : Notes} {entry : Nat × TraceEvent}
    (outcome : s.step.1 = .examined e) (member : entry ∈ ν.stepEntries s) :
  entry.2.isTerminal = false
  := by
  rw [stepEntries_of_examined outcome] at member
  obtain examined | turned := List.mem_append.mp member
  · obtain ⟨event, told, rfl⟩ := List.mem_map.mp examined
    exact (Solver.mem_examinationStory told).2
  · obtain ⟨rfl, -⟩ | rfl := mem_turnEntries turned
    · rfl
    · rfl

/-- The end of a pass that is told of a step is that of the pass that is noted. -/
theorem passEnd_of_mem_stepEntries {ν : Notes} {pass ended fired : Nat}
    (member : (pass, .passEnd ended fired) ∈ ν.stepEntries s) :
  ended = ν.currentPass ∧ fired = ν.firedInPass + s.step.1.fired.length
    ∧ s.step.2.iteration ≠ ν.currentPass
  := by
  obtain ⟨-, inside⟩ | ⟨same, other⟩ | begun := mem_stepEntries member
  · cases inside
  · cases same
    exact ⟨rfl, rfl, other⟩
  · cases begun

/-! ### What is noted after a step -/

theorem afterStep_of_examined (ν : Notes) (outcome : s.step.1 = .examined e) :
  ν.afterStep s = (ν.counted s.step.1).turned s.step.2
  := by
  rw [Notes.afterStep, outcome]
  rfl

theorem afterStep_of_verdict (ν : Notes) (verdict : s.step.1.isTerminal = true) :
  ν.afterStep s = { ν with finished := true }
  := if_pos verdict

theorem started_afterStep (ν : Notes) (s : Solver) :
  (ν.afterStep s).started = ν.started
  := by
  unfold Notes.afterStep Notes.turned
  split
  · rfl
  · split <;> rfl

theorem finished_afterStep (ν : Notes) (s : Solver) :
  (ν.afterStep s).finished = (ν.finished || s.step.1.isTerminal)
  := by
  unfold Notes.afterStep Notes.turned
  split
  · rename_i verdict
    rw [verdict, Bool.or_true]
  · rename_i ongoing
    rw [Bool.eq_false_iff.mpr ongoing, Bool.or_false]
    split <;> rfl

theorem currentPass_afterStep (ν : Notes) (outcome : s.step.1 = .examined e) :
  (ν.afterStep s).currentPass = s.step.2.iteration
  := by
  rw [afterStep_of_examined ν outcome, Notes.turned]
  split
  · rename_i same
    exact same.symm
  · rfl

theorem firedInPass_afterStep (ν : Notes) (outcome : s.step.1 = .examined e) :
  (ν.afterStep s).firedInPass
    = if s.step.2.iteration = ν.currentPass then ν.firedInPass + s.step.1.fired.length else 0
  := by
  rw [afterStep_of_examined ν outcome, Notes.turned]
  change (if s.step.2.iteration = ν.currentPass then _ else _ : Notes).firedInPass = _
  split <;> rfl

/-! ### The turn of a pass and the end of the run -/

theorem streams_turnPass (t : Tracer) (after : Solver) :
  t.Streams (some after.registry) (t.notes.turnEntries after) (t.turnPass after)
    ∧ (t.turnPass after).notes = t.notes.turned after
  := by
  have pass : t.notes.currentPass = t.currentPass := rfl
  unfold turnPass Notes.turnEntries Notes.turned
  rw [pass]
  split
  · exact ⟨streams_nil rfl rfl rfl rfl, rfl⟩
  · have ended := t.streams_emit (some after.registry) (.passEnd t.currentPass t.firedInPass)
    have turned := ended.append (streams_nil (u := { t.emit (some after.registry)
      (.passEnd t.currentPass t.firedInPass) with
        currentPass := after.iteration, firedInPass := 0 }) rfl rfl rfl rfl)
    have notes := t.notes_emit (some after.registry) (.passEnd t.currentPass t.firedInPass)
    split
    · constructor
      · exact turned
      · rw [← notes]
        rfl
    · constructor
      · exact turned.append (streams_emit _ _ _)
      · rw [notes_emit, ← notes]
        rfl

/-- The end of the run is told unless it has been. -/
theorem streams_finish (t : Tracer) (s : Solver) (event : TraceEvent) :
  t.Streams (some s.registry) (if t.notes.finished then [] else [(t.notes.currentPass, event)])
      (t.finish s event)
    ∧ (t.finish s event).notes = { t.notes with finished := true }
  := by
  have flag : t.notes.finished = t.finished := rfl
  unfold finish
  rw [flag]
  split
  · rename_i finished
    constructor
    · exact streams_nil rfl rfl rfl rfl
    · rw [← finished]
      rfl
  · have told := streams_emit { t with finished := true } (some s.registry) event
    constructor
    · exact told.of_noted rfl rfl rfl rfl
    · exact notes_emit _ _ _

/-! ### Steps -/

/-- Whatever outcome a tracer is told, what it tells of it depends on the outcome, on the state to
which the outcome led and on what the tracer has noted before. -/
theorem streams_outcome (t : Tracer) (after : Solver) (o : Outcome) :
  t.Streams (some after.registry) (t.notes.outcomeEntries after o) (t.observeStarted after o)
    ∧ (t.observeStarted after o).notes = t.notes.afterOutcome after o
  := by
  cases o with
  | examined e =>
    have fired : (if e.performing then t.firedInPass + 1 else t.firedInPass)
        = t.firedInPass + (Outcome.examined e).fired.length := by
      change _ = t.firedInPass + (if e.performing then [e.rule] else []).length
      split <;> rfl
    -- the rule is counted before it is told that it fired
    obtain ⟨u, noted, counted, observed⟩ : ∃ u : Tracer,
        t.Streams (some after.registry) [] u ∧ u.notes = t.notes.counted (.examined e)
          ∧ t.observeStarted after (.examined e)
            = (u.emitAll after.registry (examinationEvents after e)).turnPass after := by
      use { t with firedInPass := t.firedInPass + (Outcome.examined e).fired.length }
      refine ⟨streams_nil rfl rfl rfl rfl, rfl, ?_⟩
      rw [← fired, observeStarted]
    have pass : u.currentPass = t.currentPass := congrArg Notes.currentPass counted
    have examined :=
      noted.append (u.streams_emitAll after.registry (examinationEvents after e))
    obtain ⟨turned, notes⟩ :=
      (u.emitAll after.registry (examinationEvents after e)).streams_turnPass after
    rw [notes_emitAll, counted] at turned notes
    rw [pass] at examined
    rw [observed]
    exact ⟨examined.append turned, notes⟩
  | succeeded => exact t.streams_finish after _
  | failed d => exact t.streams_finish after _

/-- What a tracer tells of a step depends on the step and on what the tracer has noted before. -/
theorem streams_observeStarted (t : Tracer) (s : Solver) :
  t.Streams (some s.registry) (t.notes.stepEntries s) (t.observeStarted s.step.2 s.step.1)
    ∧ (t.observeStarted s.step.2 s.step.1).notes = t.notes.afterStep s
  := by
  have registry : s.step.2.registry = s.registry := congrArg Solver.Problem.registry s.problem_step
  rw [← registry, stepEntries_eq]
  exact t.streams_outcome s.step.2 s.step.1

/-- A tracer that has been told of the start of the run tells of a step by its notes. -/
theorem streams_observe (enabled : t.config.enabled = true) (started : t.started = true)
    (s : Solver) :
  t.Streams (some s.registry) (t.notes.stepEntries s) (t.observe s.step.2 s.step.1)
    ∧ (t.observe s.step.2 s.step.1).notes = t.notes.afterStep s
  := by
  rw [observe, if_pos enabled]
  dsimp only
  rw [if_pos started]
  exact t.streams_observeStarted s

theorem tells_observe (enabled : t.config.enabled = true) (started : t.started = true)
    (s : Solver) :
  t.Tells (t.notes.stepEntries s) (t.observe s.step.2 s.step.1)
    ∧ (t.observe s.step.2 s.step.1).notes = t.notes.afterStep s
  := by
  obtain ⟨streams, notes⟩ := streams_observe enabled started s
  exact ⟨streams.tells, notes⟩

/-- A tracer that is not enabled is told nothing. -/
theorem observe_of_disabled (disabled : t.config.enabled = false) (after : Solver) (o : Outcome) :
  t.observe after o = t
  := by
  rw [observe, disabled]
  rfl

/-! ### Starts and rewinds -/

theorem streams_start (t : Tracer) (s : Solver) (inputs : Nat) :
  t.Streams (some s.registry) (startEntries s inputs) (t.start s inputs)
    ∧ (t.start s inputs).notes = Notes.starting s
  := by
  have told := streams_emitAll { t with
    started := true, finished := false, currentPass := s.iteration, firedInPass := 0 } s.registry
    [.runStart s.rules.size inputs, .passStart s.iteration]
  constructor
  · exact told.of_noted rfl rfl rfl rfl
  · exact notes_emitAll _ _ _

theorem streams_begin (enabled : t.config.enabled = true) (s : Solver) :
  t.Streams (some s.registry) (startEntries s s.memory.size) (t.begin s)
    ∧ (t.begin s).notes = Notes.starting s
  := by
  rw [begin, if_pos enabled]
  exact t.streams_start s s.memory.size

theorem tells_begin (enabled : t.config.enabled = true) (s : Solver) :
  t.Tells (startEntries s s.memory.size) (t.begin s) ∧ (t.begin s).notes = Notes.starting s
  := by
  obtain ⟨streams, notes⟩ := streams_begin enabled s
  exact ⟨streams.tells, notes⟩

/-- A tracer that has not been told of the start of the run takes the state after its first step
for the one before it, except for the memory. -/
theorem streams_observe_first (enabled : t.config.enabled = true) (started : t.started = false)
    (s : Solver) :
  t.Streams (some s.registry)
      (startEntries s.step.2 s.memory.size ++ (Notes.starting s.step.2).stepEntries s)
      (t.observe s.step.2 s.step.1)
    ∧ (t.observe s.step.2 s.step.1).notes = (Notes.starting s.step.2).afterStep s
  := by
  have asserted : s.step.1.examination?.elim 0 (·.asserted.length) = s.step.1.asserted.length := by
    cases s.step.1 <;> rfl
  have grown : s.step.2.memory.size = s.memory.size + s.step.1.asserted.length := by
    rw [WorkingMemory.size, ← Log.length_toList, s.memory_step]
    change (s.memory.assertAll s.step.1.asserted).sequence.length = _
    rw [WorkingMemory.sequence_assertAll, List.length_append]
    exact congrArg (· + _) (Log.length_toList _)
  have inputs : s.step.2.memory.size - s.step.1.examination?.elim 0 (·.asserted.length)
      = s.memory.size := by
    rw [asserted, grown, Nat.add_sub_cancel]
  have registry : s.step.2.registry = s.registry := congrArg Solver.Problem.registry s.problem_step
  obtain ⟨begun, notes⟩ := t.streams_start s.step.2 s.memory.size
  obtain ⟨told, notes'⟩ := (t.start s.step.2 s.memory.size).streams_observeStarted s
  rw [notes] at told notes'
  rw [registry] at begun
  have observed : t.observe s.step.2 s.step.1
      = (t.start s.step.2 s.memory.size).observeStarted s.step.2 s.step.1 := by
    rw [observe, if_pos enabled]
    dsimp only
    rw [started, inputs]
    rfl
  rw [observed]
  exact ⟨begun.append told, notes'⟩

theorem tells_observe_first (enabled : t.config.enabled = true) (started : t.started = false)
    (s : Solver) :
  t.Tells (startEntries s.step.2 s.memory.size ++ (Notes.starting s.step.2).stepEntries s)
      (t.observe s.step.2 s.step.1)
    ∧ (t.observe s.step.2 s.step.1).notes = (Notes.starting s.step.2).afterStep s
  := by
  obtain ⟨streams, notes⟩ := streams_observe_first enabled started s
  exact ⟨streams.tells, notes⟩

/-- The notes when the solver has been rewound to the state `s`. -/
def Notes.rewound (ν : Notes) (s : Solver) : Notes :=
  { ν with currentPass := s.iteration, firedInPass := 0, finished := s.isTerminal }

/-- What an enabled tracer tells when the solver has been rewound to the state `s` after `step`. -/
def rewindEntries (s : Solver) (step : Nat) : List (Nat × TraceEvent) :=
  [(s.iteration, .custom "rewind" ("step " ++ toString step))]

/-- A tracer notes a rewind whether it is enabled or not; its line is written without a registry. -/
theorem streams_rewound (t : Tracer) (s : Solver) (step : Nat) :
  t.Streams none (if t.config.enabled then rewindEntries s step else []) (t.rewound s step)
    ∧ (t.rewound s step).notes = t.notes.rewound s
  := by
  have told := streams_emit { t with
    currentPass := s.iteration, firedInPass := 0, finished := s.isTerminal } none
    (.custom "rewind" ("step " ++ toString step))
  unfold rewound record
  dsimp only
  split
  · constructor
    · exact told.of_noted rfl rfl rfl rfl
    · exact notes_emit _ _ _
  · exact ⟨streams_nil rfl rfl rfl rfl, rfl⟩

theorem tells_rewound (t : Tracer) (s : Solver) (step : Nat) :
  t.Tells (if t.config.enabled then rewindEntries s step else []) (t.rewound s step)
    ∧ (t.rewound s step).notes = t.notes.rewound s
  := by
  obtain ⟨streams, notes⟩ := t.streams_rewound s step
  exact ⟨streams.tells, notes⟩

end Tracer

end ForwardChaining
