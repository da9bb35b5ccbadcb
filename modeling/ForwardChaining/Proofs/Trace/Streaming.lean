import ForwardChaining.Proofs.Solver.Chronicle
import ForwardChaining.Proofs.Trace.Telling
import ForwardChaining.Session.Basic

/-!
# The lines of a session

A tracer that is told of the stages of a run writes a line for each record that it makes of them
(`Tracer.streams_observeAll`).  So does the tracer of a session, whatever the command
(`Session.written_perform`); only the line of a rewind is written without a registry.  All commands
leave the output and the size of the buffer as they are, and the registry of the solver
(`Session.Attends.perform`).
-/

namespace ForwardChaining

/-- The entries by which a log has grown. -/
theorem Log.since_of_toList {α : Type} {before after : Log α} {entries : List α}
    (grown : after.toList = before.toList ++ entries) :
  after.since before = entries
  := by
  have size : after.size = before.size + entries.length := by
    rw [← length_toList, grown, List.length_append, length_toList]
  have old : after.size - (after.size - before.size) = before.toList.length := by
    rw [length_toList]
    omega
  rw [since, latest_eq, old, grown, List.drop_left]

namespace Tracer

/-! ### Runs -/

/-- What is told of the next step of `s`, and before it of the start of the run, if that has not
been told. -/
def Notes.observeEntries (ν : Notes) (s : Solver) : List (Nat × TraceEvent) :=
  if ν.started then ν.stepEntries s
  else startEntries s.step.2 s.memory.size ++ (Notes.starting s.step.2).stepEntries s

/-- The notes after the next step of `s`, and after the start of the run, if that was not told. -/
def Notes.afterObserve (ν : Notes) (s : Solver) : Notes :=
  if ν.started then ν.afterStep s else (Notes.starting s.step.2).afterStep s

/-- What is told of the next `n` steps of `s`. -/
def Notes.runEntries (ν : Notes) (s : Solver) : Nat → List (Nat × TraceEvent)
  | 0 => []
  | n + 1 => ν.observeEntries s ++ (ν.afterObserve s).runEntries s.step.2 n

variable {t : Tracer} {s : Solver}

theorem streams_observe_any (enabled : t.config.enabled = true) (s : Solver) :
  t.Streams (some s.registry) (t.notes.observeEntries s) (t.observe s.step.2 s.step.1)
    ∧ (t.observe s.step.2 s.step.1).notes = t.notes.afterObserve s
  := by
  have flag : t.notes.started = t.started := rfl
  unfold Notes.observeEntries Notes.afterObserve
  rw [flag]
  cases started : t.started with
  | true => exact streams_observe enabled started s
  | false => exact streams_observe_first enabled started s

/-- A tracer that is told of the stages of a run writes a line for each record of them. -/
theorem streams_observeAll (enabled : t.config.enabled = true) (s : Solver)
    (stop : Solver → Bool) :
  t.Streams (some s.registry) (t.notes.runEntries s (s.stagesUntil stop).length)
    (t.observeAll (s.stagesUntil stop))
  := by
  revert t
  apply Solver.stagesUntil_induction (P := fun s stages => ∀ {t : Tracer},
    t.config.enabled = true → t.Streams (some s.registry) (t.notes.runEntries s stages.length)
      (t.observeAll stages))
  · intro s _ t enabled
    change t.Streams _ (t.notes.observeEntries s ++ []) (t.observe s.step.2 s.step.1)
    rw [List.append_nil]
    exact (streams_observe_any enabled s).1
  · intro s _ ih t enabled
    obtain ⟨first, notes⟩ := streams_observe_any enabled s
    have rest := ih (first.config ▸ enabled)
    have registry : s.step.2.registry = s.registry :=
      congrArg Solver.Problem.registry s.problem_step
    rw [registry, notes] at rest
    exact first.append rest

theorem observeAll_of_disabled (disabled : t.config.enabled = false) (stages : List Stage) :
  t.observeAll stages = t
  := by
  induction stages with
  | nil => rfl
  | cons stage stages ih =>
    change (t.observe stage.after stage.outcome).observeAll stages = t
    rw [observe_of_disabled disabled, ih]

theorem config_observeAll (t : Tracer) (s : Solver) (stop : Solver → Bool) :
  (t.observeAll (s.stagesUntil stop)).config = t.config
  := by
  cases enabled : t.config.enabled with
  | true => exact (streams_observeAll enabled s stop).config
  | false => rw [observeAll_of_disabled enabled]

end Tracer

namespace Session

variable {s : Session} {registry : Registry} {n : Nat}

/-! ### Commands -/

/-- What there is to tell of a command, and under which passes. -/
def told (s : Session) : Command → List (Nat × TraceEvent)
  | .step => s.tracer.notes.runEntries s.solver 1
  | .iterate => s.tracer.notes.runEntries s.solver s.solver.passStages.length
  | .run => s.tracer.notes.runEntries s.solver s.solver.stages.length
  | .rewind step =>
    match s.solver.rewind step with
    | .ok restored => Tracer.rewindEntries restored step
    | .error _ => []
  | _ => []

/-- The records that are made when a command is carried out. -/
def recorded (s : Session) (command : Command) : List TraceRecord :=
  if s.tracer.config.enabled then s.tracer.recordsOf (s.told command) else []

/-- The registry that is at hand when lines are written for a command: there is none at a
rewind. -/
def atHand (s : Session) : Command → Option Registry
  | .rewind _ => none
  | _ => some s.solver.registry

/-- The settings of the tracer after a command. -/
def settingsAfter (c : TracerConfig) : Command → TracerConfig
  | .trace (.setEnabled enabled) => { c with enabled := enabled }
  | .trace (.setJson json) => { c with json := json }
  | _ => c

/-- What a command makes of a session. -/
inductive Becomes (s : Session) (command : Command) (after : Session) : Prop where
  /-- Stages of the run are taken up. -/
  | follow (stop : Solver → Bool)
      (solver : after.solver = s.solver.afterStages (s.solver.stagesUntil stop))
      (tracer : after.tracer = s.tracer.observeAll (s.solver.stagesUntil stop))
      (told : s.told command
        = s.tracer.notes.runEntries s.solver (s.solver.stagesUntil stop).length)
      (atHand : s.atHand command = some s.solver.registry)
      (settings : settingsAfter s.tracer.config command = s.tracer.config)
  /-- The solver is rewound. -/
  | rewind (step : Nat) (restored : Solver) (rewound : s.solver.rewind step = .ok restored)
      (same : command = .rewind step) (solver : after.solver = restored)
      (tracer : after.tracer = s.tracer.rewound restored step)
  /-- Nothing is told to the tracer. -/
  | idle (told : s.told command = []) (solver : after.solver = s.solver)
      (config : after.tracer.config = settingsAfter s.tracer.config command)
      (written : after.tracer.written = s.tracer.written)
      (buffer : command ≠ .trace .clear → after.tracer.buffer = s.tracer.buffer)
      (maxSize : after.tracer.buffer.maxSize = s.tracer.buffer.maxSize)

theorem becomes_perform (s : Session) (command : Command) :
  s.Becomes command (s.perform command).1
  := by
  cases command with
  | step =>
    have one : s.solver.stagesUntil (fun _ => true) = [⟨s.solver.step.1, s.solver.step.2⟩] := by
      rw [Solver.stagesUntil_eq, if_pos (Bool.or_true _)]
    apply Becomes.follow fun _ => true
    · rw [one]
      rfl
    · rw [one]
      rfl
    · rw [one]
      rfl
    · rfl
    · rfl
  | iterate => exact .follow _ rfl rfl rfl rfl rfl
  | run => exact .follow _ rfl rfl rfl rfl rfl
  | rewind n =>
    cases rewound : s.solver.rewind n with
    | ok restored =>
      have performed : (s.perform (.rewind n)).1
          = { s with solver := restored, tracer := s.tracer.rewound restored n } := by
        simp only [perform, rewind, rewound]
      rw [performed]
      exact .rewind n restored rewound rfl rfl rfl
    | error e =>
      have performed : (s.perform (.rewind n)).1 = s := by
        simp only [perform, rewind, rewound]
      have silent : s.told (.rewind n) = [] := by
        simp only [told, rewound]
      rw [performed]
      exact .idle silent rfl rfl rfl (fun _ => rfl) rfl
  | trace command =>
    cases command with
    | clear => exact .idle rfl rfl rfl rfl (fun other => absurd rfl other) rfl
    | status => exact .idle rfl rfl rfl rfl (fun _ => rfl) rfl
    | setEnabled enabled => exact .idle rfl rfl rfl rfl (fun _ => rfl) rfl
    | setJson json => exact .idle rfl rfl rfl rfl (fun _ => rfl) rfl
    | showLatest count => exact .idle rfl rfl rfl rfl (fun _ => rfl) rfl
  | memory => exact .idle rfl rfl rfl rfl (fun _ => rfl) rfl
  | rules => exact .idle rfl rfl rfl rfl (fun _ => rfl) rfl
  | pending => exact .idle rfl rfl rfl rfl (fun _ => rfl) rfl
  | history => exact .idle rfl rfl rfl rfl (fun _ => rfl) rfl
  | whyBlocked => exact .idle rfl rfl rfl rfl (fun _ => rfl) rfl
  | whyFact name => exact .idle rfl rfl rfl rfl (fun _ => rfl) rfl
  | save path => exact .idle rfl rfl rfl rfl (fun _ => rfl) rfl
  | help => exact .idle rfl rfl rfl rfl (fun _ => rfl) rfl

/-! ### What commands leave as it is -/

variable {command : Command}

theorem config_perform (s : Session) (command : Command) :
  (s.perform command).1.tracer.config = settingsAfter s.tracer.config command
  := by
  cases s.becomes_perform command with
  | follow stop solver tracer told atHand settings =>
    rw [tracer, Tracer.config_observeAll, settings]
  | rewind step restored rewound same solver tracer =>
    rw [tracer, same]
    exact (s.tracer.streams_rewound restored step).1.config
  | idle told solver config written buffer maxSize => exact config

theorem registry_perform (s : Session) (command : Command) :
  (s.perform command).1.solver.registry = s.solver.registry
  := by
  cases s.becomes_perform command with
  | follow stop solver tracer told atHand settings =>
    rw [solver, Solver.afterStages_stagesUntil]
    exact congrArg Solver.Problem.registry (s.solver.problem_afterSteps _)
  | rewind step restored rewound same solver tracer =>
    obtain ⟨σ, -, rfl⟩ := Solver.rewind_eq_ok_iff.mp rewound
    rw [solver]
    rfl
  | idle told solver config written buffer maxSize => rw [solver]

/-! ### Lines -/

/-- Between the session `s` and the tracer `u`, the records of the command were made and a line was
written for each. -/
structure Writes (s : Session) (command : Command) (u : Tracer) : Prop where
  makes : s.tracer.Makes (s.recorded command) u
  written : s.tracer.config.output ≠ .none → 0 < s.tracer.buffer.maxSize →
    u.written.toList = s.tracer.written.toList ++ (s.recorded command).map fun r =>
      (s.tracer.config.output, s.tracer.lineFor (s.atHand command) r)

theorem writes_of_streams {u : Tracer} (enabled : s.tracer.config.enabled = true)
    (streams : s.tracer.Streams (s.atHand command) (s.told command) u) :
  s.Writes command u
  := by
  have recorded : s.recorded command = s.tracer.recordsOf (s.told command) := if_pos enabled
  constructor
  · rw [recorded]
    exact streams.makes
  · rw [recorded]
    exact streams.written

theorem writes_of_disabled (disabled : s.tracer.config.enabled = false) {u : Tracer}
    (buffer : u.buffer = s.tracer.buffer) (written : u.written = s.tracer.written) :
  s.Writes command u
  := by
  have none : s.recorded command = [] := by
    rw [recorded, disabled]
    rfl
  constructor
  · rw [none]
    exact Tracer.makes_nil buffer
  · intro _ _
    rw [none, written]
    exact (List.append_nil _).symm

theorem writes_follow {stop : Solver → Bool}
    (told : s.told command = s.tracer.notes.runEntries s.solver (s.solver.stagesUntil stop).length)
    (atHand : s.atHand command = some s.solver.registry) :
  s.Writes command (s.tracer.observeAll (s.solver.stagesUntil stop))
  := by
  cases enabled : s.tracer.config.enabled with
  | true =>
    apply writes_of_streams enabled
    rw [told, atHand]
    exact Tracer.streams_observeAll enabled s.solver stop
  | false =>
    rw [Tracer.observeAll_of_disabled enabled]
    exact writes_of_disabled enabled rfl rfl

theorem told_rewind {restored : Solver} (rewound : s.solver.rewind n = .ok restored) :
  s.told (.rewind n) = Tracer.rewindEntries restored n
  := by
  simp only [told, rewound]

theorem writes_rewind {restored : Solver} (rewound : s.solver.rewind n = .ok restored) :
  s.Writes (.rewind n) (s.tracer.rewound restored n)
  := by
  have streams := (s.tracer.streams_rewound restored n).1
  cases enabled : s.tracer.config.enabled with
  | true =>
    rw [if_pos enabled, ← told_rewind rewound] at streams
    exact writes_of_streams enabled streams
  | false =>
    rw [Tracer.rewound, Tracer.record]
    dsimp only
    rw [enabled]
    exact writes_of_disabled enabled rfl rfl

theorem recorded_of_silent (silent : s.told command = []) :
  s.recorded command = []
  := by
  rw [recorded, silent]
  split <;> rfl

/-- Whatever the command, a line is written for each record that is made, in order; and the records
are made, unless all are to be cleared. -/
theorem makes_and_written_perform (s : Session) (command : Command) :
  (command ≠ .trace .clear → s.tracer.Makes (s.recorded command) (s.perform command).1.tracer)
    ∧ (s.tracer.config.output ≠ .none → 0 < s.tracer.buffer.maxSize →
      (s.perform command).1.tracer.written.toList
        = s.tracer.written.toList ++ (s.recorded command).map fun r =>
          (s.tracer.config.output, s.tracer.lineFor (s.atHand command) r))
  := by
  cases s.becomes_perform command with
  | follow stop solver tracer told atHand settings =>
    obtain ⟨makes, written⟩ := writes_follow told atHand
    rw [tracer]
    exact ⟨fun _ => makes, written⟩
  | rewind step restored rewound same solver tracer =>
    subst same
    obtain ⟨makes, written⟩ := writes_rewind rewound
    rw [tracer]
    exact ⟨fun _ => makes, written⟩
  | idle told solver config written buffer maxSize =>
    rw [recorded_of_silent told, written]
    constructor
    · intro kept
      exact Tracer.makes_nil (buffer kept)
    · intro _ _
      exact (List.append_nil _).symm

theorem maxSize_perform (s : Session) (command : Command) :
  (s.perform command).1.tracer.buffer.maxSize = s.tracer.buffer.maxSize
  := by
  cases s.becomes_perform command with
  | follow stop solver tracer told atHand settings =>
    rw [tracer]
    exact (writes_follow told atHand).makes.maxSize
  | rewind step restored rewound same solver tracer =>
    rw [tracer]
    exact (writes_rewind rewound).makes.maxSize
  | idle told solver config written buffer maxSize => exact maxSize

end Session

end ForwardChaining
