import Mathlib
import ForwardChaining.CommandLine.Run
import ForwardChaining.Proofs.Trace.Showing
import ForwardChaining.Proofs.MessagePack.Value
import ForwardChaining.Proofs.Session.Driving

/-!
# The trace lines of the program

The program writes to standard error, in order, a line for each record that its tracer makes
(`CommandLine.traces_run`): in a session for the records of each command, with the settings that
the tracer has when the command is given (`CommandLine.traced_converse`).  Every line is in the
format in force, except those of rewinds, which are written without a registry and so are neither
JSON nor the usual line for a reader.
-/

namespace ForwardChaining

/-- A record, with what its line depends on. -/
structure Streamed where
  /-- The tracer, with its settings then. -/
  tracer : Tracer
  /-- The registry at hand, if there is one. -/
  registry : Option Registry
  record : TraceRecord

/-- The line that is written. -/
def Streamed.line (e : Streamed) : String :=
  e.tracer.lineFor e.registry e.record

/-- What is written for a command. -/
def Session.streamed (s : Session) (command : Command) : List Streamed :=
  (s.recorded command).map fun r => ⟨s.tracer, s.atHand command, r⟩

namespace CommandLine

/-- The commands that are understood in a session on the given lines of input, each with the session
before it. -/
def exchanges (s : Session) : List String → List (Session × Command)
  | [] => []
  | line :: rest =>
    match Input.ofLine line with
    | .leave => []
    | .blank => exchanges s rest
    | .command text =>
      match Command.parse text with
      | .ok command => (s, command) :: exchanges (s.perform command).1 rest
      | .error _ => exchanges s rest

/-- What is written when a run is shown to its end. -/
def shown (o : Options) (solver : Solver) : List Streamed :=
  if o.trace then
    ((tracer o).recordsOf (Tracer.startEntries solver solver.memory.size
      ++ (Tracer.Notes.starting solver).runEntries solver solver.stages.length)).map fun r =>
        ⟨tracer o, some solver.registry, r⟩
  else []

/-- What is written in a session. -/
def conversed (o : Options) (solver : Solver) (lines : List String) : List Streamed :=
  (exchanges (openSession o solver) lines).flatMap fun (s, command) => s.streamed command

/-- What is written, on the given lines of input. -/
def streamed (o : Options) (solver : Solver) (lines : List String) : List Streamed :=
  if o.batch then shown o solver else conversed o solver lines

variable {o : Options} {solver : Solver} {s : Session} {disk : Disk}

/-! ### Sessions -/

theorem traced_present (styles : Styles) (answer : Except Error String) :
  (present styles answer).traced = []
  := by
  cases answer with
  | error e => rfl
  | ok text =>
    rw [present]
    split <;> rfl

/-- To settle an answer is to give nothing out. -/
theorem transcript_settle (reply : Except Error Reply) (scene : Scene) :
  (Session.settle Scene.world.saveRecord reply scene).2.transcript = scene.transcript
  := by
  cases reply with
  | error e => rfl
  | ok reply => cases reply <;> rfl

/-- The answer to a command gives out the lines that the tracer has written meanwhile. -/
theorem traced_respond {line command : String} (input : Input.ofLine line = .command command)
    (s : Session) (scene : Scene) :
  (Scene.world.respond s line scene).1 = some (s.answer command).1
    ∧ (Scene.world.respond s line scene).2.transcript.traced
      = scene.transcript.traced ++ (s.answer command).1.tracer.written.since s.tracer.written
  := by
  rw [World.respond, input]
  refine ⟨rfl, ?_⟩
  change ((Session.settle Scene.world.saveRecord (s.answer command).2 scene).2.transcript
    ++ (s.activity (s.answer command).1 ++ present _ _)).traced = _
  rw [transcript_settle, Transcript.traced_append, Transcript.traced_append, traced_present,
    List.append_nil, Session.activity, Transcript.traced_append, Transcript.traced_echoes,
    Transcript.traced_traceLines, List.nil_append]

/-- The tracer of the session writes lines of all its records to standard error. -/
structure Attended (s : Session) : Prop where
  output : s.tracer.config.output = .stderr
  unfiltered : s.tracer.config.filter = []
  keeps : 0 < s.tracer.buffer.maxSize

theorem Attended.perform (attended : Attended s) (command : Command) :
  Attended (s.perform command).1
  := by
  constructor
  · rw [Session.config_perform, ← attended.output]
    unfold Session.settingsAfter
    split <;> rfl
  · rw [Session.config_perform, ← attended.unfiltered]
    unfold Session.settingsAfter
    split <;> rfl
  · rw [Session.maxSize_perform]
    exact attended.keeps

/-- What is done in turn is done to one scene after the other. -/
theorem bind_apply {α β : Type} (first : StateM Scene α) (next : α → StateM Scene β)
    (scene : Scene) :
  (first >>= next) scene = next (first scene).1 (first scene).2
  := rfl

theorem modify_give_apply (transcript : Transcript) (scene : Scene) :
  (modify (·.give transcript) : StateM Scene PUnit) scene = ((), scene.give transcript)
  := rfl

section

variable {turn : Session → String → StateM Scene (Option Session)} {t : Session} {scene : Scene}
  {line : String}

theorem converse_cons_of_none (rest : List String)
    (ended : (turn s line (scene.give [.text prompt])).1 = none) :
  Scene.converse prompt turn s (line :: rest) scene
    = (s, (turn s line (scene.give [.text prompt])).2)
  := by
  rw [Scene.converse, bind_apply, bind_apply, modify_give_apply]
  dsimp only
  rw [ended]
  rfl

theorem converse_cons_of_some (rest : List String)
    (goesOn : (turn s line (scene.give [.text prompt])).1 = some t) :
  Scene.converse prompt turn s (line :: rest) scene
    = Scene.converse prompt turn t rest (turn s line (scene.give [.text prompt])).2
  := by
  rw [Scene.converse, bind_apply, bind_apply, modify_give_apply]
  dsimp only
  rw [goesOn]

end

theorem traced_prompt (scene : Scene) :
  (scene.give [.text prompt]).transcript.traced = scene.transcript.traced
  := (Transcript.traced_append _ _).trans (List.append_nil _)

/-- A session gives out, in order, the lines of what is recorded of its commands. -/
theorem traced_converse (attended : Attended s) (scene : Scene) (lines : List String) :
  (Scene.converse prompt Scene.world.respond s lines scene).2.transcript.traced
    = scene.transcript.traced
      ++ ((exchanges s lines).flatMap fun (s, command) => s.streamed command).map fun e =>
        (.stderr, e.line)
  := by
  induction lines generalizing s scene with
  | nil =>
    rw [exchanges, List.flatMap_nil, List.map_nil, List.append_nil]
    exact traced_prompt scene
  | cons line lines ih =>
    rw [exchanges]
    cases input : Input.ofLine line with
    | leave =>
      have left : Scene.world.respond s line = pure none := by rw [World.respond, input]
      rw [converse_cons_of_none lines (by rw [left]; rfl), left]
      exact (traced_prompt scene).trans (List.append_nil _).symm
    | blank =>
      have same : Scene.world.respond s line = pure (some s) := by rw [World.respond, input]
      rw [converse_cons_of_some lines (by rw [same]; rfl), ih attended, same]
      exact congrArg (· ++ _) (traced_prompt scene)
    | command text =>
      obtain ⟨after, traced⟩ := traced_respond input s (scene.give [.text prompt])
      rw [traced_prompt] at traced
      rw [converse_cons_of_some lines after]
      dsimp only
      cases parsed : Command.parse text with
      | error problem =>
        have answered : (s.answer text).1 = s := by rw [Session.answer, parsed]
        rw [answered, Log.since_of_toList (List.append_nil _).symm, List.append_nil] at traced
        rw [answered, ih attended, traced]
      | ok command =>
        have answered : (s.answer text).1 = (s.perform command).1 := by
          rw [Session.answer, parsed]
        have written := (s.makes_and_written_perform command).2
          (by rw [attended.output]; exact TraceOutput.noConfusion) attended.keeps
        rw [answered, Log.since_of_toList written, attended.output] at traced
        rw [answered, ih (attended.perform command), traced, List.flatMap_cons, List.map_append,
          Session.streamed, List.map_map, List.append_assoc]
        rfl

/-- A line of input ends the session, comes to nothing, or is a command. -/
theorem exchanges_cons (s : Session) (line : String) (rest : List String) :
  exchanges s (line :: rest) = []
    ∨ exchanges s (line :: rest) = exchanges s rest
    ∨ ∃ command, exchanges s (line :: rest) = (s, command) :: exchanges (s.perform command).1 rest
  := by
  rw [exchanges]
  cases Input.ofLine line with
  | leave =>
    left
    rfl
  | blank =>
    right; left
    rfl
  | command text =>
    right
    dsimp only
    cases Command.parse text with
    | error problem =>
      left
      rfl
    | ok command =>
      right
      use command

/-- What holds in the beginning, and is kept by the commands of a session, holds before each. -/
theorem exchanges_induction {P : Session → Prop} {lines : List String} (start : P s)
    (step : ∀ s' command, (s', command) ∈ exchanges s lines → P s' → P (s'.perform command).1) :
  ∀ s' command, (s', command) ∈ exchanges s lines → P s'
  := by
  induction lines generalizing s with
  | nil =>
    intro s' command member
    cases member
  | cons line lines ih =>
    obtain none | same | ⟨command, answered⟩ := exchanges_cons s line lines
    · rw [none]
      intro s' command member
      cases member
    · rw [same] at step ⊢
      exact ih start step
    · rw [answered] at step ⊢
      intro s' command' member
      obtain same | later := List.mem_cons.mp member
      · cases same
        exact start
      · apply ih (step s command List.mem_cons_self start) _ s' command' later
        intro s' command' member
        exact step s' command' (List.mem_cons_of_mem _ member)

/-! ### Runs that are shown -/

/-- What a tracer makes of a run that is shown to its end. -/
theorem streams_shown (traced : o.trace = true) (solver : Solver) :
  (tracer o).Streams (some solver.registry)
    (Tracer.startEntries solver solver.memory.size
      ++ (Tracer.Notes.starting solver).runEntries solver solver.stages.length)
    (((tracer o).begin solver).observeAll solver.stages)
  := by
  have enabled : (tracer o).config.enabled = true := traced
  obtain ⟨begun, notes⟩ := Tracer.streams_begin enabled solver
  have observed := Tracer.streams_observeAll (begun.config ▸ enabled) solver fun _ => false
  rw [notes] at observed
  exact begun.append observed

theorem observeAll_begin_of_disabled (untraced : o.trace = false) (solver : Solver) :
  ((tracer o).begin solver).observeAll solver.stages = tracer o
  := by
  have disabled : (tracer o).config.enabled = false := untraced
  have same : (tracer o).begin solver = tracer o := by
    rw [Tracer.begin, disabled]
    rfl
  rw [same, Tracer.observeAll_of_disabled disabled]

/-- A run that is shown to its end gives out the lines of its records, and does not fail. -/
theorem traced_play (o : Options) (solver : Solver) :
  (play o solver).1.traced = (shown o solver).map (fun e => (.stderr, e.line))
    ∧ ∃ ended, (play o solver).2 = .ok ended
  := by
  have ready : (Presentation.create solver (presentationConfig o) (tracer o)).Ready :=
    ⟨rfl, rfl, rfl, rfl, TraceOutput.noConfusion, Nat.succ_pos _, rfl⟩
  obtain ⟨accepted, talks⟩ := Presentation.talks_writeLines ready
    (Presentation.create solver (presentationConfig o) (tracer o)).initialLines
  rw [play, Presentation.showInitial]
  generalize Presentation.writeLines _ _ = initial at accepted talks
  obtain ⟨p, answer⟩ := initial
  cases accepted
  obtain ⟨⟨termination, solved⟩, complete⟩ := Presentation.shows_solve talks.ready talks.traced
  rw [talks.solver, talks.tracer] at complete
  dsimp only at solved complete ⊢
  generalize p.solve = ended at solved complete
  obtain ⟨q, answer⟩ := ended
  cases solved
  refine ⟨?_, _, rfl⟩
  refine Eq.trans complete ?_
  change (((tracer o).begin solver).observeAll solver.stages).written.toList = _
  unfold shown
  cases traced : o.trace with
  | true =>
    have written := (streams_shown traced solver).written TraceOutput.noConfusion (Nat.succ_pos _)
    rw [written, if_pos rfl, List.map_map]
    rfl
  | false =>
    rw [observeAll_begin_of_disabled traced]
    rfl

/-! ### The whole -/

theorem traced_complain (message : String) (scene : Scene) :
  (Scene.world.complain message scene).2.transcript.traced = scene.transcript.traced
  := (Transcript.traced_append _ _).trans (List.append_nil _)

theorem traced_finish (o : Options) (solver : Solver) (code : Nat) (scene : Scene) :
  (Scene.world.finish o solver code scene).2.transcript.traced = scene.transcript.traced
  := by
  rw [World.finish]
  cases o.saveRun with
  | none => rfl
  | some path =>
    have kept : (Scene.world.saveRecord path (.capture solver) scene).2.transcript
        = scene.transcript := rfl
    dsimp only
    rw [bind_apply, ← kept]
    cases (Scene.world.saveRecord path (.capture solver) scene).1 with
    | ok => rfl
    | error e => apply traced_complain

/-- The lines of the standard input. -/
def inputLines (stdin : String) : List String :=
  (Text.lines stdin.toList).map String.ofList

theorem attended_openSession (o : Options) (solver : Solver) :
  Attended (openSession o solver)
  := ⟨rfl, rfl, Nat.succ_pos _⟩

theorem traced_work (o : Options) (solver : Solver) (scene : Scene) :
  (Scene.world.work o solver scene).2.transcript.traced
    = scene.transcript.traced
      ++ (streamed o solver (inputLines scene.stdin)).map fun e => (.stderr, e.line)
  := by
  unfold World.work streamed
  cases o.batch with
  | true =>
    obtain ⟨traced, ⟨code, ended⟩, accepted⟩ := traced_play o solver
    rw [if_pos rfl, if_pos rfl]
    generalize play o solver = played at traced accepted
    obtain ⟨transcript, answer⟩ := played
    cases accepted
    refine (traced_finish o ended code (scene.give transcript)).trans ?_
    rw [← traced]
    exact Transcript.traced_append _ _
  | false =>
    rw [if_neg Bool.false_ne_true, if_neg Bool.false_ne_true]
    have conversed := traced_converse (attended_openSession o solver)
      (scene.give (greeting (openSession o solver))) (inputLines scene.stdin)
    have greeted : (scene.give (greeting (openSession o solver))).transcript.traced
        = scene.transcript.traced := (Transcript.traced_append _ _).trans (List.append_nil _)
    rw [greeted] at conversed
    rw [bind_apply, bind_apply, bind_apply]
    refine (traced_finish ..).trans ?_
    exact (Transcript.traced_append _ _).trans ((List.append_nil _).trans conversed)

/-! ### Formats -/

/-- An enabled tracer is told of a rewind in the session. -/
def Rewinds (o : Options) (solver : Solver) (lines : List String) : Prop :=
  o.batch = false ∧ ∃ s step restored, (s, .rewind step) ∈ exchanges (openSession o solver) lines
    ∧ s.tracer.config.enabled = true ∧ s.solver.rewind step = .ok restored

theorem streamed_rewind {step : Nat} {restored : Solver} (attended : Attended s)
    (enabled : s.tracer.config.enabled = true) (rewound : s.solver.rewind step = .ok restored) :
  s.streamed (.rewind step) = [⟨s.tracer, none, s.tracer.buffer.nextId, restored.iteration,
    s.tracer.clock, .custom "rewind" ("step " ++ toString step)⟩]
  := by
  have admitted : s.tracer.admits = fun _ => true := by
    funext event
    rw [Tracer.admits, attended.unfiltered]
    rfl
  rw [Session.streamed, Session.recorded, if_pos enabled, Session.told_rewind rewound,
    Tracer.recordsOf, admitted]
  rfl

/-- What is written for a command is written with the registry of the solver, unless it is the
record of a rewind. -/
theorem registry_of_mem_streamed {command : Command} {e : Streamed}
    (member : e ∈ s.streamed command) :
  e.tracer = s.tracer
    ∧ (e.registry = some s.solver.registry
      ∨ ∃ step restored, command = .rewind step ∧ s.tracer.config.enabled = true
        ∧ s.solver.rewind step = .ok restored)
  := by
  obtain ⟨r, recorded, rfl⟩ := List.mem_map.mp member
  use rfl
  cases command with
  | rewind step =>
    right
    cases enabled : s.tracer.config.enabled with
    | false =>
      rw [Session.recorded, enabled] at recorded
      cases recorded
    | true =>
      cases rewound : s.solver.rewind step with
      | ok restored => exact ⟨step, restored, rfl, rfl, rewound⟩
      | error problem =>
        have silent : s.told (.rewind step) = [] := by
          simp only [Session.told, rewound]
        rw [Session.recorded_of_silent silent] at recorded
        cases recorded
  | _ =>
    left
    rfl

/-- Everything that is written in a session is written with the registry of the solver, unless it is
the record of a rewind. -/
theorem registry_of_mem_conversed {lines : List String} {e : Streamed}
    (member : e ∈ conversed o solver lines) :
  e.registry = some solver.registry
    ∨ ∃ s step restored, (s, .rewind step) ∈ exchanges (openSession o solver) lines
      ∧ s.tracer.config.enabled = true ∧ s.solver.rewind step = .ok restored
  := by
  obtain ⟨⟨s, command⟩, exchanged, written⟩ := List.mem_flatMap.mp member
  have registry : s.solver.registry = solver.registry := by
    apply exchanges_induction (P := fun s => s.solver.registry = solver.registry) rfl _ s command
      exchanged
    intro s' command' _ same
    rw [Session.registry_perform, same]
  obtain ⟨-, named | ⟨step, restored, rfl, enabled, rewound⟩⟩ := registry_of_mem_streamed written
  · left
    rw [named, registry]
  · right
    exact ⟨s, step, restored, exchanged, enabled, rewound⟩

/-- A line that is written without a registry is not JSON. -/
theorem namelessLine_ne_json (r : TraceRecord) (registry : Registry) :
  r.namelessLine ≠ r.json registry
  := by
  intro same
  have first := congrArg (fun line => line.toList.head?) same
  simp [TraceRecord.namelessLine, TraceRecord.json] at first

/-- Nor is it the usual line for a reader, at least not for an event that does not come from the
run. -/
theorem namelessLine_ne_line (id pass timestamp : Nat) (name data : String) (registry : Registry) :
  TraceRecord.namelessLine ⟨id, pass, timestamp, .custom name data⟩
    ≠ TraceRecord.line ⟨id, pass, timestamp, .custom name data⟩ registry
  := by
  intro same
  have written : "P" ++ Text.zeroPadded 3 pass ++ " [" ++ Text.zeroPadded 6 id ++ "] " ++ "custom"
      = "" ++ "P" ++ Text.zeroPadded 3 pass ++ " " ++ ""
        ++ ("  CUSTOM " ++ name ++ ": " ++ data) := same
  have characters := congrArg String.toList written
  simp [String.toList_append] at characters

theorem namelessLine_ne_format (t : Tracer) (id pass timestamp : Nat) (name data : String)
    (registry : Registry) :
  TraceRecord.namelessLine ⟨id, pass, timestamp, .custom name data⟩
    ≠ t.format ⟨id, pass, timestamp, .custom name data⟩ registry
  := by
  unfold Tracer.format
  split
  · exact namelessLine_ne_json _ registry
  · exact namelessLine_ne_line id pass timestamp name data registry

/-- The lines are all in the format in force unless a rewind is among what is recorded. -/
theorem formatted_iff (o : Options) (solver : Solver) (lines : List String) :
  (∀ e ∈ streamed o solver lines, e.line = e.tracer.format e.record solver.registry)
    ↔ ¬Rewinds o solver lines
  := by
  constructor
  · rintro formatted ⟨session, s, step, restored, exchanged, enabled, rewound⟩
    have attended : Attended s := by
      apply exchanges_induction (attended_openSession o solver) _ s _ exchanged
      intro s' command _ attended
      exact attended.perform command
    have written := streamed_rewind attended enabled rewound
    apply namelessLine_ne_format s.tracer s.tracer.buffer.nextId restored.iteration s.tracer.clock
      "rewind" ("step " ++ toString step) solver.registry
    apply formatted ⟨s.tracer, none, _⟩
    rw [streamed, session, if_neg Bool.false_ne_true]
    apply List.mem_flatMap.mpr
    use (s, .rewind step), exchanged
    change _ ∈ s.streamed (.rewind step)
    rw [written]
    exact List.mem_singleton_self _
  · intro forward e member
    have registry : e.registry = some solver.registry := by
      unfold streamed at member
      split at member
      · unfold shown at member
        split at member
        · obtain ⟨r, -, rfl⟩ := List.mem_map.mp member
          rfl
        · cases member
      · rename_i session
        obtain named | rewinds := registry_of_mem_conversed member
        · exact named
        · exact absurd ⟨Bool.eq_false_iff.mpr session, rewinds⟩ forward
    rw [Streamed.line, registry]
    rfl

/-- Unless the user switches to lines for a reader, the format stays JSON. -/
theorem json_of_mem_streamed {lines : List String} (json : o.json = true)
    (unswitched : ∀ s command, (s, command) ∈ exchanges (openSession o solver) lines →
      command ≠ .trace (.setJson false)) :
  ∀ e ∈ streamed o solver lines, e.tracer.config.json = true
  := by
  intro e member
  unfold streamed at member
  split at member
  · unfold shown at member
    split at member
    · obtain ⟨r, -, rfl⟩ := List.mem_map.mp member
      exact json
    · cases member
  · obtain ⟨⟨s, command⟩, exchanged, written⟩ := List.mem_flatMap.mp member
    rw [(registry_of_mem_streamed written).1]
    apply exchanges_induction (P := fun s => s.tracer.config.json = true) json _ s command exchanged
    intro s' command' exchanged' before
    rw [Session.config_perform]
    unfold Session.settingsAfter
    split
    · exact before
    · rename_i switched
      cases switched with
      | true => rfl
      | false => exact absurd rfl (unswitched s' _ exchanged')
    · exact before

/-! ### The program -/

/-- The transcript holds the trace lines of a run of the solver, on the given lines of input. -/
structure Traces (o : Options) (solver : Solver) (lines : List String) (transcript : Transcript) :
    Prop where
  /-- There is a line for each record, in order. -/
  written : transcript.traced = (streamed o solver lines).map fun e => (.stderr, e.line)
  /-- The records are those that the tracer makes when the run is shown. -/
  makes_shown : (tracer o).Makes ((shown o solver).map (·.record))
    (((tracer o).begin solver).observeAll solver.stages)
  /-- The records of a command are those that the tracer makes when it is carried out, unless all
  records are cleared. -/
  makes : ∀ s command, (s, command) ∈ exchanges (openSession o solver) lines →
    command ≠ .trace .clear →
      s.tracer.Makes ((s.streamed command).map (·.record)) (s.perform command).1.tracer
  /-- Each line is the record in the format in force, exactly if no rewind is recorded. -/
  formatted : transcript.traced
      = (streamed o solver lines).map (fun e => (.stderr, e.tracer.format e.record solver.registry))
    ↔ ¬Rewinds o solver lines
  /-- A rewind is recorded as such, but its line says neither its name nor its data. -/
  rewinds : ∀ s step restored, (s, .rewind step) ∈ exchanges (openSession o solver) lines →
    s.tracer.config.enabled = true → s.solver.rewind step = .ok restored →
      (s.streamed (.rewind step)).map (fun e => (e.record, e.line))
        = [(⟨s.tracer.buffer.nextId, restored.iteration, s.tracer.clock,
              .custom "rewind" ("step " ++ toString step)⟩,
            "P" ++ Text.zeroPadded 3 restored.iteration ++ " ["
              ++ Text.zeroPadded 6 s.tracer.buffer.nextId ++ "] custom")]
  /-- The format in force is JSON from the start, if that is asked for, until the user switches. -/
  json : o.json = true →
    (∀ s command, (s, command) ∈ exchanges (openSession o solver) lines →
      command ≠ .trace (.setJson false)) →
    ∀ e ∈ streamed o solver lines, ∀ registry,
      e.tracer.format e.record registry = e.record.json registry

theorem traces_work (o : Options) (stdin : String) (disk : Disk) (solver : Solver) :
  Traces o solver (inputLines stdin) (Scene.world.work o solver ⟨[], disk, stdin⟩).2.transcript
  := by
  constructor
  · exact traced_work o solver ⟨[], disk, stdin⟩
  · cases traced : o.trace with
    | true =>
      have makes := (streams_shown traced solver).makes
      rw [shown, if_pos traced, List.map_map]
      exact (List.map_id _).symm ▸ makes
    | false =>
      rw [observeAll_begin_of_disabled traced, shown, traced]
      exact Tracer.makes_nil rfl
  · intro s command _ kept
    rw [Session.streamed, List.map_map]
    exact (List.map_id _).symm ▸ (s.makes_and_written_perform command).1 kept
  · rw [traced_work, ← formatted_iff]
    refine List.map_inj_left.trans ?_
    constructor
    · intro same e member
      exact congrArg Prod.snd (same e member)
    · intro same e member
      rw [same e member]
  · intro s step restored exchanged enabled rewound
    have attended : Attended s := by
      apply exchanges_induction (attended_openSession o solver) _ s _ exchanged
      intro s' command _ attended
      exact attended.perform command
    have kind : "] custom" = "] " ++ "custom" := rfl
    rw [streamed_rewind attended enabled rewound, kind, ← String.append_assoc]
    rfl
  · intro json unswitched e member registry
    rw [Tracer.format, json_of_mem_streamed json unswitched e member]
    rfl

theorem run_eq_work {arguments : List String} {stdin file : String}
    (plan : Plan.ofArguments arguments = .work o file)
    (built : (Rulebase.load (disk.withInput stdin) file).bind (build o) = .ok solver) :
  run arguments stdin disk = .ofEnd (Scene.world.work o solver
    ⟨[], disk, if (disk.withInput stdin).isInput file then "" else stdin⟩)
  := by
  have loaded : (Scene.world.loadRulebase file ⟨[], disk, stdin⟩).1.bind (build o) = .ok solver :=
    built
  rw [run, World.run, plan]
  dsimp only
  rw [bind_apply, loaded]
  rfl

/-- Whenever the program comes to run a rulebase, it writes the trace lines of its records. -/
theorem traces_run {arguments : List String} {stdin file : String} {disk : Disk} {o : Options}
    {solver : Solver} (plan : Plan.ofArguments arguments = .work o file)
    (built : (Rulebase.load (disk.withInput stdin) file).bind (build o) = .ok solver) :
  Traces o solver (inputLines (if (disk.withInput stdin).isInput file then "" else stdin))
    (run arguments stdin disk).transcript
  := by
  rw [run_eq_work plan built]
  exact traces_work o _ disk solver

/-! ### A session with a rewind -/

/-- The disk with a text in the file r of the working directory. -/
def holding (text : String) : Disk :=
  ⟨[(Disk.workingDirectory ++ ["r"], .file (MessagePack.utf8 text))]⟩

/-- The paths r and s are names. -/
theorem names_eq {path : String} (letter : path = "r" ∨ path = "s") :
  Disk.names path = [path]
  := by
  obtain rfl | rfl := letter
  all_goals
    unfold Disk.names String.splitOn
    rw [if_neg (by decide), String.splitOnAux, if_neg (by decide), if_neg (by decide),
      String.splitOnAux, if_pos (by decide)]
    decide

theorem locate_holding (text input : String) :
  ((holding text).withInput input).locate "r"
    = .ok ⟨["", "", "r"], some (.file (MessagePack.utf8 text))⟩
  := by
  have start : Disk.start "r" = .ok ⟨Disk.workingDirectory, some .directory⟩ := by cbv
  have file : "r".endsWith "/" = false := by cbv
  rw [Disk.locate, start, file, names_eq (.inl rfl)]
  rfl

theorem readText_holding (text input : String) :
  ((holding text).withInput input).readText "r" = .ok text
  := by
  have opened : ((holding text).withInput input).open? "r"
      = .ok (.file (MessagePack.utf8 text)) := by
    rw [Disk.open?, locate_holding]
    rfl
  have valid : String.fromUTF8? ⟨(MessagePack.utf8 text).toArray⟩ = some text :=
    MessagePack.fromUTF8?_eq_some_iff.mpr rfl
  rw [Disk.readText, opened]
  dsimp only [bind, Except.bind, DiskEntry.content?]
  rw [valid]
  rfl

theorem load_holding (text input : String) :
  Rulebase.load ((holding text).withInput input) "r" = Rulebase.ofFile "r" text
  := by
  rw [Rulebase.load, readText_holding]

theorem isInput_holding (text input : String) :
  ((holding text).withInput input).isInput "r" = false
  := by
  rw [Disk.isInput, locate_holding]
  dsimp only
  decide

/-- Two rules, of which the first fires at the first step. -/
def chainText : String :=
  "facts: A, B, C\ninput: A\nrule: A -> B\nrule: B -> C\n"

/-- The disk with the two rules in the file r. -/
def chainDisk : Disk :=
  holding chainText

theorem load_chainDisk (input : String) :
  Rulebase.load (chainDisk.withInput input) "r" = Rulebase.ofFile "r" chainText
  := load_holding chainText input

theorem isInput_chainDisk (input : String) :
  (chainDisk.withInput input).isInput "r" = false
  := isInput_holding chainText input

/-- What asks for a session on the file r with a JSON trace. -/
def chainOptions : Options :=
  { trace := true, json := true, file := some "r" }

/-- A step, and then a rewind to where it led. -/
def chainInput : String := "step\nrewind 1\n"

theorem plan_chain :
  Plan.ofArguments ["--trace", "--json", "r"] = .work chainOptions "r"
  := by
  decide +kernel

/-- The solver of a rulebase, on which the check succeeds. -/
theorem exists_solver_of_any {built : Except Error Solver} {check : Solver → Bool}
    (some : built.toOption.any check = true) :
  ∃ solver, built = .ok solver ∧ check solver = true
  := by
  cases built with
  | error e => cases some
  | ok solver => exact ⟨solver, rfl, some⟩

theorem traces_run_chain :
  ∃ solver, (Rulebase.load (chainDisk.withInput chainInput) "r").bind (build chainOptions)
      = .ok solver
    ∧ (exchanges (openSession chainOptions solver) (inputLines chainInput)).map (·.2)
      = [.step, .rewind 1]
    ∧ Traces chainOptions solver (inputLines chainInput)
      (run ["--trace", "--json", "r"] chainInput chainDisk).transcript
  := by
  have checked : ((Rulebase.ofFile "r" chainText).bind (build chainOptions)).toOption.any
      (fun solver =>
        (exchanges (openSession chainOptions solver) (inputLines chainInput)).map (·.2)
          = [.step, .rewind 1]) = true := by
    decide +kernel
  rw [← load_chainDisk chainInput] at checked
  obtain ⟨solver, built, commands⟩ := exists_solver_of_any checked
  have traces := traces_run plan_chain built
  rw [isInput_chainDisk] at traces
  exact ⟨solver, built, of_decide_eq_true commands, traces⟩

/-- The format is JSON from the start to the end, but the last trace line is not. -/
theorem unformatted_run_chain :
  ∃ solver, (Rulebase.load (chainDisk.withInput chainInput) "r").bind (build chainOptions)
      = .ok solver
    ∧ (∀ e ∈ streamed chainOptions solver (inputLines chainInput), e.tracer.config.json = true)
    ∧ (run ["--trace", "--json", "r"] chainInput chainDisk).transcript.traced.getLast?
      = some (.stderr, "P000 [000005] custom")
    ∧ (run ["--trace", "--json", "r"] chainInput chainDisk).transcript.traced
      ≠ (streamed chainOptions solver (inputLines chainInput)).map fun e =>
        (.stderr, e.record.json solver.registry)
  := by
  have checked : ((Rulebase.ofFile "r" chainText).bind (build chainOptions)).toOption.any
      (fun solver => (streamed chainOptions solver (inputLines chainInput)).all
          (fun e => e.tracer.config.json)
        && (Scene.world.work chainOptions solver
            ⟨[], chainDisk, chainInput⟩).2.transcript.traced.getLast?
          = some (.stderr, "P000 [000005] custom")) = true := by
    decide +kernel
  rw [← load_chainDisk chainInput] at checked
  obtain ⟨solver, built, checked⟩ := exists_solver_of_any checked
  obtain ⟨json, last⟩ := Bool.and_eq_true_iff.mp checked
  rw [run_eq_work plan_chain built, isInput_chainDisk]
  refine ⟨solver, built, List.all_eq_true.mp json, of_decide_eq_true last, ?_⟩
  intro same
  have line := of_decide_eq_true last
  rw [if_neg Bool.false_ne_true, Result.ofEnd] at same
  rw [same, List.getLast?_map] at line
  obtain ⟨e, -, equal⟩ := Option.map_eq_some_iff.mp line
  have first := congrArg (fun line => line.2.toList.head?) equal
  simp [TraceRecord.json] at first

end CommandLine

end ForwardChaining
