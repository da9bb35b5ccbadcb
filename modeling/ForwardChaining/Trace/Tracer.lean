import ForwardChaining.Trace.Buffer
import ForwardChaining.Trace.Format
import ForwardChaining.Solver.Run

/-!
# Tracers

A tracer is told of every step of a run and records what happened as events.  A tracer that
is not enabled records nothing and takes no note of the run.  The records are kept in a
buffer, and each is also written as a line if the tracer has an output.
-/

namespace ForwardChaining

/-- Where a tracer writes its lines. -/
inductive TraceOutput where
  /-- No lines are written. -/
  | none
  | stderr
  | stdout
  deriving DecidableEq

/-- The settings of a tracer. -/
structure TracerConfig where
  enabled : Bool := false
  /-- How many records are kept. -/
  bufferSize : Nat := 10000
  output : TraceOutput := .none
  /-- Records are written as JSON. -/
  json : Bool := false
  /-- The kinds of events that are recorded; if there are none, all are. -/
  filter : List String := []
  deriving DecidableEq

/-- Records the events of a run. -/
structure Tracer where
  config : TracerConfig
  buffer : TraceBuffer
  /-- Nanoseconds since the tracer was made, as it was last told. -/
  clock : Nat
  /-- The pass to which the next step belongs. -/
  currentPass : Nat
  /-- The number of rules that the tracer saw fire in this pass. -/
  firedInPass : Nat
  /-- The start of the run has been recorded. -/
  started : Bool
  /-- The end of the run has been recorded. -/
  finished : Bool
  /-- The lines written, in order. -/
  written : Log (TraceOutput × String)
  deriving DecidableEq

namespace Tracer

/-- A tracer with the given settings that has recorded nothing. -/
def create (config : TracerConfig := {}) : Tracer where
  config := config
  buffer := .empty config.bufferSize
  clock := 0
  currentPass := 0
  firedInPass := 0
  started := false
  finished := false
  written := .empty

/-! ### Settings -/

/-- The tracer, enabled or not. -/
def setEnabled (t : Tracer) (enabled : Bool) : Tracer :=
  { t with config := { t.config with enabled := enabled } }

/-- The tracer that writes JSON or lines for a reader. -/
def setJson (t : Tracer) (json : Bool) : Tracer :=
  { t with config := { t.config with json := json } }

/-- The tracer told the time, in nanoseconds since it was made. -/
def atTime (t : Tracer) (nanoseconds : Nat) : Tracer :=
  { t with clock := nanoseconds }

/-- The tracer with its buffer cleared. -/
def clear (t : Tracer) : Tracer :=
  { t with buffer := t.buffer.clear }

/-! ### Formats -/

/-- A record in the format in force. -/
def format (t : Tracer) (r : TraceRecord) (registry : Registry) : String :=
  if t.config.json then r.json registry else r.line registry

/-- Records in the format in force. -/
def formatAll (t : Tracer) (records : List TraceRecord) (registry : Registry) : String :=
  if t.config.json then TraceRecord.jsonArray records registry
  else TraceRecord.lines records registry

/-! ### Recording -/

/-- The filter lets the event pass. -/
def admits (t : Tracer) (event : TraceEvent) : Bool :=
  t.config.filter.isEmpty || t.config.filter.contains event.kind

/-- The line written for a record; facts cannot be named without a registry. -/
def lineFor (t : Tracer) (registry : Option Registry) (r : TraceRecord) : String :=
  match registry with
  | some registry => t.format r registry
  | none => r.namelessLine

/-- Records an event that the filter lets pass, and writes its line if the record is kept. -/
def emit (t : Tracer) (registry : Option Registry) (event : TraceEvent) : Tracer :=
  if t.admits event then
    let t := { t with buffer := t.buffer.push t.currentPass t.clock event }
    match t.config.output, t.buffer.latest? with
    | .none, _ => t
    | _, none => t
    | output, some r => { t with written := t.written.push (output, t.lineFor registry r) }
  else t

/-- Records events in order. -/
def emitAll (t : Tracer) (registry : Registry) (events : List TraceEvent) : Tracer :=
  events.foldl (fun t event => t.emit (some registry) event) t

/-- Records an event that does not come from a step, if the tracer is enabled. -/
def record (t : Tracer) (event : TraceEvent) : Tracer :=
  if t.config.enabled then t.emit none event else t

/-- Records the start of a run with so many facts in memory. -/
def start (t : Tracer) (s : Solver) (inputs : Nat) : Tracer :=
  { t with started := true, finished := false, currentPass := s.iteration, firedInPass := 0
    }.emitAll s.registry [.runStart s.rules.size inputs, .passStart s.iteration]

/-- Records the start of a run, before its first step, if the tracer is enabled. -/
def begin (t : Tracer) (s : Solver) : Tracer :=
  if t.config.enabled then t.start s s.memory.size else t

/-- The events of the assertion of a fact. -/
def assertionEvents (s : Solver) (rule : RuleId) (fact : FactId) : List TraceEvent :=
  match (s.registry.fact? fact).filter (·.effect.isSome) with
  | some performed => [.effectPerformed fact performed.repeatCount, .factAsserted fact rule]
  | none => [.factAsserted fact rule]

/-- The events of an examination, up to the end of the pass. -/
def examinationEvents (s : Solver) (step : Examination) : List TraceEvent :=
  if step.performing then
    [.ruleExamined step.rule true, .ruleFired step.rule]
      ++ step.asserted.flatMap (assertionEvents s step.rule)
  else [.ruleExamined step.rule false]

/-- Records the end of the pass if `s` has come to another one, and the start of that one if
the run goes on. -/
def turnPass (t : Tracer) (s : Solver) : Tracer :=
  if s.iteration = t.currentPass then t
  else
    let ended := t.emit (some s.registry) (.passEnd t.currentPass t.firedInPass)
    let turned := { ended with currentPass := s.iteration, firedInPass := 0 }
    if s.isTerminal || s.pending.isEmpty then turned
    else turned.emit (some s.registry) (.passStart s.iteration)

/-- Records the end of the run, unless that has been done. -/
def finish (t : Tracer) (s : Solver) (event : TraceEvent) : Tracer :=
  if t.finished then t else { t with finished := true }.emit (some s.registry) event

/-- Records the outcome of a step that led to the state `s`, the start of the run having been
recorded. -/
def observeStarted (t : Tracer) (s : Solver) : Outcome → Tracer
  | .examined step =>
    let fired := if step.performing then t.firedInPass + 1 else t.firedInPass
    ({ t with firedInPass := fired }.emitAll s.registry (examinationEvents s step)).turnPass s
  | .succeeded => t.finish s (.runSucceeded s.steps)
  | .failed deadlock => t.finish s (.runFailed deadlock.unsatisfied)

/-- Records the outcome of a step that led to the state `s`, if the tracer is enabled.  The
start of the run is recorded before its first outcome, if it has not been. -/
def observe (t : Tracer) (s : Solver) (outcome : Outcome) : Tracer :=
  if t.config.enabled then
    let asserted := outcome.examination?.elim 0 (·.asserted.length)
    let t := if t.started then t else t.start s (s.memory.size - asserted)
    t.observeStarted s outcome
  else t

/-- Takes up the pass of a solver that has been rewound to the given step. -/
def rewound (t : Tracer) (s : Solver) (step : Nat) : Tracer :=
  { t with currentPass := s.iteration, firedInPass := 0, finished := s.isTerminal
    }.record (.custom "rewind" ("step " ++ toString step))

/-- Records the stages of a run in order. -/
def observeAll (t : Tracer) (stages : List Stage) : Tracer :=
  stages.foldl (fun t stage => t.observe stage.after stage.outcome) t

end Tracer

end ForwardChaining
