import ForwardChaining.Session.Command
import ForwardChaining.Explain
import ForwardChaining.Record.File
import ForwardChaining.Style
import ForwardChaining.Transcript

/-!
# Sessions

A session lets its user step a run, go back in it, and ask about it.  Each command is answered
by a text, by a request to save a run record, or by an error, which leaves the session as it
was.
-/

namespace ForwardChaining

/-- A run that is stepped by commands. -/
structure Session where
  solver : Solver
  tracer : Tracer
  styles : Styles
  deriving DecidableEq

/-- The answer to a command. -/
inductive Reply where
  | text (text : String)
  /-- The run record is to be saved under the path. -/
  | save (path : String) (record : RunRecord)
  deriving DecidableEq

namespace Session

/-- The words offered as arguments of commands. -/
def keywords (s : Session) : List String :=
  s.solver.registry.vocabulary.names

/-! ### Texts -/

/-- A rule as a sentence, after its number. -/
def describeRule (solver : Solver) (id : RuleId) (rule : Rule) : String :=
  id.describe ++ " " ++ rule.describe solver.registry

/-- The outcome of a step that led to the state `solver`. -/
def describeOutcome (styles : Styles) (solver : Solver) : Outcome → String
  | .examined step =>
    let text := (solver.rule? step.rule).elim "" fun rule => rule.describe solver.registry
    let sentence := " " ++ step.rule.describe ++ " " ++ text
    if step.performing then
      let facts := step.asserted.map fun fact =>
        "\n  + " ++ styles.paint styles.fact (solver.registry.displayName fact)
      styles.paint styles.performed "fired" ++ sentence ++ String.join facts
    else styles.paint styles.current "skipped" ++ sentence
  | .succeeded => styles.paint styles.success "Solved."
  | .failed deadlock => styles.paint styles.failure ("Failed: " ++ deadlock.describe ++ ".")

/-- Where a fact of the memory comes from. -/
def describeOrigin : FactOrigin → String
  | .input => "input"
  | .concludedBy rule => "rule " ++ rule.describe
  | .pending _ | .unreachable => ""

/-- The memory, with the origin of each fact. -/
def memoryText (s : Session) : Except Error String := do
  let lines ← s.solver.memory.sequence.zipIdx.mapM fun (fact, i) => do
    let origin ← s.solver.why fact
    return Text.padLeft ' ' 3 (toString (i + 1)) ++ ". "
      ++ s.styles.paint s.styles.fact (s.solver.registry.displayName fact) ++ " "
      ++ s.styles.paint s.styles.dim ("(" ++ describeOrigin origin ++ ")")
  return if lines.isEmpty then "working memory is empty"
    else Text.trimmedRight ("\n".intercalate lines)

/-- All rules, of which those that have fired and the next one to be examined are marked. -/
def rulesText (s : Session) : String :=
  let lines := s.solver.rules.toList.mapIdx fun i rule =>
    let id : RuleId := ⟨i⟩
    let text := describeRule s.solver id rule
    if s.solver.hasFired id then "* " ++ s.styles.paint s.styles.performed text
    else if s.solver.current? = some id then "> " ++ s.styles.paint s.styles.current text
    else "  " ++ text
  if lines.isEmpty then "no rules" else Text.trimmedRight ("\n".intercalate lines)

/-- The pending rules. -/
def pendingText (s : Session) : String :=
  let lines := s.solver.pending.toList.filterMap fun id =>
    (s.solver.rule? id).map fun rule => "  " ++ describeRule s.solver id rule
  if lines.isEmpty then "no pending rules" else "\n".intercalate lines

/-- The retained snapshots. -/
def historyText (s : Session) : String :=
  let lines := s.solver.history.snapshots.map fun snapshot =>
    (SnapshotRecord.capture s.solver.registry snapshot).line
  if lines.isEmpty then "no snapshots recorded" else "\n".intercalate lines

/-- The origin of the named fact.  A name that no input and no rule mentions has no fact. -/
def whyText (s : Session) (name : String) : Except Error String := do
  let origin ←
    match s.solver.registry.lookup name with
    | some fact => s.solver.why fact
    | none =>
      if s.solver.registry.containsName name then .ok .unreachable else fail (.unknownFact name)
  match origin with
  | .input => return name ++ " was given as an input"
  | .concludedBy rule => return name ++ " was asserted by rule " ++ rule.describe
  | .pending rules =>
    return name ++ " is not yet known; pending rule "
      ++ ", ".intercalate (rules.map (·.describe)) ++ " would assert it"
  | .unreachable => return name ++ " is not known and no pending rule concludes it"

/-- The state of the trace. -/
def traceText (s : Session) : String :=
  let stats := s.tracer.buffer.stats
  "tracing " ++ (if s.tracer.config.enabled then "on" else "off")
    ++ " (" ++ (if s.tracer.config.json then "json" else "human") ++ "), "
    ++ toString stats.recordCount ++ " records over " ++ toString stats.passCount ++ " passes"

/-- The latest records of the trace. -/
def recordsText (s : Session) (count : Nat) : String :=
  let records := s.tracer.buffer.recent count
  if records.isEmpty then "trace buffer is empty"
  else s.tracer.formatAll records s.solver.registry

/-- The list of commands. -/
def helpText : String :=
"Commands:
  step              examine the rule under the cursor
  iterate           step until the current pass ends
  run               step until the run succeeds or fails
  memory            list working memory with each fact's origin
  rules             list rules (* fired, > under the cursor)
  pending           list rules still waiting to fire
  history           list recorded snapshots
  rewind N          restore the state after step N
  why [FACT]        explain blocked rules, or where FACT came from
  trace [on|off|json|human|clear|show [N]]
                    control and inspect the trace buffer
  save PATH         write a run record to PATH
  help              show this text
  quit              leave the REPL"

/-! ### Commands -/

/-- Takes up stages of the run: the session then, and their outcomes as text. -/
def follow (s : Session) (stages : List Stage) : Session × Except Error Reply :=
  let lines := stages.map fun stage => describeOutcome s.styles stage.after stage.outcome
  ({ s with
      solver := s.solver.afterStages stages
      tracer := s.tracer.observeAll stages },
    .ok (.text ("\n".intercalate lines)))

/-- Goes back to the state after the given step. -/
def rewind (s : Session) (step : Nat) : Session × Except Error Reply :=
  match s.solver.rewind step with
  | .error e => (s, .error e)
  | .ok solver =>
    ({ s with solver := solver, tracer := s.tracer.rewound solver step },
      .ok (.text ("rewound to step " ++ toString step ++ ", pass " ++ toString solver.iteration)))

/-- Changes the tracer, which is confirmed by a text. -/
def withTracer (s : Session) (tracer : Tracer) (text : String) : Session × Except Error Reply :=
  ({ s with tracer := tracer }, .ok (.text text))

/-- Carries out a command on the trace. -/
def performTrace (s : Session) : TraceCommand → Session × Except Error Reply
  | .status => (s, .ok (.text s.traceText))
  | .setEnabled enabled =>
    s.withTracer (s.tracer.setEnabled enabled) (if enabled then "tracing on" else "tracing off")
  | .setJson json =>
    s.withTracer (s.tracer.setJson json)
      (if json then "trace format: json" else "trace format: human")
  | .clear => s.withTracer s.tracer.clear "trace buffer cleared"
  | .showLatest count => (s, .ok (.text (s.recordsText count)))

/-- Carries out a command. -/
def perform (s : Session) : Command → Session × Except Error Reply
  | .step => s.follow [⟨s.solver.step.1, s.solver.step.2⟩]
  | .iterate => s.follow s.solver.passStages
  | .run => s.follow s.solver.stages
  | .memory => (s, s.memoryText.map .text)
  | .rules => (s, .ok (.text s.rulesText))
  | .pending => (s, .ok (.text s.pendingText))
  | .history => (s, .ok (.text s.historyText))
  | .rewind step => s.rewind step
  | .whyBlocked => (s, .ok (.text (s.solver.explain s.solver.blocked)))
  | .whyFact name => (s, (s.whyText name).map .text)
  | .trace command => s.performTrace command
  | .save path => (s, .ok (.save path (.capture s.solver)))
  | .help => (s, .ok (.text helpText))

/-- Answers a command line. -/
def answer (s : Session) (line : String) : Session × Except Error Reply :=
  match Command.parse line with
  | .ok command => s.perform command
  | .error problem => (s, fail (.invalidCommand problem.message))

/-! ### Files -/

/-- Settles the answer to a command, where `save` saves a run record under a path. -/
def settle {m : Type → Type} [Monad m] (save : String → RunRecord → m (Except Error Unit)) :
    Except Error Reply → m (Except Error String)
  | .error e => return .error e
  | .ok (.text text) => return .ok text
  | .ok (.save path record) => return (← save path record).map fun () => "run saved to " ++ path

/-- Evaluates a command line, on a disk that a run record may be saved to. -/
def eval (s : Session) (disk : Disk) (line : String) : Session × Disk × Except Error String :=
  let (after, reply) := s.answer line
  let (answer, disk) := settle RunRecord.saveTo reply disk
  (after, disk, answer)

/-- What effects said and the tracer wrote between two states of a session. -/
def activity (before after : Session) : Transcript :=
  Transcript.echoes before.solver after.solver ++ Transcript.traceLines before.tracer after.tracer

end Session

end ForwardChaining
