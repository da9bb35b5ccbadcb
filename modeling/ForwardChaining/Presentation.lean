import ForwardChaining.Style
import ForwardChaining.Transcript
import ForwardChaining.Number.Seconds

/-!
# Presentations

A presentation shows a run: the rules and the memory it starts with, then each examined rule
and each asserted fact, and at last the verdict.  It can be paused, by its owner, by others while
the run is shown or by the effect of a fact, and goes on where it stopped.  Whoever waits for the
verdict is notified once.

Lines are written to a sink, which may refuse them.
-/

namespace ForwardChaining

/-- Where lines are written.  A sink with a limit refuses the first line with which more
bytes than that would have been offered to it, and every line after that. -/
structure Sink where
  /-- How many bytes are accepted. -/
  limit : Option Nat := none
  /-- The reason given for a refusal. -/
  refusal : String := ""
  /-- The number of bytes offered. -/
  offered : Nat := 0
  /-- A line has been refused. -/
  broken : Bool := false
  deriving DecidableEq

/-- Offers a text: the sink then, and whether it accepted the text. -/
def Sink.offer (s : Sink) (text : String) : Sink × Bool :=
  let offered := s.offered + text.utf8ByteSize
  let broken := s.broken || s.limit.any (· < offered)
  ({ s with offered := offered, broken := broken }, !broken)

/-- A sink without a limit that has refused nothing accepts every text. -/
theorem Sink.offer_of_unlimited {s : Sink} (unlimited : s.limit = none) (unbroken : s.broken = false)
    (text : String) :
  s.offer text = ({ s with offered := s.offered + text.utf8ByteSize }, true)
  := by
  obtain ⟨limit, refusal, offered, broken⟩ := s
  obtain rfl := unlimited
  obtain rfl := unbroken
  rfl

/-- The settings of a presentation. -/
structure PresentationConfig where
  /-- The pause after a step, in nanoseconds. -/
  speed : Nat := 1000000000
  /-- Rules are numbered. -/
  numberRules : Bool := true
  /-- Facts are numbered by their place in memory. -/
  numberFacts : Bool := false
  styles : Styles := .ansi
  /-- Stands before the number of a rule. -/
  ruleMark : String := "R"
  /-- Stands before the number of a fact. -/
  factMark : String := "F"
  /-- Texts are styled. -/
  color : Bool := true
  wording : Wording := {}
  /-- Someone waits for success. -/
  onSuccess : Bool := false
  /-- Someone waits for failure. -/
  onFailure : Bool := false
  /-- An effect that says this message pauses the presentation. -/
  pauseOn : Option String := none
  deriving DecidableEq

namespace PresentationConfig

/-- The styles in effect. -/
def effectiveStyles (c : PresentationConfig) : Styles :=
  if c.color then c.styles else .plain

/-- The settings, for diagnosis. -/
def describe (c : PresentationConfig) : String :=
  "DriverConfig \x7b speed: " ++ Number.describeSpan c.speed
    ++ ", numbering: Numbering \x7b rules: " ++ toString c.numberRules
    ++ ", facts: " ++ toString c.numberFacts
    ++ " \x7d, rule_prefix: " ++ Text.quoted c.ruleMark
    ++ ", fact_prefix: " ++ Text.quoted c.factMark
    ++ ", color: " ++ toString c.color
    ++ ", on_success: " ++ toString c.onSuccess
    ++ ", on_failure: " ++ toString c.onFailure ++ ", .. \x7d"

end PresentationConfig

/-- What is told to whoever waits for the verdict. -/
inductive Notice where
  /-- The run has succeeded and left the solver in this state. -/
  | success (solver : Solver)
  /-- The run has failed, for this reason, and left the solver in this state. -/
  | failure (solver : Solver) (deadlock : Deadlock)
  deriving DecidableEq

/-- A run that is shown. -/
structure Presentation where
  solver : Solver
  config : PresentationConfig
  tracer : Tracer
  sink : Sink
  /-- The presentation stops before its next step. -/
  paused : Bool
  /-- The verdict has been reached. -/
  reported : Bool
  /-- The tracer has been told of the start of the run. -/
  traced : Bool
  /-- The notices given, oldest first. -/
  notices : List Notice
  /-- What has been given out, in order. -/
  output : Log Emission
  deriving DecidableEq

namespace Presentation

/-- The presentation of a run that nothing has been shown of. -/
def create (solver : Solver) (config : PresentationConfig := {}) (tracer : Tracer := .create)
    (sink : Sink := {}) : Presentation where
  solver := solver
  config := config
  tracer := tracer
  sink := sink
  paused := false
  reported := false
  traced := false
  notices := []
  output := .empty

/-- What has been given out. -/
def transcript (p : Presentation) : Transcript :=
  p.output.toList

/-- The presentation, to stop before its next step. -/
def pause (p : Presentation) : Presentation :=
  { p with paused := true }

/-- The presentation, to go on. -/
def resume (p : Presentation) : Presentation :=
  { p with paused := false }

/-! ### Lines -/

/-- The styles in effect. -/
def styles (p : Presentation) : Styles :=
  p.config.effectiveStyles

/-- A rule as a line, after its number if rules are numbered. -/
def ruleLine (p : Presentation) (id : RuleId) : String :=
  let text := (p.solver.rule? id).elim "" fun rule =>
    rule.describe p.solver.registry p.config.wording
  if p.config.numberRules then p.config.ruleMark ++ toString id.number ++ ". " ++ text else text

/-- A fact as a line, after the given number if facts are numbered. -/
def factLine (p : Presentation) (number : Nat) (fact : FactId) : String :=
  let name := p.solver.registry.displayName fact
  if p.config.numberFacts then p.config.factMark ++ toString number ++ ". " ++ name else name

/-- Facts as lines, numbered from `first` on. -/
def factLines (p : Presentation) (first : Nat) (facts : List FactId) : List String :=
  facts.mapIdx fun i fact => p.factLine (first + i) fact

/-- The rules and the memory. -/
def initialLines (p : Presentation) : List String :=
  let heading (text : String) := p.styles.paint p.styles.heading text
  let rules := (List.range p.solver.rules.size).map fun i => "  " ++ p.ruleLine ⟨i⟩
  let facts := (p.factLines 1 p.solver.memory.sequence).map ("  " ++ ·)
  heading "Rules:" :: rules ++ heading "Memory:" :: facts

/-- An examined rule, and the facts that it asserted if it fired; they are the latest of the
memory. -/
def stepLines (p : Presentation) (step : Examination) : List String :=
  let line := p.ruleLine step.rule
  if step.performing then
    let first := p.solver.memory.size - step.asserted.length + 1
    let facts := (p.factLines first step.asserted).map fun line =>
      "    + " ++ p.styles.paint p.styles.fact line
    ("* " ++ p.styles.paint p.styles.performed line) :: facts
  else ["> " ++ p.styles.paint p.styles.current line]

/-- The verdict. -/
def verdictLine (p : Presentation) : Termination → String
  | .succeeded => p.styles.paint p.styles.success "Solved."
  | .failed deadlock =>
    p.styles.paint p.styles.failure ("Failed: " ++ deadlock.describe ++ ".")

/-! ### Writing -/

/-- Writes lines up to the first that the sink refuses. -/
def writeLines (p : Presentation) : List String → Presentation × Except Error Unit
  | [] => (p, .ok ())
  | line :: rest =>
    let (sink, accepted) := p.sink.offer (line ++ "\n")
    let p := { p with sink := sink }
    if accepted then { p with output := p.output.push (.line line) }.writeLines rest
    else (p, fail (.io sink.refusal))

/-- Shows the rules and the memory. -/
def showInitial (p : Presentation) : Presentation × Except Error Unit :=
  p.writeLines p.initialLines

/-! ### The run -/

/-- Takes up a state of the tracer. -/
def withTracer (p : Presentation) (tracer : Tracer) : Presentation :=
  { p with
    tracer := tracer
    output := p.output.append (Transcript.traceLines p.tracer tracer) }

/-- An effect asks for a pause. -/
def asksForPause (p : Presentation) (invocation : Invocation) : Bool :=
  p.config.pauseOn = some invocation.message

/-- Takes up the state after a step. -/
def advance (p : Presentation) (stage : Stage) : Presentation :=
  let invocations := stage.after.log.since p.solver.log
  let p := { p with
    paused := p.paused || invocations.any p.asksForPause
    output := p.output.append (Transcript.echoes p.solver stage.after)
    solver := stage.after }
  p.withTracer (p.tracer.observe stage.after stage.outcome)

/-- Pauses after a step, if the run goes on. -/
def pace (p : Presentation) : Presentation :=
  if p.solver.isTerminal || p.config.speed = 0 then p
  else { p with output := p.output.push (.pause p.config.speed) }

/-- Gives notice of the verdict, the first time that it is reached. -/
def notify (p : Presentation) (termination : Termination) : Presentation :=
  if p.reported then p
  else
    let notices :=
      match termination with
      | .succeeded => if p.config.onSuccess then [.success p.solver] else []
      | .failed deadlock => if p.config.onFailure then [.failure p.solver deadlock] else []
    { p with reported := true, notices := p.notices ++ notices }

/-- Shows the given stages of the run, until it is paused or over.  The requests of others for a
pause are seen before a step; `requests` tells before which of the steps, counted from zero. -/
def follow (p : Presentation) (requests : Nat → Bool) :
    List Stage → Presentation × Except Error (Option Termination)
  | [] => (p, .ok none)
  | stage :: rest =>
    let p := if requests 0 then p.pause else p
    if p.paused then (p, .ok none)
    else
      let p := p.advance stage
      match stage.outcome.examination?, stage.outcome.termination? with
      | some step, _ =>
        match p.writeLines (p.stepLines step) with
        | (p, .ok ()) => p.pace.follow (fun step => requests (step + 1)) rest
        | (p, .error e) => (p, .error e)
      | none, termination =>
        match p.writeLines (termination.toList.map p.verdictLine) with
        | (p, .ok ()) => (termination.elim p p.notify, .ok termination)
        | (p, .error e) => (p, .error e)

/-- Tells the tracer of the start of the run, unless that has been done. -/
def begun (p : Presentation) : Presentation :=
  if p.traced then p else { p with traced := true }.withTracer (p.tracer.begin p.solver)

/-- Shows the run until it is paused, which gives nothing, or over, which gives its end. -/
def solve (p : Presentation) (requests : Nat → Bool := fun _ => false) :
    Presentation × Except Error (Option Termination) :=
  p.begun.follow requests p.solver.stages

end Presentation

end ForwardChaining
