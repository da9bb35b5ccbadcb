import ForwardChaining.Solver.Status

/-!
# Trace events

The events of a run that a trace tells of.  Each has a kind, which a trace can be filtered
by.  A record is an event with its number, its pass and its time.
-/

namespace ForwardChaining

/-- What a trace tells of. -/
inductive TraceEvent where
  /-- The run starts, with so many rules and so many facts in memory. -/
  | runStart (rules inputs : Nat)
  /-- A pass starts. -/
  | passStart (pass : Nat)
  /-- A pass ends, in which so many rules fired. -/
  | passEnd (pass fired : Nat)
  /-- A rule is examined. -/
  | ruleExamined (rule : RuleId) (performing : Bool)
  /-- A rule fires. -/
  | ruleFired (rule : RuleId)
  /-- The effect of a fact is invoked so many times. -/
  | effectPerformed (fact : FactId) (invocations : Nat)
  /-- A fact is asserted, which this rule concludes. -/
  | factAsserted (fact : FactId) (rule : RuleId)
  /-- Every rule has fired, after so many examinations. -/
  | runSucceeded (steps : Nat)
  /-- The run has come to a deadlock of these rules. -/
  | runFailed (unsatisfied : List RuleId)
  /-- An event that does not come from the run. -/
  | custom (name data : String)
  deriving DecidableEq

namespace TraceEvent

/-- The name of the event's kind. -/
def kind : TraceEvent → String
  | runStart .. => "run-start"
  | passStart .. => "pass-start"
  | passEnd .. => "pass-end"
  | ruleExamined .. => "rule-examined"
  | ruleFired .. => "rule-fired"
  | effectPerformed .. => "effect-performed"
  | factAsserted .. => "fact-asserted"
  | runSucceeded .. => "run-succeeded"
  | runFailed .. => "run-failed"
  | custom .. => "custom"

/-- The event opens or closes a pass. -/
def isPassBoundary : TraceEvent → Bool
  | passStart .. | passEnd .. => true
  | _ => false

/-- The event is about a rule. -/
def isRuleEvent : TraceEvent → Bool
  | ruleExamined .. | ruleFired .. => true
  | _ => false

/-- The event ends the run. -/
def isTerminal : TraceEvent → Bool
  | runSucceeded .. | runFailed .. => true
  | _ => false

end TraceEvent

/-- An event, with its number, its pass and its time. -/
structure TraceRecord where
  /-- The number of records made before this one. -/
  id : Nat
  pass : Nat
  /-- Nanoseconds since the trace was begun. -/
  timestamp : Nat
  event : TraceEvent
  deriving DecidableEq

end ForwardChaining
