import ForwardChaining.Solver.Basic

/-!
# Explanations

A pending rule is blocked when some of its conditions have not been asserted.  Such a
condition is awaited if another pending rule concludes it, and unreachable otherwise.  The
origin of a fact says how it came into working memory, or what would bring it there.
-/

namespace ForwardChaining

/-- What stands in the way of a missing condition. -/
inductive Blocker where
  /-- No other pending rule concludes the fact. -/
  | unreachable
  /-- These pending rules conclude the fact. -/
  | awaiting (rules : List RuleId)
  deriving DecidableEq

/-- A blocker, as the end of a line. -/
def Blocker.describe : Blocker → String
  | .unreachable => "no pending rule concludes it"
  | .awaiting rules =>
    "awaiting rule" ++ (if rules.length > 1 then "s" else "")
      ++ String.join (rules.map fun id => " " ++ id.describe)

/-- A condition that has not been asserted. -/
structure MissingCondition where
  fact : FactId
  blocker : Blocker
  deriving DecidableEq

/-- A pending rule that is not satisfied. -/
structure BlockedRule where
  rule : RuleId
  /-- The conditions that have not been asserted, in order of declaration. -/
  missing : List MissingCondition
  deriving DecidableEq

/-- Some missing condition is unreachable. -/
def BlockedRule.isUnreachable (b : BlockedRule) : Bool :=
  b.missing.any (·.blocker = .unreachable)

/-- How a fact came into working memory, or why it is not there. -/
inductive FactOrigin where
  /-- The fact is one of the inputs. -/
  | input
  /-- The fact was asserted when this rule fired. -/
  | concludedBy (rule : RuleId)
  /-- The fact is absent, and these pending rules conclude it. -/
  | pending (rules : List RuleId)
  /-- The fact is absent, and no pending rule concludes it. -/
  | unreachable
  deriving DecidableEq

namespace Solver

/-- The rule `id` has the fact among its conclusions. -/
def ruleConcludes (s : Solver) (fact : FactId) (id : RuleId) : Bool :=
  (s.rule? id).any (·.concludes fact)

/-- The pending rules that conclude the fact, without the rule `except`. -/
def concluders (s : Solver) (fact : FactId) (except : Option RuleId) : List RuleId :=
  (s.pending.toList.filter fun id => some id != except).filter (s.ruleConcludes fact)

/-- What stands in the way of the fact, the rule `except` not being counted. -/
def blocker (s : Solver) (fact : FactId) (except : Option RuleId) : Blocker :=
  match s.concluders fact except with
  | [] => .unreachable
  | rules => .awaiting rules

/-! ### Blocked rules -/

/-- The missing conditions of the rule `id`. -/
def missingConditions (s : Solver) (id : RuleId) : List MissingCondition :=
  match s.rule? id with
  | none => []
  | some rule => (rule.missing s.memory).map fun fact => ⟨fact, s.blocker fact (some id)⟩

/-- The pending rules that are not satisfied, in queue order. -/
def blocked (s : Solver) : List BlockedRule :=
  (s.pending.toList.map fun id => ⟨id, s.missingConditions id⟩).filter (!·.missing.isEmpty)

/-- A blocked rule, with a line for each missing condition. -/
def describeBlocked (s : Solver) (b : BlockedRule) : String :=
  let label := ((s.rule? b.rule).bind (·.label)).elim "" fun label => " (" ++ label ++ ")"
  let lines := b.missing.map fun m =>
    "\n  - " ++ s.registry.displayName m.fact ++ ": " ++ m.blocker.describe
  "rule " ++ b.rule.describe ++ label ++ " is waiting on:" ++ String.join lines

/-- Blocked rules as text. -/
def explain (s : Solver) (blocked : List BlockedRule) : String :=
  if blocked.isEmpty then "no pending rule is blocked"
  else "\n".intercalate (blocked.map s.describeBlocked)

/-! ### Origins -/

/-- The conclusions of the rule `id`. -/
def conclusionsOf (s : Solver) (id : RuleId) : List FactId :=
  (s.rule? id).elim [] (·.conclusions)

/-- The rule whose conclusions cover the place `position` of the memory, when the conclusions
of `fired` begin at the place `offset`. -/
def originAt (s : Solver) (position : Nat) : Nat → List RuleId → FactOrigin
  | _, [] => .unreachable
  | offset, id :: fired =>
    let next := offset + (s.conclusionsOf id).length
    if position < next then .concludedBy id else s.originAt position next fired

/-- How the fact came into working memory, or why it is not there.  The memory holds the
inputs, followed by the conclusions of the fired rules in firing order. -/
def origin (s : Solver) (fact : FactId) : FactOrigin :=
  match s.memory.sequence.findIdx? (· = fact) with
  | none =>
    match s.blocker fact none with
    | .unreachable => .unreachable
    | .awaiting rules => .pending rules
  | some position =>
    let offset := s.memory.size - (s.fired.toList.flatMap s.conclusionsOf).length
    if position < offset then .input else s.originAt position offset s.fired.toList

/-- The origin of a fact, which the solver's registry must have issued. -/
def why (s : Solver) (fact : FactId) : Except Error FactOrigin := do
  s.registry.check fact
  return s.origin fact

end Solver

end ForwardChaining
