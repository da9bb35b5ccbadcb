import ForwardChaining.Rule

/-!
# Status and outcomes of a run

A run goes on until every rule has fired or a whole pass over the pending rules fires none.
-/

namespace ForwardChaining

/-- The remaining rules can never be satisfied. -/
structure Deadlock where
  /-- The pending rules, in queue order. -/
  unsatisfied : List RuleId
  /-- The number of passes completed when the deadlock was found. -/
  iteration : Nat
  deriving DecidableEq

/-- A deadlock, as a clause. -/
def Deadlock.describe (d : Deadlock) : String :=
  "no progress possible; rules" ++ String.join (d.unsatisfied.map fun id => " " ++ id.describe)
    ++ " can never be satisfied"

/-- How far a run has come. -/
inductive Status where
  /-- The run goes on. -/
  | running
  /-- Every rule has fired. -/
  | succeeded
  /-- A whole pass fired no rule. -/
  | failed (deadlock : Deadlock)
  deriving DecidableEq

/-- The run is over. -/
def Status.isTerminal : Status → Bool
  | .running => false
  | _ => true

/-- One rule was examined. -/
structure Examination where
  rule : RuleId
  /-- The rule was satisfied and fired. -/
  performing : Bool
  /-- The facts asserted, in order. -/
  asserted : List FactId
  deriving DecidableEq

/-- What a step comes to. -/
inductive Outcome where
  /-- A rule was examined. -/
  | examined (step : Examination)
  /-- The run has succeeded. -/
  | succeeded
  /-- The run has failed. -/
  | failed (deadlock : Deadlock)
  deriving DecidableEq

namespace Outcome

/-- The run is over. -/
def isTerminal : Outcome → Bool
  | examined _ => false
  | _ => true

/-- True for success, false for failure, nothing while the run goes on. -/
def verdict : Outcome → Option Bool
  | examined _ => none
  | succeeded => some true
  | failed _ => some false

/-- The examination, if the outcome is one. -/
def examination? : Outcome → Option Examination
  | examined step => some step
  | _ => none

end Outcome

/-- How a run ended. -/
inductive Termination where
  | succeeded
  | failed (deadlock : Deadlock)
  deriving DecidableEq

namespace Termination

/-- Every rule fired. -/
def isSuccess : Termination → Bool
  | succeeded => true
  | failed _ => false

/-- The deadlock, if the run failed. -/
def deadlock? : Termination → Option Deadlock
  | succeeded => none
  | failed d => some d

end Termination

/-- The end of a run that an outcome reports, if it reports one. -/
def Outcome.termination? : Outcome → Option Termination
  | examined _ => none
  | succeeded => some .succeeded
  | failed d => some (.failed d)

end ForwardChaining
