import ForwardChaining.Fact

/-!
# Errors

A `Fault` is the cause of a failure, `Fault.message` its wording.  An `Error` is a fault
together with the place where it was met, if that is known.  A run that comes to a deadlock
is not an error.
-/

namespace ForwardChaining

/-- The cause of a failure. -/
inductive Fault where
  /-- A name offered to a registry is blank. -/
  | invalidName (name : String)
  /-- A name is not one of the registry's vocabulary. -/
  | unknownFact (name : String)
  /-- A handle was issued by another registry than the expected one. -/
  | foreignFact (fact : FactId) (expected : RegistryId)
  /-- A repeat count of zero for the named fact. -/
  | invalidRepeat (fact : String)
  /-- No rule has this place in the list of rules. -/
  | unknownRule (index : Nat)
  /-- No snapshot of this step is retained. -/
  | snapshotNotFound (step : Nat)
  /-- A line of a rulebase is malformed. -/
  | malformed (problem : String) (line : Nat) (text : String)
  /-- A command line is not understood. -/
  | invalidCommand (problem : String)
  /-- A file cannot be read or written. -/
  | io (problem : String)
  /-- A run record cannot be decoded. -/
  | serialization (problem : String)
  deriving DecidableEq

namespace Fault

/-- The wording of a fault. -/
def message : Fault → String
  | invalidName name => "invalid fact name: " ++ Text.quoted name
  | unknownFact name =>
    "unknown fact \"" ++ name ++ "\": register it in the vocabulary or correct the name"
  | foreignFact fact expected =>
    "fact " ++ fact.describe ++ " belongs to " ++ fact.registry.describe
      ++ ", expected " ++ expected.describe
  | invalidRepeat fact => "repeat count for \"" ++ fact ++ "\" must be at least 1"
  | unknownRule index => "unknown rule: #" ++ toString index
  | snapshotNotFound step => "no snapshot recorded for step " ++ toString step
  | malformed problem line _ => "parse error at line " ++ toString line ++ ": " ++ problem
  | invalidCommand problem => problem
  | io problem => "io error: " ++ problem
  | serialization problem => "serialization error: " ++ problem

/-- The faults of a caller that breaks the terms of a registry. -/
def isValidation : Fault → Bool
  | invalidName _ | foreignFact _ _ | invalidRepeat _ => true
  | _ => false

end Fault

/-- Where a fault was met. -/
structure Context where
  /-- The file or label. -/
  source : Option String := none
  /-- The line of the source. -/
  line : Option Nat := none
  /-- The enclosing operations, innermost last. -/
  stack : List String := []
  deriving DecidableEq

/-- A context as text: the place, and below it one line for each enclosing operation. -/
def Context.describe (c : Context) : String :=
  let line := c.line.elim "" fun n => ":" ++ toString n
  let place := c.source.elim "" fun source => "at " ++ source ++ line
  let frames := c.stack.map fun frame => "  in " ++ frame ++ "\n"
  if frames.isEmpty then place else place ++ "\n" ++ String.join frames

/-- A fault, with its context if that is known. -/
structure Error where
  fault : Fault
  context : Option Context := none
  deriving DecidableEq

namespace Error

/-- The wording of an error is that of its fault. -/
def message (e : Error) : String :=
  e.fault.message

/-- The error `e`, met in the context `c`. -/
def within (e : Error) (c : Context) : Error :=
  { e with context := some c }

end Error

/-- Raises a fault whose context is not known. -/
def fail {α : Type} (fault : Fault) : Except Error α :=
  .error { fault := fault }

/-- The fact `f` with its repeat count set; a repeat count is at least one. -/
def Fact.withRepeat (f : Fact) (count : Nat) : Except Error Fact :=
  if count = 0 then fail (.invalidRepeat f.name) else .ok { f with repeatCount := count }

end ForwardChaining
