import ForwardChaining.Rulebase.Basic
import ForwardChaining.Solver.Basic

/-!
# Building solvers

A rulebase is turned into a solver by registering its facts, and then resolving the names of
its inputs, its rules and its echoes, in this order.  The first name that cannot be resolved
is reported, with the source and the line of its declaration.
-/

namespace ForwardChaining

/-- The effect of an echo: its message, or the name of the fact if the message is empty. -/
def EchoDeclaration.effect (e : EchoDeclaration) : Effect :=
  if e.message.isEmpty then .sayName else .say e.message

namespace Rulebase

/-- Puts the fault of a declaration into the context of its line. -/
def located {α : Type} (b : Rulebase) (line : Nat) (result : Except Error α) : Except Error α :=
  result.mapError (·.within { source := b.source, line := some line })

/-- Registers the declared facts. -/
def registerFacts (b : Rulebase) (r : Registry) : List NameDeclaration → Except Error Registry
  | [] => .ok r
  | d :: rest => do
    let (r, _) ← b.located d.line (r.register [d.name])
    b.registerFacts r rest

/-- Resolves the declared inputs. -/
def resolveInputs (b : Rulebase) (r : Registry) :
    List NameDeclaration → Except Error (Registry × List FactId)
  | [] => .ok (r, [])
  | d :: rest => do
    let (r, id) ← b.located d.line (r.get d.name)
    let (r, ids) ← b.resolveInputs r rest
    return (r, id :: ids)

/-- Resolves names that stand on one line. -/
def resolveNames (b : Rulebase) (line : Nat) (r : Registry) (names : List String) :
    Except Error (Registry × List FactId) :=
  let (r, ids) := r.getAll names
  (b.located line ids).map fun ids => (r, ids)

/-- Resolves the declared rules. -/
def resolveRules (b : Rulebase) (r : Registry) :
    List RuleDeclaration → Except Error (Registry × List Rule)
  | [] => .ok (r, [])
  | d :: rest => do
    let (r, conditions) ← b.resolveNames d.line r d.conditions
    let (r, conclusions) ← b.resolveNames d.line r d.conclusions
    let (r, rules) ← b.resolveRules r rest
    return (r, { Rule.implies conditions conclusions with label := d.label } :: rules)

/-- Attaches the declared echoes; of several for one fact the last counts. -/
def attachEchoes (b : Rulebase) (r : Registry) : List EchoDeclaration → Except Error Registry
  | [] => .ok r
  | d :: rest => do
    let (r, id) ← b.located d.line (r.get d.fact)
    let r ← b.located d.line (r.setRepeat id d.repeatCount)
    b.attachEchoes (r.setEffect id (some d.effect)) rest

/-- The solver of a rulebase, over a registry with the given number. -/
def build (b : Rulebase) (id : RegistryId) (config : SolverConfig := {}) : Except Error Solver := do
  let r ← b.registerFacts (.empty id) b.facts
  let (r, inputs) ← b.resolveInputs r b.inputs
  let (r, rules) ← b.resolveRules r b.rules
  let r ← b.attachEchoes r b.echoes
  Solver.create r inputs rules config

end Rulebase

end ForwardChaining
