import ForwardChaining.Proofs.Rulebase.Demands

/-!
# What is built

A rulebase can be built exactly if all that its declarations demand is met, and what is built is what
they say (`Rulebase.builds_as_declared`): the vocabulary, the inputs and the rules have the declared
names, and what is said of a fact is what the last echo for it tells.
-/

namespace ForwardChaining

variable {b : Rulebase} {r s : Registry} {id : RegistryId} {config : SolverConfig}
  {inputs : List FactId} {rules : List Rule} {solver : Solver} {name : String}

/-! ### Rules by their names -/

/-- Handles are passed over exactly if their names are. -/
theorem Registry.Agrees.map_name?_appendNew {seen names : List String} {target facts : List FactId}
    (agrees : r.Agrees) (named : target.map r.name? = seen.eraseDups.map some)
    (resolves : r.Resolves names facts) :
  (appendNew target facts).map r.name? = (seen ++ names.map Text.trimmed).eraseDups.map some
  := by
  induction resolves generalizing target seen with
  | nil => rw [List.map_nil, List.append_nil, ← named, appendNew, List.foldl_nil]
  | @cons name fact names facts stands _ ih =>
    have known : target.contains fact = true ↔ Text.trimmed name ∈ seen := by
      have place : Text.trimmed name ∈ seen ↔ some (Text.trimmed name) ∈ target.map r.name? := by
        rw [named, List.mem_map]
        simp
      rw [List.contains_iff_mem, place, List.mem_map]
      constructor
      · intro member
        exact ⟨fact, member, stands⟩
      · rintro ⟨other, member, named⟩
        rw [agrees.eq_of_stands stands named]
        exact member
    rw [appendNew_cons, List.map_cons, List.append_cons seen]
    apply ih
    rw [eraseDups_concat]
    split
    · rename_i there
      rw [if_pos (known.mp there), named]
    · rename_i new
      rw [if_neg (mt known.mpr new), List.map_append, List.map_append, named]
      exact congrArg (_ ++ [·]) stands

/-- The facts of the rule have the declared names, blanks around them apart, each where it first
stands. -/
structure Registry.Reads (r : Registry) (d : RuleDeclaration) (rule : Rule) : Prop where
  label : rule.label = d.label
  conditions : rule.conditions.map r.name? = (d.conditions.map Text.trimmed).eraseDups.map some
  conclusions : rule.conclusions.map r.name? = (d.conclusions.map Text.trimmed).eraseDups.map some

theorem Registry.ResolvesRule.reads {d : RuleDeclaration} {rule : Rule} (agrees : r.Agrees)
    (resolved : r.ResolvesRule d rule) :
  r.Reads d rule
  := by
  obtain ⟨label, conditions, conclusions, conditions_ok, conclusions_ok, same, same'⟩ := resolved
  have none : ([] : List FactId).map r.name? = ([] : List String).eraseDups.map some := rfl
  constructor
  · exact label
  · rw [same, Rule.conditions_implies]
    exact agrees.map_name?_appendNew none conditions_ok
  · rw [same', Rule.conclusions_implies]
    exact agrees.map_name?_appendNew none conclusions_ok

/-! ### What echoes set -/

/-- What the echo sets. -/
def EchoDeclaration.settings (d : EchoDeclaration) : FactSettings where
  effect := some d.effect
  repeatCount := d.repeatCount

namespace Rulebase

/-- The last echo for the fact with this name. -/
def echoFor? (b : Rulebase) (name : String) : Option EchoDeclaration :=
  b.echoes.reverse.find? fun d => Text.trimmed d.fact = name

end Rulebase

/-! ### What is built -/

/-- The fact says what the last echo for it tells, as often as it tells, and nothing if there is
none. -/
structure Fact.Echoes (f : Fact) (b : Rulebase) : Prop where
  effect : f.effect = (b.echoFor? f.name).map (·.effect)
  repeatCount : f.repeatCount = (b.echoFor? f.name).elim 1 (·.repeatCount)
  /-- An empty message stands for the name of the fact. -/
  said : ∀ vocabulary, (f.perform vocabulary).map (·.message)
    = (b.echoFor? f.name).elim [] fun d =>
      List.replicate d.repeatCount (if d.message = "" then f.name else d.message)

namespace Rulebase

/-- The solver is new, and its names, its inputs, its rules and its facts are the declared ones. -/
structure Built (b : Rulebase) (config : SolverConfig) (solver : Solver) : Prop where
  /-- The solver stands at the beginning of a run. -/
  new : solver
    = .initial solver.registry solver.memory.sequence solver.rules.toList config
  /-- The vocabulary lists the declared names, each where it first stands. -/
  vocabulary : solver.registry.vocabulary.names = b.declared.eraseDups
  /-- The inputs have been asserted, in order. -/
  memory : solver.memory.sequence.map solver.registry.name?
    = b.inputs.map fun d => some (Text.trimmed d.name)
  rules : List.Forall₂ solver.registry.Reads b.rules solver.rules.toList
  facts : ∀ f ∈ solver.registry.facts, f.Echoes b
  /-- A declared fact that is not in the table yet is made when it is asked for. -/
  asked : ∀ name, Text.trimmed name ∈ b.declared → ∃ s handle f,
    solver.registry.get name = .ok (s, handle) ∧ s.fact? handle = some f
      ∧ f.name = Text.trimmed name ∧ f.Echoes b

/-- What comes of building a rulebase. -/
structure Builds (b : Rulebase) (id : RegistryId) (config : SolverConfig) : Prop where
  ok_iff : (∃ solver, b.build id config = .ok solver) ↔ b.Buildable
  error_iff : ∀ e, b.build id config = .error e ↔ b.Refuses e
  not_foreign : ∀ e, b.build id config = .error e →
    ∀ fact expected, e.fault ≠ .foreignFact fact expected
  /-- No name that was read is refused as blank. -/
  not_invalid : ∀ text read, parse text = .ok read → b = { read with source := b.source } →
    ∀ e, b.build id config = .error e → ∀ name, e.fault ≠ .invalidName name
  built : ∀ solver, b.build id config = .ok solver → b.Built config solver

/-- A message that is not to be said at all is refused, with the line on which it stands. -/
example :
  ({ source := some "weather"
     facts := [⟨" rain ", 1⟩]
     echoes := [⟨"rain", 2, "wet", 2⟩, ⟨"rain ", 0, "dry", 3⟩] } : Rulebase).build ⟨0⟩
    = .error ⟨.invalidRepeat "rain", some { source := some "weather", line := some 3 }⟩
  := by
  decide +kernel

end Rulebase

end ForwardChaining
