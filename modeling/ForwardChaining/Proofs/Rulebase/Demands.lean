import Mathlib.Data.String.Basic
import ForwardChaining.Proofs.Rulebase.Meaning

/-!
# What declarations demand

The declarations of a rulebase make demands, in order, each on its line: that a name is not blank,
that a name is one of the declared facts, that a message is said at all.  Each stage of building
meets its demands or raises the fault of the first that it cannot meet (`Rulebase.Raises`), and stages
that follow one another meet theirs one after the other (`Rulebase.Raises.bind`), so the whole of
building raises the fault of the first demand that is not met (`Rulebase.raises_build`).
-/

namespace ForwardChaining

/-- What is demanded of a rulebase that is to be built. -/
inductive Demand where
  /-- The name of a fact is not blank. -/
  | visible (name : String)
  /-- The name is one of the declared facts. -/
  | known (name : String)
  /-- The message of the fact is said at least once. -/
  | positive (fact : String) (count : Nat)
  deriving DecidableEq

/-- The demand of a declared fact. -/
def NameDeclaration.offer (d : NameDeclaration) : Nat × Demand :=
  (d.line, .visible d.name)

/-- The demand of a declared input. -/
def NameDeclaration.need (d : NameDeclaration) : Nat × Demand :=
  (d.line, .known d.name)

/-- The demands of a declared rule, those of its conditions first. -/
def RuleDeclaration.needs (d : RuleDeclaration) : List (Nat × Demand) :=
  (d.conditions ++ d.conclusions).map fun name => (d.line, .known name)

/-- The demands of a declared echo. -/
def EchoDeclaration.needs (d : EchoDeclaration) : List (Nat × Demand) :=
  [(d.line, .known d.fact), (d.line, .positive d.fact d.repeatCount)]

namespace Rulebase

/-- The names of the declared facts. -/
def declared (b : Rulebase) : List String :=
  b.facts.map fun d => Text.trimmed d.name

/-- The demands of all declarations, each with its line, in order. -/
def demands (b : Rulebase) : List (Nat × Demand) :=
  b.facts.map (·.offer)
    ++ (b.inputs.map (·.need) ++ (b.rules.flatMap (·.needs) ++ b.echoes.flatMap (·.needs)))

/-- The fault of a demand that is not met. -/
def fault? (b : Rulebase) : Demand → Option Fault
  | .visible name => if Registry.isBlankName name then some (.invalidName name) else none
  | .known name =>
    if Text.trimmed name ∈ b.declared then none else some (.unknownFact (Text.trimmed name))
  | .positive fact count => if count = 0 then some (.invalidRepeat (Text.trimmed fact)) else none

/-- The error of the first demand that is not met. -/
def firstError? (b : Rulebase) (demands : List (Nat × Demand)) : Option Error :=
  demands.findSome? fun (line, demand) => (b.fault? demand).map fun fault =>
    ⟨fault, some { source := b.source, line := some line }⟩

end Rulebase

/-- The error of a result that is one. -/
def raised {α : Type} : Except Error α → Option Error
  | .ok _ => none
  | .error e => some e

variable {α β : Type} {b : Rulebase} {r s : Registry} {line : Nat} {name : String} {fact : FactId}
  {result : Except Error α} {demands more : List (Nat × Demand)} {demand : Demand}

theorem raised_map (result : Except Error α) (f : α → β) :
  raised (result.map f) = raised result
  := by
  cases result <;> rfl

/-! ### What a registry refuses -/

/-- The registry knows the declared facts and no others. -/
structure Rulebase.Known (b : Rulebase) (r : Registry) : Prop where
  agrees : r.Agrees
  mem_names_iff : ∀ name, name ∈ r.vocabulary.names ↔ name ∈ b.declared

namespace Rulebase

theorem Known.extends (known : b.Known r) (extended : r.Extends s) : b.Known s := by
  constructor
  · exact known.agrees.changes extended.changes
  · rw [extended.vocabulary]
    exact known.mem_names_iff

/-- The result is an error if not all demands are met, and then it is that of the first. -/
def Raises (b : Rulebase) (result : Except Error α) (demands : List (Nat × Demand)) : Prop :=
  raised result = b.firstError? demands

theorem firstError?_append (b : Rulebase) (demands more : List (Nat × Demand)) :
  b.firstError? (demands ++ more) = (b.firstError? demands).or (b.firstError? more)
  := List.findSome?_append

/-- What follows makes its demands after those of what comes first. -/
theorem Raises.bind {next : α → Except Error β} (first : b.Raises result demands)
    (rest : ∀ a, result = .ok a → b.Raises (next a) more) :
  b.Raises (result >>= next) (demands ++ more)
  := by
  rw [Raises, firstError?_append, ← first]
  cases result with
  | error e => rfl
  | ok a => exact rest a rfl

theorem Raises.map (raises : b.Raises result demands) (f : α → β) :
  b.Raises (result.map f) demands
  := (raised_map result f).trans raises

/-- All demands are met. -/
structure Buildable (b : Rulebase) : Prop where
  facts : ∀ d ∈ b.facts, Text.trimmed d.name ≠ ""
  inputs : ∀ d ∈ b.inputs, Text.trimmed d.name ∈ b.declared
  conditions : ∀ d ∈ b.rules, ∀ name ∈ d.conditions, Text.trimmed name ∈ b.declared
  conclusions : ∀ d ∈ b.rules, ∀ name ∈ d.conclusions, Text.trimmed name ∈ b.declared
  echoes : ∀ d ∈ b.echoes, Text.trimmed d.fact ∈ b.declared
  repeats : ∀ d ∈ b.echoes, 1 ≤ d.repeatCount

/-- The error is that of the first demand that is not met, and it is put into the context of the
line of its declaration. -/
def Refuses (b : Rulebase) (e : Error) : Prop :=
  ∃ met line demand others fault, b.demands = met ++ (line, demand) :: others
    ∧ (∀ earlier ∈ met, b.fault? earlier.2 = none) ∧ b.fault? demand = some fault
    ∧ e = ⟨fault, some { source := b.source, line := some line }⟩

/-- A rulebase is not refused for a handle of another registry. -/
theorem Refuses.not_foreign {e : Error} (refused : b.Refuses e) (fact : FactId)
    (expected : RegistryId) :
  e.fault ≠ .foreignFact fact expected
  := by
  obtain ⟨met, line, demand, others, fault, -, -, unmet, rfl⟩ := refused
  rintro rfl
  rw [fault?.eq_def] at unmet
  split at unmet <;> split at unmet <;> cases unmet

/-- A rulebase is refused for a blank name only if a fact is declared by it. -/
theorem Refuses.blank {e : Error} (refused : b.Refuses e) (invalid : e.fault = .invalidName name) :
  ∃ d ∈ b.facts, d.name = name ∧ Registry.isBlankName name = true
  := by
  obtain ⟨met, line, demand, others, fault, shape, -, unmet, rfl⟩ := refused
  obtain rfl : fault = .invalidName name := invalid
  have member : (line, demand) ∈ b.demands := by
    rw [shape]
    exact List.mem_append_right _ List.mem_cons_self
  cases demand with
  | visible written =>
    rw [fault?] at unmet
    split at unmet
    · rename_i blank
      cases unmet
      obtain ⟨d, declared, -, named⟩ : ∃ d ∈ b.facts, d.line = line ∧ d.name = name := by
        simpa [demands, NameDeclaration.offer, NameDeclaration.need, RuleDeclaration.needs,
          EchoDeclaration.needs] using member
      exact ⟨d, declared, named, blank⟩
    · cases unmet
  | known written =>
    rw [fault?] at unmet
    split at unmet <;> cases unmet
  | positive written count =>
    rw [fault?] at unmet
    split at unmet <;> cases unmet

end Rulebase

end ForwardChaining
