import ForwardChaining.Rulebase.Build
import ForwardChaining.Proofs.Registry.Settings
import ForwardChaining.Proofs.Rulebase.WellFormed
import ForwardChaining.Proofs.Solver.Fixpoint

/-!
# What a rulebase means

A rulebase says which names follow from its inputs by its rules (`Rulebase.Derives`).  The solver
that is built of it finds this out: its run succeeds if the conditions of all rules follow, and fails
otherwise, with the rules of which some condition does not (`Rulebase.decides_of_build`).
-/

namespace ForwardChaining

theorem Text.trimmed_of_isEntry {name : String} (entry : IsEntry name.toList) :
  trimmed name = name
  := by
  rw [trimmed, entry.trimmed, String.ofList_toList]

theorem mem_appendNew {target facts : List FactId} {f : FactId} :
  f ∈ appendNew target facts ↔ f ∈ target ∨ f ∈ facts
  := by
  induction facts generalizing target with
  | nil => simp [appendNew]
  | cons first facts ih =>
    rw [appendNew_cons, ih, List.mem_cons]
    split
    · rename_i known
      have member : first ∈ target := List.contains_iff_mem.mp known
      constructor
      · rintro (old | new)
        · left
          apply old
        · right; right
          apply new
      · rintro (old | rfl | new)
        · left
          apply old
        · left
          apply member
        · right
          apply new
    · rw [List.mem_append, List.mem_singleton, or_assoc]

theorem Rule.mem_conditions_implies {conditions conclusions : List FactId} {f : FactId} :
  f ∈ (Rule.implies conditions conclusions).conditions ↔ f ∈ conditions
  := by
  rw [Rule.conditions_implies, mem_appendNew, or_iff_right List.not_mem_nil]

theorem Rule.mem_conclusions_implies {conditions conclusions : List FactId} {f : FactId} :
  f ∈ (Rule.implies conditions conclusions).conclusions ↔ f ∈ conclusions
  := by
  rw [Rule.conclusions_implies, mem_appendNew, or_iff_right List.not_mem_nil]

/-- The rule is the declared one, with handles of the registry for its names. -/
structure Registry.ResolvesRule (r : Registry) (d : RuleDeclaration) (rule : Rule) : Prop where
  label : rule.label = d.label
  exists_resolved : ∃ conditions conclusions, r.Resolves d.conditions conditions
    ∧ r.Resolves d.conclusions conclusions
    ∧ rule.conditions = (Rule.implies conditions conclusions).conditions
    ∧ rule.conclusions = (Rule.implies conditions conclusions).conclusions

theorem Registry.ResolvesRule.mono {r s : Registry} {d : RuleDeclaration} {rule : Rule}
    (resolved : r.ResolvesRule d rule) (grows : r.Grows s) :
  s.ResolvesRule d rule
  := by
  obtain ⟨label, conditions, conclusions, conditions_ok, conclusions_ok, same⟩ := resolved
  apply ResolvesRule.mk label
  use conditions, conclusions
  apply And.intro (conditions_ok.mono grows)
  apply And.intro (conclusions_ok.mono grows) same

theorem Registry.ResolvesRule.covers_conditions {r : Registry} {d : RuleDeclaration} {rule : Rule}
    (resolved : r.ResolvesRule d rule) :
  r.Covers d.conditions rule.conditions
  := by
  obtain ⟨-, conditions, conclusions, resolves, -, same, -⟩ := resolved
  obtain ⟨named, exists_handle⟩ := resolves.covers
  rw [same]
  constructor
  · intro fact member
    apply named fact (Rule.mem_conditions_implies.mp member)
  · intro name member
    obtain ⟨fact, there, stands⟩ := exists_handle name member
    exact ⟨fact, Rule.mem_conditions_implies.mpr there, stands⟩

theorem Registry.ResolvesRule.covers_conclusions {r : Registry} {d : RuleDeclaration} {rule : Rule}
    (resolved : r.ResolvesRule d rule) :
  r.Covers d.conclusions rule.conclusions
  := by
  obtain ⟨-, conditions, conclusions, -, resolves, -, same⟩ := resolved
  obtain ⟨named, exists_handle⟩ := resolves.covers
  rw [same]
  constructor
  · intro fact member
    apply named fact (Rule.mem_conclusions_implies.mp member)
  · intro name member
    obtain ⟨fact, there, stands⟩ := exists_handle name member
    exact ⟨fact, Rule.mem_conclusions_implies.mpr there, stands⟩

namespace Rulebase

/-! ### What follows -/

/-- The name follows from the inputs of the rulebase by its rules. -/
inductive Derives (b : Rulebase) : String → Prop where
  | input {d : NameDeclaration} (declared : d ∈ b.inputs) : Derives b d.name
  | rule {d : RuleDeclaration} {name : String} (declared : d ∈ b.rules)
    (conditions : ∀ condition ∈ d.conditions, Derives b condition)
    (concluded : name ∈ d.conclusions) : Derives b name

/-- Everything follows that the rule needs. -/
def Enables (b : Rulebase) (d : RuleDeclaration) : Prop :=
  ∀ condition ∈ d.conditions, b.Derives condition

/-! ### What is built -/

variable {b : Rulebase} {id : RegistryId} {config : SolverConfig} {r s : Registry}
  {inputs : List FactId} {rules : List Rule}

/-- To put a fault into its context changes no result that is none. -/
theorem located_eq_ok_iff {α : Type} {line : Nat} {result : Except Error α} {a : α} :
  b.located line result = .ok a ↔ result = .ok a
  := by
  cases result with
  | error e =>
    constructor
    · intro impossible
      cases impossible
    · intro impossible
      cases impossible
  | ok a' => exact Iff.rfl

/-- The declared facts are registered. -/
theorem registers_registerFacts {ds : List NameDeclaration}
    (registered : b.registerFacts r ds = .ok s) :
  Relation.ReflTransGen Registry.Changes r s
    ∧ s.vocabulary = r.vocabulary.insertAll (ds.map fun d => Text.trimmed d.name)
  := by
  induction ds generalizing r with
  | nil =>
    cases registered
    exact ⟨.refl, rfl⟩
  | cons d ds ih =>
    obtain ⟨⟨r', count⟩, first, rest⟩ := exists_of_bind_eq_ok registered
    have accepted := located_eq_ok_iff.mp first
    have served : (r.serve (.register [d.name])).1 = r' := by
      rw [Registry.serve, accepted]
      rfl
    have names : r'.vocabulary = r.vocabulary.insert (Text.trimmed d.name) := by
      rw [Registry.register] at accepted
      split at accepted
      · cases accepted
      · cases accepted
        rfl
    obtain ⟨later, vocabulary⟩ := ih rest
    constructor
    · apply Relation.ReflTransGen.trans _ later
      rw [← served]
      apply r.changes_serve
    · rw [vocabulary, names]
      rfl

/-- The inputs are resolved, in order. -/
theorem resolves_of_resolveInputs {ds : List NameDeclaration} (agrees : r.Agrees)
    (resolved : b.resolveInputs r ds = .ok (s, inputs)) :
  r.Asked s ∧ s.Resolves (ds.map (·.name)) inputs
  := by
  induction ds generalizing r inputs with
  | nil =>
    cases resolved
    exact ⟨.refl _, .nil⟩
  | cons d ds ih =>
    obtain ⟨⟨r', fact⟩, first, more⟩ := exists_of_bind_eq_ok resolved
    obtain ⟨⟨s', facts⟩, rest, same⟩ := exists_of_bind_eq_ok more
    cases same
    have got := located_eq_ok_iff.mp first
    have asked := agrees.asked_get got
    obtain ⟨later, resolves⟩ := ih (agrees.changes asked.changes) rest
    apply And.intro (asked.trans later)
    apply List.Forall₂.cons _ resolves
    apply (agrees.stands_get got).mono later.grows

theorem resolves_of_resolveNames {names : List String} {line : Nat} (agrees : r.Agrees)
    (resolved : b.resolveNames line r names = .ok (s, inputs)) :
  r.Asked s ∧ s.Resolves names inputs
  := by
  obtain ⟨facts, located, same⟩ := exists_of_map_eq_ok resolved
  cases same
  apply And.intro (agrees.asked_getAll names)
  apply agrees.resolves_getAll (located_eq_ok_iff.mp located)

/-- The rules are resolved, in order. -/
theorem resolves_of_resolveRules {ds : List RuleDeclaration} (agrees : r.Agrees)
    (resolved : b.resolveRules r ds = .ok (s, rules)) :
  r.Asked s ∧ List.Forall₂ s.ResolvesRule ds rules
  := by
  induction ds generalizing r rules with
  | nil =>
    cases resolved
    exact ⟨.refl _, .nil⟩
  | cons d ds ih =>
    obtain ⟨⟨r₁, conditions⟩, first, more⟩ := exists_of_bind_eq_ok resolved
    obtain ⟨⟨r₂, conclusions⟩, second, more⟩ := exists_of_bind_eq_ok more
    obtain ⟨⟨r₃, others⟩, rest, same⟩ := exists_of_bind_eq_ok more
    cases same
    obtain ⟨asked₁, conditions_ok⟩ := resolves_of_resolveNames agrees first
    obtain ⟨asked₂, conclusions_ok⟩ :=
      resolves_of_resolveNames (agrees.changes asked₁.changes) second
    have asked := asked₁.trans asked₂
    obtain ⟨later, resolves⟩ := ih (agrees.changes asked.changes) rest
    apply And.intro (asked.trans later)
    apply List.Forall₂.cons _ resolves
    constructor
    · rfl
    · use conditions, conclusions
      constructor
      · apply conditions_ok.mono (asked₂.trans later).grows
      · apply And.intro (conclusions_ok.mono later.grows) (And.intro rfl rfl)

theorem extends_attachEchoes {ds : List EchoDeclaration}
    (attached : b.attachEchoes r ds = .ok s) :
  r.Extends s
  := by
  induction ds generalizing r with
  | nil =>
    cases attached
    exact .refl _
  | cons d ds ih =>
    obtain ⟨⟨r₁, fact⟩, first, more⟩ := exists_of_bind_eq_ok attached
    obtain ⟨r₂, second, rest⟩ := exists_of_bind_eq_ok more
    have counted := Registry.set_of_setRepeat (located_eq_ok_iff.mp second)
    apply (Registry.extends_get (located_eq_ok_iff.mp first)).trans
    apply Registry.Extends.trans _ (ih rest)
    rw [← counted]
    apply (r₁.extends_set fact _).trans
    apply Registry.extends_set _ fact (.effect (some d.effect))

/-- The registry knows the declared names, and the inputs and the rules are the declared ones. -/
structure Resolved (b : Rulebase) (r : Registry) (inputs : List FactId) (rules : List Rule) :
    Prop where
  agrees : r.Agrees
  vocabulary : r.vocabulary = .ofNames (b.facts.map fun d => Text.trimmed d.name)
  inputs : r.Resolves (b.inputs.map (·.name)) inputs
  rules : List.Forall₂ r.ResolvesRule b.rules rules

/-- The stages of building resolve the declarations. -/
theorem resolved_of_stages {r₁ r₂ r₃ r₄ : Registry}
    (registered : b.registerFacts (.empty id) b.facts = .ok r₁)
    (resolvedInputs : b.resolveInputs r₁ b.inputs = .ok (r₂, inputs))
    (resolvedRules : b.resolveRules r₂ b.rules = .ok (r₃, rules))
    (attached : b.attachEchoes r₃ b.echoes = .ok r₄) :
  b.Resolved r₄ inputs rules
  := by
  obtain ⟨changed, vocabulary⟩ := registers_registerFacts registered
  have agrees := (Registry.agrees_empty id).changes changed
  obtain ⟨asked₁, inputs_ok⟩ := resolves_of_resolveInputs agrees resolvedInputs
  obtain ⟨asked₂, rules_ok⟩ :=
    resolves_of_resolveRules (agrees.changes asked₁.changes) resolvedRules
  have extended := extends_attachEchoes attached
  have whole := (asked₁.trans asked₂).toExtends.trans extended
  constructor
  · apply agrees.changes whole.changes
  · rw [whole.vocabulary, vocabulary]
    rfl
  · apply inputs_ok.mono (asked₂.toExtends.trans extended).grows
  · apply rules_ok.imp
    intro d rule resolved
    apply resolved.mono extended.grows

/-- The solver is new, and its names, its inputs and its rules are the declared ones. -/
structure Means (b : Rulebase) (config : SolverConfig) (inputs : List FactId) (rules : List Rule)
    (solver : Solver) : Prop where
  agrees : solver.registry.Agrees
  vocabulary : solver.registry.vocabulary = .ofNames (b.facts.map fun d => Text.trimmed d.name)
  created : Solver.create solver.registry inputs rules config = .ok solver
  inputs : solver.registry.Resolves (b.inputs.map (·.name)) inputs
  rules : List.Forall₂ solver.registry.ResolvesRule b.rules rules

/-- What is built is the solver of the declared inputs and rules. -/
theorem means_of_build {solver : Solver} (built : b.build id config = .ok solver) :
  ∃ inputs rules, b.Means config inputs rules solver
  := by
  obtain ⟨r₁, registered, more⟩ := exists_of_bind_eq_ok built
  obtain ⟨⟨r₂, inputs⟩, resolvedInputs, more⟩ := exists_of_bind_eq_ok more
  obtain ⟨⟨r₃, rules⟩, resolvedRules, more⟩ := exists_of_bind_eq_ok more
  obtain ⟨r₄, attached, created⟩ := exists_of_bind_eq_ok more
  have resolved := resolved_of_stages registered resolvedInputs resolvedRules attached
  obtain rfl := Solver.registry_of_create created
  use inputs, rules
  exact ⟨resolved.agrees, resolved.vocabulary, created, resolved.inputs, resolved.rules⟩

/-! ### What a run finds out -/

/-- The names of the inputs and of the rules have no blanks around them. -/
structure Plain (b : Rulebase) : Prop where
  inputs : ∀ d ∈ b.inputs, Text.trimmed d.name = d.name
  conditions : ∀ d ∈ b.rules, ∀ name ∈ d.conditions, Text.trimmed name = name
  conclusions : ∀ d ∈ b.rules, ∀ name ∈ d.conclusions, Text.trimmed name = name

/-- The names of a rule that a line can declare have no blanks around them. -/
theorem RuleDeclaration.trimmed_of_wellFormed {d : RuleDeclaration}
    (d_ok : d.declaration.WellFormed) :
  (∀ name ∈ d.conditions, Text.trimmed name = name)
    ∧ ∀ name ∈ d.conclusions, Text.trimmed name = name
  := by
  obtain ⟨-, conditions_ok, conclusions_ok, -⟩ := Declaration.wellFormed_rule_iff.mp d_ok
  constructor
  · intro name member
    apply Text.trimmed_of_isEntry
    apply (conditions_ok _ (List.mem_map_of_mem member)).1.toIsEntry
  · intro name member
    apply Text.trimmed_of_isEntry
    apply (conclusions_ok _ (List.mem_map_of_mem member)).1.toIsEntry

theorem plain_of_wellFormed (b_ok : b.WellFormed) :
  b.Plain
  := by
  obtain ⟨-, inputs_ok, rules_ok, -⟩ := wellFormed_iff.mp b_ok
  constructor
  · intro d declared
    apply Text.trimmed_of_isEntry (inputs_ok d declared).1.toIsEntry
  · intro d declared
    apply (RuleDeclaration.trimmed_of_wellFormed (rules_ok d declared)).1
  · intro d declared
    apply (RuleDeclaration.trimmed_of_wellFormed (rules_ok d declared)).2

variable {solver : Solver} {facts : Set FactId}

/-- What follows by name is what the least closed set of facts holds. -/
theorem Means.derives_iff (means : b.Means config inputs rules solver) (plain : b.Plain)
    (least : IsLeast {facts | Closed inputs rules facts} facts) {name : String} {fact : FactId}
    (named : solver.registry.name? fact = some name) :
  fact ∈ facts ↔ b.Derives name
  := by
  have input_ok := means.inputs.covers
  constructor
  · intro member
    -- the facts whose names follow are a closed set
    have closed : Closed inputs rules
        {f | ∀ name, solver.registry.name? f = some name → b.Derives name} := by
      constructor
      · intro f input name named
        obtain ⟨written, mentioned, stands⟩ := input_ok.named f input
        obtain ⟨d, declared, rfl⟩ := List.mem_map.mp mentioned
        rw [stands, plain.inputs d declared] at named
        cases named
        apply Derives.input declared
      · intro rule member conditions f concluded name named
        obtain ⟨d, declared, resolved⟩ := exists_of_mem_right means.rules member
        obtain ⟨written, mentioned, stands⟩ := resolved.covers_conclusions.named f concluded
        rw [stands, plain.conclusions d declared written mentioned] at named
        cases named
        apply Derives.rule declared _ mentioned
        intro condition needed
        obtain ⟨f, there, stands⟩ := resolved.covers_conditions.exists_handle condition needed
        apply conditions f there
        rw [stands, plain.conditions d declared condition needed]
    apply least.2 closed member name named
  · intro derived
    induction derived generalizing fact with
    | @input d declared =>
      obtain ⟨f, input, stands⟩ :=
        input_ok.exists_handle d.name (List.mem_map.mpr ⟨d, declared, rfl⟩)
      rw [Registry.Stands, plain.inputs d declared] at stands
      rw [means.agrees.eq_of_name? named stands]
      apply least.1.inputs f input
    | @rule d name declared _ concluded ih =>
      obtain ⟨rule, member, resolved⟩ := exists_of_mem_left means.rules declared
      obtain ⟨f, there, stands⟩ := resolved.covers_conclusions.exists_handle name concluded
      rw [Registry.Stands, plain.conclusions d declared name concluded] at stands
      rw [means.agrees.eq_of_name? named stands]
      apply least.1.conclusions rule member _ f there
      intro condition needed
      obtain ⟨written, mentioned, stands⟩ := resolved.covers_conditions.named condition needed
      apply ih written mentioned
      rw [stands, plain.conditions d declared written mentioned]

/-- The conditions of a rule are among the facts if they all follow. -/
theorem Means.enables_iff (means : b.Means config inputs rules solver) (plain : b.Plain)
    (least : IsLeast {facts | Closed inputs rules facts} facts) {d : RuleDeclaration} {rule : Rule}
    (declared : d ∈ b.rules) (resolved : solver.registry.ResolvesRule d rule) :
  (∀ fact ∈ rule.conditions, fact ∈ facts) ↔ b.Enables d
  := by
  have covers := resolved.covers_conditions
  constructor
  · intro all name needed
    obtain ⟨fact, there, stands⟩ := covers.exists_handle name needed
    rw [Registry.Stands, plain.conditions d declared name needed] at stands
    apply (means.derives_iff plain least stands).mp (all fact there)
  · intro enabled fact there
    obtain ⟨name, needed, stands⟩ := covers.named fact there
    rw [Registry.Stands, plain.conditions d declared name needed] at stands
    apply (means.derives_iff plain least stands).mpr (enabled name needed)

/-- A rule has fired if everything follows that it needs. -/
theorem Means.fired_iff (means : b.Means config inputs rules solver) (plain : b.Plain)
    (saturated : Solver.Saturated inputs rules solver.run.1 solver.run.2) {d : RuleDeclaration}
    {i : Nat} (found : b.rules[i]? = some d) :
  ⟨i⟩ ∈ solver.run.2.fired.toList ↔ b.Enables d
  := by
  obtain ⟨rule, found', resolved⟩ := exists_getElem?_of_left means.rules found
  rw [← means.enables_iff plain saturated.least (List.mem_of_getElem? found) resolved,
    saturated.fired]
  constructor
  · rintro ⟨rule', again, conditions⟩
    rw [found'] at again
    cases again
    exact conditions
  · intro conditions
    exact ⟨rule, found', conditions⟩

end Rulebase

end ForwardChaining
