import ForwardChaining.Proofs.Registry.Settings
import ForwardChaining.Proofs.Rulebase.Meaning
import ForwardChaining.Proofs.Solver.Namesakes

/-!
# Blueprints

A blueprint says by names what a solver is to be built of.  To resolve it is to ask a registry for
the handles of the names and to give facts their settings, with any further requests before and
between (`Blueprint.Resolution`).  However a blueprint is resolved, there is a solver for it
(`Blueprint.Resolution.create_eq`), and the solvers for two resolutions match
(`Blueprint.matches_initial`).
-/

namespace ForwardChaining

/-- What a solver is to be built of, by names. -/
structure Blueprint where
  vocabulary : Vocabulary
  inputs : List String
  rules : List RuleDeclaration
  /-- The settings that facts are given, in order. -/
  settings : List (String × List FactSetting)

/-- A blueprint, resolved by a registry.  Among the requests that it takes there may be any others
that register no names and change no settings. -/
structure Blueprint.Resolution (p : Blueprint) where
  id : RegistryId
  /-- What is asked for until the registry has the vocabulary. -/
  preparations : List Registry.Request
  requests : List Registry.Request
  inputs : List FactId
  rules : List Rule
  prepared : ((Registry.empty id).after preparations).vocabulary = p.vocabulary
  unset : ∀ request ∈ preparations, request.configured? = none
  asks : ∀ request ∈ requests, request.asks = true
  configured : requests.filterMap Registry.Request.configured? = p.settings
  inputs_handed : (Registry.empty id).Hands (preparations ++ requests) p.inputs inputs
  rules_handed : List.Forall₂ (fun d rule => ∃ conditions conclusions,
    (Registry.empty id).Hands (preparations ++ requests) d.conditions conditions
    ∧ (Registry.empty id).Hands (preparations ++ requests) d.conclusions conclusions
    ∧ rule = { Rule.implies conditions conclusions with label := d.label }) p.rules rules

namespace Blueprint

variable {p : Blueprint}

namespace Resolution

/-- The registry in the end. -/
def registry (x : p.Resolution) : Registry :=
  (Registry.empty x.id).after (x.preparations ++ x.requests)

theorem agrees (x : p.Resolution) :
  x.registry.Agrees
  := Registry.agrees_after x.id _

/-- The registry has the vocabulary, and the settings are those that were given. -/
theorem settings_registry (x : p.Resolution) (name : String) :
  x.registry.vocabulary = p.vocabulary
    ∧ x.registry.settings name = p.settings.foldl (Registry.configured p.vocabulary name) {}
  := by
  have prepared := (Registry.agrees_empty x.id).settings_after_of_unset x.unset name
  have given := (Registry.agrees_after x.id x.preparations).settings_after x.asks name
  rw [x.prepared, x.configured, prepared] at given
  rw [registry, Registry.after, List.foldl_append]
  exact given

theorem resolves_inputs (x : p.Resolution) :
  x.registry.Resolves p.inputs x.inputs
  := (Registry.agrees_empty x.id).resolves_of_hands x.inputs_handed

theorem resolves_rules (x : p.Resolution) :
  List.Forall₂ x.registry.ResolvesRule p.rules x.rules
  := by
  apply x.rules_handed.imp
  rintro d rule ⟨conditions, conclusions, named, named', rfl⟩
  apply Registry.ResolvesRule.mk rfl
  have agrees := Registry.agrees_empty x.id
  exact ⟨conditions, conclusions, agrees.resolves_of_hands named, agrees.resolves_of_hands named',
    rfl, rfl⟩

end Resolution

/-- Registries that resolve the same blueprint are alike. -/
theorem alike (left right : p.Resolution) :
  left.registry.Alike right.registry
  := by
  constructor
  · apply left.agrees
  · apply right.agrees
  · rw [(left.settings_registry "").1, (right.settings_registry "").1]
  · intro name
    rw [(left.settings_registry name).2, (right.settings_registry name).2]

/-- The handles that are given out for the inputs are namesakes. -/
theorem inputs_together (left right : p.Resolution) :
  List.Forall₂ (left.registry.Same right.registry) left.inputs right.inputs
  := Registry.same_of_resolves left.resolves_inputs right.resolves_inputs

/-- The handles that are given out for the rules are namesakes. -/
theorem rules_together (left right : p.Resolution) :
  List.Forall₂ (Rule.Matches (left.registry.Same right.registry)) left.rules right.rules
  := by
  apply together_of_common left.resolves_rules right.resolves_rules
  rintro d a b ⟨label, _, _, conditions, conclusions, a_conditions, a_conclusions⟩
    ⟨label', _, _, conditions', conclusions', b_conditions, b_conclusions⟩
  have same := Rule.matches_implies (alike left right).biUnique
    (Registry.same_of_resolves conditions conditions')
    (Registry.same_of_resolves conclusions conclusions')
  constructor
  · rw [label, label']
  · rw [a_conditions, b_conditions]
    exact same.conditions
  · rw [a_conclusions, b_conclusions]
    exact same.conclusions

/-- There is a solver for a blueprint, however it is resolved. -/
theorem Resolution.create_eq (x : p.Resolution) (config : SolverConfig) :
  Solver.create x.registry x.inputs x.rules config
    = .ok (.initial x.registry x.inputs x.rules config)
  := by
  rw [Solver.create_eq_ok_iff]
  refine ⟨?_, ?_, rfl⟩
  · intro f member
    obtain ⟨g, -, same⟩ := exists_of_mem_left (inputs_together x x) member
    exact same.issued
  · intro rule member
    obtain ⟨rule', -, same⟩ := exists_of_mem_left (rules_together x x) member
    intro f member
    obtain ⟨g, -, same⟩ :=
      exists_of_mem_left (List.rel_append same.conditions same.conclusions) member
    exact same.issued

/-- The solvers for a blueprint match, however it is resolved. -/
theorem matches_initial (left right : p.Resolution) (config : SolverConfig) :
  (Solver.initial left.registry left.inputs left.rules config).Matches left.registry right.registry
    (.initial right.registry right.inputs right.rules config)
  := Solver.matches_initial (alike left right) (inputs_together left right)
    (rules_together left right) config

end Blueprint

end ForwardChaining
