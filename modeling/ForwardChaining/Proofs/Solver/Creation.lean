import ForwardChaining.Solver.Run

/-!
# New solvers

A solver is created exactly if the registry issued every fact of the inputs and of the rules
(`Solver.create_eq_ok_iff`).  It then stands at the beginning of a run: `Solver.initial`.
-/

namespace ForwardChaining

/-- The registry issued the handle `f`. -/
def Registry.Issued (r : Registry) (f : FactId) : Prop :=
  (r.fact? f).isSome = true

/-- A check of every entry of a list passes exactly if it passes for each. -/
theorem forM_eq_ok_iff {α : Type} (l : List α) (check : α → Except Error Unit) :
  l.forM check = .ok () ↔ ∀ a ∈ l, check a = .ok ()
  := by
  induction l with
  | nil =>
    constructor
    · intro _ a member
      cases member
    · intro _
      rfl
  | cons first rest ih =>
    rw [List.forall_mem_cons, ← ih]
    have unfolded : (first :: rest).forM check = check first >>= fun _ => rest.forM check := rfl
    rw [unfolded]
    cases outcome : check first with
    | error e =>
      constructor
      · intro passed
        cases passed
      · rintro ⟨passed, -⟩
        cases passed
    | ok u =>
      constructor
      · intro passed
        apply And.intro rfl passed
      · intro passed
        apply passed.2

theorem Registry.check_eq_ok_iff (r : Registry) (f : FactId) :
  r.check f = .ok () ↔ r.Issued f
  := by
  unfold check Issued fail
  split
  · rename_i issued
    apply iff_of_true rfl issued
  · rename_i foreign
    apply iff_of_false _ foreign
    intro passed
    cases passed

theorem Rule.validate_eq_ok_iff (rule : Rule) (r : Registry) :
  rule.validate r = .ok () ↔ ∀ f ∈ rule.conditions ++ rule.conclusions, r.Issued f
  := by
  rw [validate, forM_eq_ok_iff]
  simp only [Registry.check_eq_ok_iff]

namespace Solver

/-- The solver at the beginning of a run. -/
def initial (registry : Registry) (inputs : List FactId) (rules : List Rule)
    (config : SolverConfig) : Solver where
  registry := registry
  rules := rules.toArray
  memory := .ofSequence inputs
  pending := (Array.range rules.length).map RuleId.mk
  fired := .empty
  head := 0
  iteration := 0
  firedThisPass := 0
  steps := 0
  status := .running
  lastAsserted := []
  history := .empty config.historyCapacity
  config := config
  log := .empty

theorem create_eq_ok_iff (registry : Registry) (inputs : List FactId) (rules : List Rule)
    (config : SolverConfig) (s : Solver) :
  create registry inputs rules config = .ok s
    ↔ (∀ f ∈ inputs, registry.Issued f)
      ∧ (∀ rule ∈ rules, ∀ f ∈ rule.conditions ++ rule.conclusions, registry.Issued f)
      ∧ s = initial registry inputs rules config
  := by
  have inputsIssued : inputs.forM registry.check = .ok () ↔ ∀ f ∈ inputs, registry.Issued f := by
    rw [forM_eq_ok_iff]
    simp only [Registry.check_eq_ok_iff]
  have rulesIssued : (rules.forM fun rule => rule.validate registry) = .ok ()
      ↔ ∀ rule ∈ rules, ∀ f ∈ rule.conditions ++ rule.conclusions, registry.Issued f := by
    rw [forM_eq_ok_iff]
    simp only [Rule.validate_eq_ok_iff]
  rw [← inputsIssued, ← rulesIssued]
  have unfolded : create registry inputs rules config
      = inputs.forM registry.check >>= fun _ =>
        (rules.forM fun rule => rule.validate registry) >>= fun _ =>
          .ok (initial registry inputs rules config) := rfl
  rw [unfolded]
  cases checked : inputs.forM registry.check with
  | error e =>
    constructor
    · intro created
      cases created
    · rintro ⟨passed, -⟩
      cases passed
  | ok u =>
    cases validated : rules.forM fun rule => rule.validate registry with
    | error e =>
      constructor
      · intro created
        cases created
      · rintro ⟨-, passed, -⟩
        cases passed
    | ok v =>
      constructor
      · intro created
        cases created
        apply And.intro rfl (And.intro rfl rfl)
      · rintro ⟨-, -, rfl⟩
        rfl

theorem registry_of_create {registry : Registry} {inputs : List FactId} {rules : List Rule}
    {config : SolverConfig} {s : Solver}
    (created : create registry inputs rules config = .ok s) :
  registry = s.registry
  := by
  obtain ⟨-, -, rfl⟩ := (create_eq_ok_iff ..).mp created
  rfl

/-! ### A chain of rules -/

/-- The handles of the facts A, B, C and X. -/
def chainFact (index : Nat) : FactId where
  registry := ⟨0⟩
  index := index

def chainRegistry : Registry where
  id := ⟨0⟩
  vocabulary := .ofNames ["A", "B", "C", "X"]
  facts := #[.fresh (chainFact 0) "A", .fresh (chainFact 1) "B", .fresh (chainFact 2) "C",
    .fresh (chainFact 3) "X"]

/-- From X to A, from B to C, and from A to B. -/
def chainRules : List Rule :=
  [.implies [chainFact 3] [chainFact 0], .implies [chainFact 1] [chainFact 2],
    .implies [chainFact 0] [chainFact 1]]

/-- The solver for the chain with the input A. -/
def chain (config : SolverConfig) : Solver :=
  initial chainRegistry [chainFact 0] chainRules config

theorem create_chain (config : SolverConfig) :
  create chainRegistry [chainFact 0] chainRules config = .ok (chain config)
  := rfl

end Solver

end ForwardChaining
