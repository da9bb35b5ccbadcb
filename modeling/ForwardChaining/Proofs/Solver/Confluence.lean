import Mathlib.Order.Bounds.Basic
import ForwardChaining.Proofs.Solver.Fixpoint

/-!
# Confluence

The order in which the inputs and the rules are declared has no part in what a run comes to.
The rules that fire are those that the least closed set of facts satisfies
(`Position.Kept.fired_perm`), each once, so that another order gives the same rules, the same
assertions and the same invocations in some other order (`Solver.sameEnd_of_perm`).
-/

namespace ForwardChaining

/-- The rules that a run has left unsatisfied. -/
def Termination.unsatisfied : Termination → List RuleId
  | succeeded => []
  | failed d => d.unsatisfied

/-! ### The rules that fire -/

namespace Position

variable {p : Position} {id : RuleId} {inputs : List FactId} {rules : List Rule}

theorem Balanced.map_ruleAt (balanced : p.Balanced inputs rules) :
  ((List.range rules.length).map RuleId.mk).map p.ruleAt = rules
  := by
  apply List.ext_getElem
  · rw [List.length_map, List.length_map, List.length_range]
  · intro i _ inside
    rw [List.getElem_map, List.getElem_map, List.getElem_range]
    apply balanced.ruleAt_eq (List.getElem?_eq_getElem inside)

/-- When a run is over, a rule has fired exactly if it is satisfied. -/
theorem Kept.fired_iff_satisfied {rule : Rule} {i : Nat} (kept : p.Kept inputs rules)
    (ended : p.standing ≠ .running) (found : rules[i]? = some rule) :
  ⟨i⟩ ∈ p.fired.toList ↔ rule.isSatisfied p.memory = true
  := by
  apply (kept.fired_iff ended ⟨i⟩).trans
  rw [found, rule.isSatisfied_iff]
  simp

/-- When a run is over, a rule is pending exactly if it is not satisfied. -/
theorem Kept.pending_iff_unsatisfied {rule : Rule} {i : Nat} (kept : p.Kept inputs rules)
    (ended : p.standing ≠ .running) (found : rules[i]? = some rule) :
  ⟨i⟩ ∈ p.pending.toList ↔ ¬ rule.isSatisfied p.memory = true
  := by
  have satisfied_iff := kept.fired_iff_satisfied ended found
  constructor
  · intro pending
    have unsatisfied := kept.unsatisfied ended pending
    rw [kept.balanced.ruleAt_eq found] at unsatisfied
    apply unsatisfied
  · intro unsatisfied
    obtain ⟨inside, -⟩ := List.getElem?_eq_some_iff.mp found
    obtain fired | pending := kept.balanced.fired_or_pending_iff.mpr inside
    · apply absurd (satisfied_iff.mp fired) unsatisfied
    · apply pending

/-- When a run is over, no rule is pending exactly if every rule is satisfied. -/
theorem Kept.pending_eq_empty_iff (kept : p.Kept inputs rules) (ended : p.standing ≠ .running) :
  p.pending = #[] ↔ ∀ rule ∈ rules, rule.isSatisfied p.memory = true
  := by
  apply kept.balanced.pending_eq_empty_iff.trans
  constructor
  · intro all rule declared
    obtain ⟨i, found⟩ := List.mem_iff_getElem?.mp declared
    obtain ⟨inside, -⟩ := List.getElem?_eq_some_iff.mp found
    apply (kept.fired_iff_satisfied ended found).mp (all i inside)
  · intro all i inside
    have found : rules[i]? = some rules[i] := List.getElem?_eq_getElem inside
    apply (kept.fired_iff_satisfied ended found).mpr (all _ (List.getElem_mem inside))

/-- When a run is over, the rules that have fired are those that the memory satisfies. -/
theorem Kept.fired_perm (kept : p.Kept inputs rules) (ended : p.standing ≠ .running) :
  (p.fired.toList.map p.ruleAt).Perm (rules.filter (·.isSatisfied p.memory))
  := by
  have balanced := kept.balanced
  have distinct := balanced.nodup
  have declared : ((List.range rules.length).map RuleId.mk).Nodup :=
    balanced.once.nodup_iff.mp distinct
  have fired : p.fired.toList.Perm (((List.range rules.length).map RuleId.mk).filter
      fun id => (p.ruleAt id).isSatisfied p.memory) := by
    -- neither list has repeats, so they need only have the same members
    apply (List.perm_ext_iff_of_nodup (List.nodup_append.mp distinct).1
      (declared.sublist List.filter_sublist)).mpr
    intro id
    rw [List.mem_filter, ← balanced.once.mem_iff, List.mem_append]
    constructor
    · intro fired
      apply And.intro (Or.inl fired) (kept.sound.fired id fired)
    · rintro ⟨fired | pending, satisfied⟩
      · apply fired
      · apply absurd satisfied (kept.unsatisfied ended pending)
  have rulesFired := fired.map p.ruleAt
  rw [← balanced.map_ruleAt, List.filter_map]
  apply rulesFired

end Position

namespace Solver

variable {s t start : Solver} {inputs inputs' : List FactId} {rules rules' : List Rule}
  {registry : Registry} {config : SolverConfig}

/-! ### Invocations -/

/-- As long as a run is not rewound, its log holds the invocations that the assertions after
the inputs call for. -/
theorem log_afterSteps (created : create registry inputs rules config = .ok start) (n : Nat) :
  ∃ asserted, (start.afterSteps n).memory.sequence = inputs ++ asserted
    ∧ (start.afterSteps n).log.toList = asserted.flatMap registry.perform
  := by
  obtain ⟨-, -, rfl⟩ := (create_eq_ok_iff ..).mp created
  use ((initial registry inputs rules config).outcomes n).flatMap (·.asserted)
  constructor
  · rw [sequence_afterSteps]
    exact congrArg (· ++ _) (WorkingMemory.sequence_ofSequence inputs)
  · rw [log_afterSteps_eq]
    rfl

/-! ### Runs from declarations in another order -/

theorem closed_of_perm {facts : Set FactId} (inputsPerm : inputs.Perm inputs')
    (rulesPerm : rules.Perm rules') (closed : Closed inputs rules facts) :
  Closed inputs' rules' facts
  := by
  constructor
  · intro f input
    apply closed.inputs f (inputsPerm.mem_iff.mpr input)
  · intro rule declared
    apply closed.conclusions rule (rulesPerm.mem_iff.mpr declared)

/-- The runs came to the same result, with the same facts and invocations, from rules that are
the same in some order. -/
structure SameEnd (rules rules' : List Rule) (result result' : Termination)
    (final final' : Solver) : Prop where
  verdict : result.isSuccess = result'.isSuccess
  /-- A rule fired in one run if it fired in the other, wherever it is declared. -/
  fired : ∀ (rule : Rule) (i j : Nat), rules[i]? = some rule → rules'[j]? = some rule →
    (⟨i⟩ ∈ final.fired.toList ↔ ⟨j⟩ ∈ final'.fired.toList)
  unsatisfied : ∀ (rule : Rule) (i j : Nat), rules[i]? = some rule → rules'[j]? = some rule →
    (⟨i⟩ ∈ result.unsatisfied ↔ ⟨j⟩ ∈ result'.unsatisfied)
  memory : final.memory.sequence.Perm final'.memory.sequence
  log : final.log.toList.Perm final'.log.toList
  /-- The effect of a fact was invoked as often. -/
  invocations : ∀ name, final.log.toList.countP (·.fact = name)
    = final'.log.toList.countP (·.fact = name)

theorem kept_run (created : create registry inputs rules config = .ok start) :
  start.run.2.position.Kept inputs rules
  := kept_afterMoves created [.run]

/-- A run to the end leaves the rules pending that it reports, and succeeds if there are
none. -/
theorem pending_of_run (kept : start.run.2.position.Kept inputs rules) :
  start.run.2.position.standing ≠ .running
    ∧ start.run.1.unsatisfied = start.run.2.pending.toList
    ∧ (start.run.1.isSuccess = true ↔ start.run.2.pending = #[])
  := by
  obtain ⟨result, status⟩ | ⟨d, result, status⟩ := start.run_cases
  · have standing := standing_of_succeeded status
    have empty : start.run.2.pending = #[] := kept.concluded.succeeded standing
    rw [standing, result, empty]
    apply And.intro Status.noConfusion
    apply And.intro rfl
    apply iff_of_true rfl rfl
  · have standing := standing_of_failed status
    obtain ⟨named, nonempty, -⟩ := kept.concluded.failed d standing
    rw [standing, result]
    apply And.intro Status.noConfusion
    apply And.intro named
    apply iff_of_false Bool.noConfusion nonempty

/-- Runs from the same declarations in another order end with the same rules satisfied. -/
theorem isSatisfied_of_perm {p q : Position} (kept : p.Kept inputs rules)
    (kept' : q.Kept inputs' rules') (ended : p.standing ≠ .running)
    (ended' : q.standing ≠ .running) (inputsPerm : inputs.Perm inputs')
    (rulesPerm : rules.Perm rules') (rule : Rule) :
  rule.isSatisfied p.memory = rule.isSatisfied q.memory
  := by
  have same : {facts | Closed inputs rules facts} = {facts | Closed inputs' rules' facts} := by
    ext facts
    constructor
    · apply closed_of_perm inputsPerm rulesPerm
    · apply closed_of_perm inputsPerm.symm rulesPerm.symm
  have least := kept.isLeast ended
  rw [same] at least
  have facts := least.unique (kept'.isLeast ended')
  have contains : p.memory.contains = q.memory.contains := by
    funext f
    rw [Bool.eq_iff_iff]
    apply Set.ext_iff.mp facts f
  rw [Rule.isSatisfied, contains, Rule.isSatisfied]

/-- A run to the end asserts the conclusions of the rules that its memory satisfies, in some
order, and makes the invocations that they call for. -/
theorem exists_assertions (created : create registry inputs rules config = .ok start) :
  ∃ asserted, start.run.2.memory.sequence = inputs ++ asserted
    ∧ start.run.2.log.toList = asserted.flatMap registry.perform
    ∧ asserted.Perm
      ((rules.filter (·.isSatisfied start.run.2.memory)).flatMap (·.conclusions))
  := by
  have kept := kept_run created
  obtain ⟨ended, -, -⟩ := pending_of_run kept
  obtain ⟨asserted, sequence, log⟩ := log_afterSteps created start.stages.length
  rw [← run_eq] at sequence log
  use asserted, sequence, log
  have fired : asserted = (start.run.2.position.fired.toList.map
      start.run.2.position.ruleAt).flatMap (·.conclusions) := by
    have whole : start.run.2.memory.sequence = _ := kept.balanced.sequence_eq
    rw [sequence] at whole
    rw [List.flatMap_map]
    apply List.append_cancel_left whole
  rw [fired]
  apply (kept.fired_perm ended).flatMap_right

/-- Whether declarations are accepted does not depend on their order. -/
theorem create_of_perm (created : create registry inputs rules config = .ok start)
    (config' : SolverConfig) (inputsPerm : inputs.Perm inputs') (rulesPerm : rules.Perm rules') :
  ∃ start', create registry inputs' rules' config' = .ok start'
  := by
  obtain ⟨inputsIssued, rulesIssued, -⟩ := (create_eq_ok_iff ..).mp created
  use initial registry inputs' rules' config'
  apply (create_eq_ok_iff ..).mpr
  constructor
  · intro f input
    apply inputsIssued f (inputsPerm.mem_iff.mpr input)
  · apply And.intro _ rfl
    intro rule declared
    apply rulesIssued rule (rulesPerm.mem_iff.mpr declared)

/-- Another order of the inputs and of the rules, and other settings, lead to the same end. -/
theorem sameEnd_of_perm (created : create registry inputs rules config = .ok start)
    (config' : SolverConfig) (inputsPerm : inputs.Perm inputs') (rulesPerm : rules.Perm rules') :
  ∃ start', create registry inputs' rules' config' = .ok start'
    ∧ SameEnd rules rules' start.run.1 start'.run.1 start.run.2 start'.run.2
  := by
  obtain ⟨start', created'⟩ := create_of_perm created config' inputsPerm rulesPerm
  use start', created'
  have kept := kept_run created
  have kept' := kept_run created'
  obtain ⟨ended, unsatisfied, success⟩ := pending_of_run kept
  obtain ⟨ended', unsatisfied', success'⟩ := pending_of_run kept'
  have satisfied : ∀ rule : Rule,
      rule.isSatisfied start.run.2.memory = rule.isSatisfied start'.run.2.memory :=
    isSatisfied_of_perm kept kept' ended ended' inputsPerm rulesPerm
  obtain ⟨asserted, sequence, log, conclusions⟩ := exists_assertions created
  obtain ⟨asserted', sequence', log', conclusions'⟩ := exists_assertions created'
  have assertions : asserted.Perm asserted' := by
    rw [funext satisfied] at conclusions
    apply conclusions.trans
    apply List.Perm.trans _ conclusions'.symm
    apply (rulesPerm.filter _).flatMap_right
  have logs : start.run.2.log.toList.Perm start'.run.2.log.toList := by
    rw [log, log']
    apply assertions.flatMap_right
  constructor
  · rw [Bool.eq_iff_iff, success, success']
    apply (kept.pending_eq_empty_iff ended).trans
    apply Iff.trans _ (kept'.pending_eq_empty_iff ended').symm
    change (∀ rule ∈ rules, rule.isSatisfied start.run.2.memory = true)
      ↔ ∀ rule ∈ rules', rule.isSatisfied start'.run.2.memory = true
    simp only [satisfied, rulesPerm.mem_iff]
  · intro rule i j found found'
    apply (kept.fired_iff_satisfied ended found).trans
    apply Iff.trans _ (kept'.fired_iff_satisfied ended' found').symm
    apply Bool.eq_iff_iff.mp (satisfied rule)
  · intro rule i j found found'
    rw [unsatisfied, unsatisfied']
    apply (kept.pending_iff_unsatisfied ended found).trans
    apply Iff.trans _ (kept'.pending_iff_unsatisfied ended' found').symm
    apply not_congr (Bool.eq_iff_iff.mp (satisfied rule))
  · rw [sequence, sequence']
    apply inputsPerm.append assertions
  · apply logs
  · intro name
    apply logs.countP_eq

/-- The chain with its rules declared in reverse order ends as it does in theirs. -/
theorem sameEnd_of_perm_chain :
  chainRules.Perm chainRules.reverse
    ∧ ∃ start', create chainRegistry [chainFact 0] chainRules.reverse {} = .ok start'
      ∧ SameEnd chainRules chainRules.reverse (chain {}).run.1 start'.run.1
        (chain {}).run.2 start'.run.2
  := by
  apply And.intro chainRules.reverse_perm.symm
  apply sameEnd_of_perm (create_chain {}) {} (.refl _) chainRules.reverse_perm.symm

end Solver

end ForwardChaining
