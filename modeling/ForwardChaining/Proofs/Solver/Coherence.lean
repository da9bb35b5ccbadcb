import Mathlib.Data.List.Perm.Basic
import ForwardChaining.Proofs.Solver.Chronicle

/-!
# Coherence

Whatever the moves, the parts of a solver's state fit together (`Solver.Coherent`): every rule
is either pending or has fired, and once; the memory is what the inputs and the fired rules
make it; and the cursor stands at a pending rule, so that a step always finds the rule that it
is to examine.

A position changes only when a rule fires or is passed over and the pass is then settled.
What both keep holds after all moves (`Solver.position_afterMoves_induction`).
-/

namespace ForwardChaining

namespace Solver

variable {s t start : Solver} {id : RuleId} {inputs : List FactId} {rules : List Rule}

/-! ### What changes a position -/

/-- A step that examines a rule fires it if it is satisfied, and passes it over if not. -/
theorem position_of_examined {e : Examination} (outcome : s.step.1 = .examined e) :
  ((s.ruleAt e.rule).isSatisfied s.memory = true
      ∧ s.step.2.position = (s.fire e.rule (s.ruleAt e.rule)).settle.position)
    ∨ (¬ (s.ruleAt e.rule).isSatisfied s.memory = true
      ∧ s.step.2.position = s.skip.settle.position)
  := by
  obtain ⟨running, current, -⟩ := step_of_examined outcome
  rw [step_of_current running current]
  by_cases satisfied : (s.ruleAt e.rule).isSatisfied s.memory = true
  · left
    rw [examine_of_satisfied satisfied, position_record]
    apply And.intro satisfied rfl
  · right
    rw [examine_of_unsatisfied satisfied, position_record]
    apply And.intro satisfied rfl

/-- What is kept when a rule fires and when one is passed over holds of the position after any
number of steps. -/
theorem position_afterSteps_induction {P : Position → Prop} (first : P s.position)
    (fire : ∀ (s : Solver) (id : RuleId), P s.position → s.status = .running →
      s.pending[s.cursor]? = some id → (s.ruleAt id).isSatisfied s.memory = true →
      P (s.fire id (s.ruleAt id)).settle.position)
    (skip : ∀ (s : Solver) (id : RuleId), P s.position → s.status = .running →
      s.pending[s.cursor]? = some id → ¬ (s.ruleAt id).isSatisfied s.memory = true →
      P s.skip.settle.position)
    (n : Nat) :
  P (s.afterSteps n).position
  := by
  induction n with
  | zero => apply first
  | succ n ih =>
    rw [afterSteps]
    obtain ⟨e, outcome⟩ | verdict := (s.afterSteps n).examined_or_verdict
    · obtain ⟨running, current, -⟩ := step_of_examined outcome
      obtain ⟨satisfied, position⟩ | ⟨unsatisfied, position⟩ := position_of_examined outcome
      · rw [position]
        apply fire _ _ ih running current satisfied
      · rw [position]
        apply skip _ _ ih running current unsatisfied
    · rw [(step_of_verdict verdict).1]
      apply ih

/-- What holds of the first position, and is kept when a rule fires and when one is passed
over, holds of the position after all moves. -/
theorem position_afterMoves_induction {P : Position → Prop} (new : start.New)
    (first : P start.position)
    (fire : ∀ (s : Solver) (id : RuleId), P s.position → s.status = .running →
      s.pending[s.cursor]? = some id → (s.ruleAt id).isSatisfied s.memory = true →
      P (s.fire id (s.ruleAt id)).settle.position)
    (skip : ∀ (s : Solver) (id : RuleId), P s.position → s.status = .running →
      s.pending[s.cursor]? = some id → ¬ (s.ruleAt id).isSatisfied s.memory = true →
      P s.skip.settle.position)
    (moves : List Move) :
  P (start.afterMoves moves).position
  := by
  -- Rewinds need no case of their own: steps from the start lead to every position.
  rw [(onCourse_afterMoves new moves).position]
  apply position_afterSteps_induction first fire skip

end Solver

/-! ### The queue, the fired rules and the memory -/

/-- The rule `id` of the list of rules. -/
def Position.ruleAt (p : Position) (id : RuleId) : Rule :=
  (p.rules[id.index]?).getD {}

/-- Every rule is either pending or has fired, and the memory holds the inputs and what the
fired rules conclude. -/
structure Position.Balanced (inputs : List FactId) (rules : List Rule) (p : Position) :
    Prop where
  declared : p.rules = rules.toArray
  increasing : p.pending.toList.Pairwise (·.index < ·.index)
  once : (p.fired.toList ++ p.pending.toList).Perm ((List.range rules.length).map RuleId.mk)
  memory : p.memory
    = .ofSequence (inputs ++ p.fired.toList.flatMap fun id => (p.ruleAt id).conclusions)
  within : p.head ≤ p.pending.size

/-- The cursor stands at a pending rule, or at the front of the empty queue. -/
def Position.InPlace (p : Position) : Prop :=
  p.head < p.pending.size ∨ p.pending = #[] ∧ p.head = 0

namespace Solver

variable {s t start : Solver} {id : RuleId} {inputs : List FactId} {rules : List Rule}

theorem balanced_initial (registry : Registry) (inputs : List FactId) (rules : List Rule)
    (config : SolverConfig) :
  (initial registry inputs rules config).position.Balanced inputs rules
  := by
  have pending : (initial registry inputs rules config).position.pending.toList
      = (List.range rules.length).map RuleId.mk := by
    change ((Array.range rules.length).map RuleId.mk).toList = _
    rw [Array.toList_map, Array.toList_range]
  constructor
  · rfl
  · rw [pending]
    apply List.pairwise_map.mpr
    apply List.pairwise_lt_range
  · rw [pending]
    rfl
  · rw [position, initial, Log.toList_empty, List.flatMap_nil, List.append_nil]
  · apply Nat.zero_le

theorem inPlace_initial (registry : Registry) (inputs : List FactId) (rules : List Rule)
    (config : SolverConfig) :
  (initial registry inputs rules config).position.InPlace
  := by
  have size : (initial registry inputs rules config).position.pending.size = rules.length := by
    change ((Array.range rules.length).map RuleId.mk).size = _
    rw [Array.size_map, Array.size_range]
  obtain empty | nonempty := Nat.eq_zero_or_pos rules.length
  · right
    apply And.intro _ rfl
    rw [← Array.size_eq_zero_iff, size, empty]
  · left
    rw [size]
    apply nonempty

/-- The rule under the cursor is the pending rule at that place. -/
theorem getElem_of_current (current : s.pending[s.cursor]? = some id) :
  ∃ inside : s.cursor < s.pending.toList.length, s.pending.toList[s.cursor] = id
  := by
  obtain ⟨inside, found⟩ := Array.getElem?_eq_some_iff.mp current
  use inside
  apply found

/-- The rule that fires is the one that leaves the queue. -/
theorem balanced_fire (balanced : s.position.Balanced inputs rules)
    (current : s.pending[s.cursor]? = some id) :
  (s.fire id (s.ruleAt id)).position.Balanced inputs rules
  := by
  obtain ⟨inside, found⟩ := getElem_of_current current
  have pending : (s.fire id (s.ruleAt id)).position.pending.toList
      = s.pending.toList.eraseIdx s.cursor := Array.toList_eraseIdxIfInBounds
  have fired : (s.fire id (s.ruleAt id)).position.fired.toList = s.fired.toList ++ [id] :=
    Log.toList_push _ _
  constructor
  · apply balanced.declared
  · rw [pending]
    apply balanced.increasing.sublist (List.eraseIdx_sublist _ _)
  · rw [pending, fired, List.append_assoc, List.singleton_append, ← found]
    apply ((List.getElem_cons_eraseIdx_perm inside).append_left _).trans balanced.once
  · rw [fired, List.flatMap_append, ← List.append_assoc, WorkingMemory.ofSequence_append,
      List.flatMap_singleton]
    apply congrArg (WorkingMemory.assertAll · _) balanced.memory
  · rw [← Array.length_toList, pending, List.length_eraseIdx_of_lt inside]
    change s.cursor ≤ _
    omega

theorem balanced_skip (balanced : s.position.Balanced inputs rules)
    (current : s.pending[s.cursor]? = some id) :
  s.skip.position.Balanced inputs rules
  := by
  obtain ⟨inside, -⟩ := getElem_of_current current
  constructor
  · apply balanced.declared
  · apply balanced.increasing
  · apply balanced.once
  · apply balanced.memory
  · apply inside

theorem balanced_settle (balanced : s.position.Balanced inputs rules) :
  s.settle.position.Balanced inputs rules
  := by
  unfold settle
  split
  · constructor
    · apply balanced.declared
    · apply balanced.increasing
    · apply balanced.once
    · apply balanced.memory
    · apply Nat.zero_le
  · apply balanced

/-- Once the pass is settled, the cursor is in place. -/
theorem inPlace_settle (s : Solver) :
  s.settle.position.InPlace
  := by
  unfold settle
  split
  · obtain empty | nonempty := Nat.eq_zero_or_pos s.pending.size
    · right
      apply And.intro (Array.size_eq_zero_iff.mp empty) rfl
    · left
      apply nonempty
  · rename_i inside
    left
    apply Nat.lt_of_not_le inside

theorem balanced_afterMoves {registry : Registry} {config : SolverConfig}
    (created : create registry inputs rules config = .ok start) (moves : List Move) :
  (start.afterMoves moves).position.Balanced inputs rules
    ∧ (start.afterMoves moves).position.InPlace
  := by
  have new := new_of_create created
  obtain ⟨-, -, rfl⟩ := (create_eq_ok_iff ..).mp created
  apply position_afterMoves_induction new
    (P := fun p => p.Balanced inputs rules ∧ p.InPlace)
  · constructor
    · apply balanced_initial
    · apply inPlace_initial
  · intro s id before _ current _
    apply And.intro (balanced_settle (balanced_fire before.1 current)) (inPlace_settle _)
  · intro s id before _ current _
    apply And.intro (balanced_settle (balanced_skip before.1 current)) (inPlace_settle _)

end Solver

namespace Position.Balanced

variable {p : Position} {id : RuleId} {inputs : List FactId} {rules : List Rule}

/-- The rules that have fired and those that are pending are all rules. -/
theorem fired_or_pending_iff (balanced : p.Balanced inputs rules) :
  id ∈ p.fired.toList ∨ id ∈ p.pending.toList ↔ id.index < rules.length
  := by
  rw [← List.mem_append, balanced.once.mem_iff, List.mem_map]
  constructor
  · rintro ⟨index, member, rfl⟩
    apply List.mem_range.mp member
  · intro inside
    use id.index, List.mem_range.mpr inside

theorem nodup (balanced : p.Balanced inputs rules) :
  (p.fired.toList ++ p.pending.toList).Nodup
  := by
  apply balanced.once.nodup_iff.mpr
  apply List.pairwise_map.mpr
  apply List.nodup_range.imp
  intro i j distinct same
  apply distinct (congrArg RuleId.index same)

/-- The pending rules are those that have not fired, in order of declaration. -/
theorem pending_eq (balanced : p.Balanced inputs rules) :
  p.pending.toList
    = ((List.range rules.length).map RuleId.mk).filter (fun id => id ∉ p.fired.toList)
  := by
  have ordered : ((List.range rules.length).map RuleId.mk).Pairwise (·.index < ·.index) := by
    apply List.pairwise_map.mpr
    apply List.pairwise_lt_range
  have distinct : ((List.range rules.length).map RuleId.mk).Nodup :=
    balanced.once.nodup_iff.mp balanced.nodup
  obtain ⟨-, pendingNodup, disjoint⟩ := List.nodup_append.mp balanced.nodup
  have same : p.pending.toList.Perm
      (((List.range rules.length).map RuleId.mk).filter (fun id => id ∉ p.fired.toList)) := by
    apply (List.perm_ext_iff_of_nodup pendingNodup (distinct.sublist List.filter_sublist)).mpr
    intro id
    rw [List.mem_filter, decide_eq_true_iff, ← balanced.once.mem_iff, List.mem_append]
    constructor
    · intro pending
      apply And.intro (Or.inr pending)
      intro fired
      apply disjoint id fired id pending rfl
    · rintro ⟨fired | pending, waiting⟩
      · apply absurd fired waiting
      · apply pending
  refine same.eq_of_pairwise ?_ balanced.increasing (ordered.sublist List.filter_sublist)
  intro i j _ _ before after
  omega

theorem pending_eq_empty_iff (balanced : p.Balanced inputs rules) :
  p.pending = #[] ↔ ∀ index < rules.length, ⟨index⟩ ∈ p.fired.toList
  := by
  rw [← Array.toList_eq_nil_iff, balanced.pending_eq, List.filter_eq_nil_iff]
  constructor
  · intro none index inside
    have declared : ⟨index⟩ ∈ (List.range rules.length).map RuleId.mk :=
      List.mem_map_of_mem (List.mem_range.mpr inside)
    simpa using none ⟨index⟩ declared
  · intro all id declared waiting
    obtain ⟨index, inside, rfl⟩ := List.mem_map.mp declared
    apply of_decide_eq_true waiting
    apply all index (List.mem_range.mp inside)

theorem getElem?_rules (balanced : p.Balanced inputs rules) (index : Nat) :
  p.rules[index]? = rules[index]?
  := by
  rw [balanced.declared, List.getElem?_toArray]

theorem ruleAt_eq {rule : Rule} (balanced : p.Balanced inputs rules)
    (found : rules[id.index]? = some rule) :
  p.ruleAt id = rule
  := by
  rw [ruleAt, balanced.getElem?_rules, found]
  rfl

/-- A rule that has fired or is pending is the one that is declared at its place. -/
theorem getElem?_of_mem (balanced : p.Balanced inputs rules)
    (member : id ∈ p.fired.toList ∨ id ∈ p.pending.toList) :
  rules[id.index]? = some (p.ruleAt id)
  := by
  have inside := balanced.fired_or_pending_iff.mp member
  have found : rules[id.index]? = some rules[id.index] := List.getElem?_eq_getElem inside
  rw [found, balanced.ruleAt_eq found]

theorem ruleAt_mem (balanced : p.Balanced inputs rules)
    (member : id ∈ p.fired.toList ∨ id ∈ p.pending.toList) :
  p.ruleAt id ∈ rules
  := List.mem_of_getElem? (balanced.getElem?_of_mem member)

theorem sequence_eq (balanced : p.Balanced inputs rules) :
  p.memory.sequence = inputs ++ p.fired.toList.flatMap fun id => (p.ruleAt id).conclusions
  := by
  rw [balanced.memory, WorkingMemory.sequence_ofSequence]

theorem contains_iff (balanced : p.Balanced inputs rules) (f : FactId) :
  p.memory.contains f = true ↔ f ∈ p.memory.sequence
  := by
  rw [balanced.memory, WorkingMemory.contains_ofSequence, WorkingMemory.sequence_ofSequence]

/-- A fact of the memory is an input or a conclusion of a rule. -/
theorem input_or_conclusion {f : FactId} (balanced : p.Balanced inputs rules)
    (member : f ∈ p.memory.sequence) :
  f ∈ inputs ∨ ∃ rule ∈ rules, f ∈ rule.conclusions
  := by
  rw [balanced.sequence_eq] at member
  obtain input | concluded := List.mem_append.mp member
  · left
    apply input
  · right
    obtain ⟨id, fired, conclusion⟩ := List.mem_flatMap.mp concluded
    use p.ruleAt id, balanced.ruleAt_mem (Or.inl fired)

end Position.Balanced

namespace Solver

variable {s start : Solver} {inputs : List FactId} {rules : List Rule} {registry : Registry}
  {config : SolverConfig}

/-! ### Coherent states -/

/-- The registry, the rules, the queue, the memory, the cursor and the snapshots of a solver
for the given inputs and rules fit together. -/
structure Coherent (inputs : List FactId) (rules : List Rule) (s : Solver) : Prop where
  declared : s.rules = rules.toArray
  increasing : s.pending.toList.Pairwise (·.index < ·.index)
  nodup : s.fired.toList.Nodup
  /-- Every rule is either pending or has fired, and once. -/
  once : (s.fired.toList ++ s.pending.toList).Perm ((List.range rules.length).map RuleId.mk)
  sequence : s.memory.sequence
    = inputs ++ s.fired.toList.flatMap fun id => (s.ruleAt id).conclusions
  contains : ∀ f, s.memory.contains f = true ↔ f ∈ s.memory.sequence
  memoryIssued : ∀ f ∈ s.memory.sequence, s.registry.Issued f
  rulesIssued : ∀ rule ∈ s.rules.toList, ∀ f ∈ rule.conditions ++ rule.conclusions,
    s.registry.Issued f
  snapshotsIssued : ∀ σ ∈ s.history.snapshots, ∀ f ∈ σ.memory.toList, s.registry.Issued f
  inPlace : s.head < s.pending.size ∨ s.pending = #[] ∧ s.head = 0
  /-- The cursor never has to be put back in place. -/
  cursor : s.cursor = s.head
  /-- A step finds the rule that it is to examine. -/
  found : s.pending ≠ #[] → ∃ id rule, s.pending[s.head]? = some id ∧ s.rule? id = some rule

theorem registry_afterMoves (created : create registry inputs rules config = .ok start)
    (moves : List Move) :
  (start.afterMoves moves).registry = registry
  := by
  have onCourse := onCourse_afterMoves (new_of_create created) moves
  obtain ⟨-, -, rfl⟩ := (create_eq_ok_iff ..).mp created
  apply congrArg Problem.registry onCourse.problem

/-- The registry issued every fact of the memory. -/
theorem issued_of_mem_sequence (created : create registry inputs rules config = .ok start)
    (moves : List Move) {f : FactId} (member : f ∈ (start.afterMoves moves).memory.sequence) :
  registry.Issued f
  := by
  obtain ⟨balanced, -⟩ := balanced_afterMoves created moves
  obtain ⟨inputsIssued, rulesIssued, -⟩ := (create_eq_ok_iff ..).mp created
  obtain input | ⟨rule, declared, conclusion⟩ := balanced.input_or_conclusion member
  · apply inputsIssued f input
  · apply rulesIssued rule declared f (List.mem_append_right _ conclusion)

theorem cursor_of_inPlace (inPlace : s.position.InPlace) :
  s.cursor = s.head
  := by
  unfold cursor
  split
  · rfl
  · rename_i outside
    obtain inside | ⟨-, front⟩ := inPlace
    · apply absurd inside outside
    · apply front.symm

/-- A rule stands under the cursor of a coherent queue that is not empty. -/
theorem exists_current (balanced : s.position.Balanced inputs rules)
    (inPlace : s.position.InPlace) (nonempty : s.pending ≠ #[]) :
  ∃ id rule, s.pending[s.head]? = some id ∧ s.rule? id = some rule
  := by
  obtain inside | ⟨empty, -⟩ := inPlace
  · change s.head < s.pending.size at inside
    have member : s.pending[s.head] ∈ s.position.pending.toList :=
      Array.getElem_mem_toList inside
    have declared := balanced.fired_or_pending_iff.mp (Or.inr member)
    use s.pending[s.head], rules[s.pending[s.head].index]
    apply And.intro (Array.getElem?_eq_getElem inside)
    apply (balanced.getElem?_rules _).trans (List.getElem?_eq_getElem declared)
  · apply absurd empty nonempty

/-- The state of a solver is coherent whatever the moves. -/
theorem coherent_afterMoves (created : create registry inputs rules config = .ok start)
    (moves : List Move) :
  (start.afterMoves moves).Coherent inputs rules
  := by
  obtain ⟨balanced, inPlace⟩ := balanced_afterMoves created moves
  have registry_eq := registry_afterMoves created moves
  constructor
  · apply balanced.declared
  · apply balanced.increasing
  · apply (List.nodup_append.mp balanced.nodup).1
  · apply balanced.once
  · apply balanced.sequence_eq
  · apply balanced.contains_iff
  · intro f member
    rw [registry_eq]
    apply issued_of_mem_sequence created moves member
  · intro rule declared f member
    obtain ⟨-, rulesIssued, -⟩ := (create_eq_ok_iff ..).mp created
    rw [registry_eq]
    apply rulesIssued rule _ f member
    have same : (start.afterMoves moves).rules = rules.toArray := balanced.declared
    rw [same] at declared
    apply declared
  · intro σ retained f member
    have new := new_of_create created
    obtain ⟨k, e, -, -, -, -, rfl⟩ :=
      (onCourse_afterMoves new moves).exists_step new retained
    rw [registry_eq]
    apply issued_of_mem_sequence created (List.replicate (k + 1) .step)
    rw [afterMoves_replicate_step]
    apply member
  · apply inPlace
  · apply cursor_of_inPlace inPlace
  · apply exists_current balanced inPlace

/-- The chain is coherent after a failed rewind and a successful one. -/
theorem coherent_chain :
  ((chain ⟨2, .everyStep⟩).afterMoves
      [.step, .step, .step, .rewind 1, .rewind 2]).Coherent [chainFact 0] chainRules
    ∧ ((chain ⟨2, .everyStep⟩).afterMoves
      [.step, .step, .step, .rewind 1, .rewind 2]).head = 2
  := by
  constructor
  · apply coherent_afterMoves (create_chain _)
  · decide +kernel

end Solver

end ForwardChaining
