import ForwardChaining.Explain
import ForwardChaining.Proofs.Solver.Coherence

/-!
# What explanations say

An explanation is read off the pending rules and the memory.  A missing condition is
unreachable if no other pending rule concludes it, and awaits otherwise just the rules that do
(`Solver.blocker_eq_unreachable_iff`, `Solver.blocker_eq_awaiting_iff`); a rule is blocked if it
is pending and misses some condition (`Solver.mem_blocked_iff`).  A fact that is called
unreachable is not in the memory (`Solver.absent_of_origin`).
-/

namespace ForwardChaining

theorem Rule.mem_missing_iff {rule : Rule} {m : WorkingMemory} {f : FactId} :
  f ∈ rule.missing m ↔ f ∈ rule.conditions ∧ ¬ m.contains f = true
  := by
  simp [Rule.missing]

/-- A rule misses nothing exactly if it is satisfied. -/
theorem Rule.missing_eq_nil_iff {rule : Rule} {m : WorkingMemory} :
  rule.missing m = [] ↔ rule.isSatisfied m = true
  := by
  simp [Rule.missing, Rule.isSatisfied]

namespace Solver

variable {s : Solver} {f : FactId} {id : RuleId} {except : Option RuleId} {ids : List RuleId}

/-! ### Blockers -/

theorem ruleConcludes_iff :
  s.ruleConcludes f id = true ↔ f ∈ (s.ruleAt id).conclusions
  := by
  rw [ruleConcludes, ruleAt]
  cases s.rule? id <;> simp [Rule.concludes]

/-- The concluders of a fact are the pending rules that conclude it, but for the exception. -/
theorem mem_concluders_iff :
  id ∈ s.concluders f except
    ↔ id ∈ s.pending.toList ∧ some id ≠ except ∧ f ∈ (s.ruleAt id).conclusions
  := by
  rw [concluders, List.mem_filter, List.mem_filter, ruleConcludes_iff, bne_iff_ne, and_assoc]

theorem blocker_eq_unreachable_iff :
  s.blocker f except = .unreachable
    ↔ ∀ id ∈ s.pending.toList, some id ≠ except → f ∉ (s.ruleAt id).conclusions
  := by
  have none : s.blocker f except = .unreachable ↔ s.concluders f except = [] := by
    unfold blocker
    split <;> simp_all
  rw [none, List.eq_nil_iff_forall_not_mem]
  simp only [mem_concluders_iff, not_and]

/-- What awaits the rules `ids` is concluded by them and by no other rule, and they are not
none. -/
theorem blocker_eq_awaiting_iff :
  s.blocker f except = .awaiting ids ↔ s.concluders f except = ids ∧ ids ≠ []
  := by
  unfold blocker
  split
  · rename_i none
    rw [none]
    constructor
    · intro awaiting
      cases awaiting
    · rintro ⟨rfl, some⟩
      exact absurd rfl some
  · rename_i some
    rw [Blocker.awaiting.injEq]
    constructor
    · rintro rfl
      exact ⟨rfl, some⟩
    · rintro ⟨same, -⟩
      exact same

/-! ### Blocked rules -/

theorem missingConditions_eq (s : Solver) (id : RuleId) :
  s.missingConditions id
    = ((s.ruleAt id).missing s.memory).map fun f => ⟨f, s.blocker f (some id)⟩
  := by
  rw [missingConditions, ruleAt]
  cases s.rule? id <;> rfl

theorem mem_missingConditions_iff {m : MissingCondition} :
  m ∈ s.missingConditions id ↔ m.fact ∈ (s.ruleAt id).conditions
    ∧ ¬ s.memory.contains m.fact = true ∧ s.blocker m.fact (some id) = m.blocker
  := by
  rw [missingConditions_eq, List.mem_map]
  constructor
  · rintro ⟨f, missing, rfl⟩
    obtain ⟨condition, absent⟩ := Rule.mem_missing_iff.mp missing
    exact ⟨condition, absent, rfl⟩
  · rintro ⟨condition, absent, blocker⟩
    use m.fact, Rule.mem_missing_iff.mpr ⟨condition, absent⟩
    rw [blocker]

/-- A rule misses no condition exactly if it is satisfied. -/
theorem missingConditions_eq_nil_iff :
  s.missingConditions id = [] ↔ (s.ruleAt id).isSatisfied s.memory = true
  := by
  rw [missingConditions_eq, List.map_eq_nil_iff, Rule.missing_eq_nil_iff]

theorem mem_blocked_iff {b : BlockedRule} :
  b ∈ s.blocked
    ↔ b.rule ∈ s.pending.toList ∧ b.missing = s.missingConditions b.rule ∧ b.missing ≠ []
  := by
  rw [blocked, List.mem_filter, List.mem_map, Bool.not_eq_true', List.isEmpty_eq_false_iff]
  constructor
  · rintro ⟨⟨id, pending, rfl⟩, some⟩
    exact ⟨pending, rfl, some⟩
  · rintro ⟨pending, missing, some⟩
    refine ⟨⟨b.rule, pending, ?_⟩, some⟩
    rw [← missing]

/-- If no pending rule is satisfied, the blocked rules are the pending rules in queue order. -/
theorem map_rule_blocked
    (unsatisfied : ∀ id ∈ s.pending.toList, ¬ (s.ruleAt id).isSatisfied s.memory = true) :
  s.blocked.map (·.rule) = s.pending.toList
  := by
  have all : s.blocked = s.pending.toList.map fun id => ⟨id, s.missingConditions id⟩ := by
    apply List.filter_eq_self.mpr
    intro b member
    obtain ⟨id, pending, rfl⟩ := List.mem_map.mp member
    rw [Bool.not_eq_true', List.isEmpty_eq_false_iff]
    apply mt missingConditions_eq_nil_iff.mp (unsatisfied id pending)
  rw [all, List.map_map]
  apply List.map_id

/-! ### Origins -/

/-- To ask for the origin of a fact is to have its handle checked first. -/
theorem origin_of_why {origin : FactOrigin} (explained : s.why f = .ok origin) :
  s.origin f = origin
  := by
  rw [why] at explained
  cases checked : s.registry.check f with
  | error e =>
    rw [checked] at explained
    cases explained
  | ok =>
    rw [checked] at explained
    exact Except.ok.inj explained

/-- A place of the memory that the conclusions of fired rules cover is told by one of these. -/
theorem originAt_ne_unreachable {position offset : Nat} {fired : List RuleId}
    (covered : position < offset + (fired.flatMap s.conclusionsOf).length)
    (before : offset ≤ position) :
  s.originAt position offset fired ≠ .unreachable
  := by
  induction fired generalizing offset with
  | nil =>
    rw [List.flatMap_nil, List.length_nil] at covered
    omega
  | cons id fired ih =>
    rw [List.flatMap_cons, List.length_append, ← Nat.add_assoc] at covered
    rw [originAt]
    split
    · apply FactOrigin.noConfusion
    · rename_i later
      apply ih covered (Nat.le_of_not_lt later)

theorem conclusionsOf_eq (s : Solver) :
  s.conclusionsOf = fun id => (s.ruleAt id).conclusions
  := by
  funext id
  rw [conclusionsOf, ruleAt]
  cases s.rule? id <;> rfl

theorem sequence_eq_inputs_append {inputs : List FactId} {rules : List Rule}
    (balanced : s.position.Balanced inputs rules) :
  s.memory.sequence = inputs ++ s.fired.toList.flatMap s.conclusionsOf
  := by
  rw [conclusionsOf_eq]
  exact balanced.sequence_eq

/-- What the fired rules conclude is all of the memory but for the inputs. -/
theorem size_memory_eq {inputs : List FactId} {rules : List Rule}
    (balanced : s.position.Balanced inputs rules) :
  s.memory.size = inputs.length + (s.fired.toList.flatMap s.conclusionsOf).length
  := by
  rw [← List.length_append, ← sequence_eq_inputs_append balanced]
  exact (Log.length_toList _).symm

/-- A fact whose origin is called unreachable is not in the memory, and no pending rule
concludes it. -/
theorem absent_of_origin {inputs : List FactId} {rules : List Rule}
    (balanced : s.position.Balanced inputs rules) (unreachable : s.origin f = .unreachable) :
  f ∉ s.memory.sequence ∧ s.blocker f none = .unreachable
  := by
  unfold origin at unreachable
  split at unreachable
  · rename_i absent
    constructor
    · intro present
      simpa using List.findIdx?_eq_none_iff.mp absent f present
    · split at unreachable
      · rename_i none
        exact none
      · cases unreachable
  · -- a fact that is in the memory is an input or a conclusion of a rule that has fired
    rename_i position found
    have inside : position < s.memory.size := by
      have := (List.findIdx?_eq_some_iff_getElem.mp found).1
      rwa [WorkingMemory.sequence, Log.length_toList] at this
    have size := size_memory_eq balanced
    dsimp only at unreachable
    split at unreachable
    · cases unreachable
    · rename_i later
      exact absurd unreachable (originAt_ne_unreachable (by omega) (Nat.le_of_not_lt later))

end Solver

end ForwardChaining
