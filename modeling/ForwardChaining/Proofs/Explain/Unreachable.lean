import ForwardChaining.Proofs.Explain.Blocked
import ForwardChaining.Proofs.Solver.Fixpoint

/-!
# Unreachable facts

What an explanation calls unreachable never comes to be, as long as the run is not rewound: the
fact never enters the memory, and a rule that misses it never fires and is left over when the
run fails (`Solver.never_of_unreachable`).

The explanation looks at the pending rules once, and leaves out the rule that misses the fact.
What keeps its word for the rest of the run is that every pending rule which concludes the fact
also needs it (`Position.OutOfReach`), so that none of them is satisfied before the fact is
there.
-/

namespace ForwardChaining

/-- The fact has not been asserted, and each pending rule that concludes it needs it. -/
structure Position.OutOfReach (f : FactId) (p : Position) : Prop where
  absent : ¬ p.memory.contains f = true
  circular : ∀ id ∈ p.pending.toList, f ∈ (p.ruleAt id).conclusions → f ∈ (p.ruleAt id).conditions

/-- The rule is pending, and needs a fact that is out of reach. -/
structure Position.Starved (id : RuleId) (f : FactId) (p : Position) : Prop where
  outOfReach : p.OutOfReach f
  pending : id ∈ p.pending.toList
  condition : f ∈ (p.ruleAt id).conditions

namespace Solver

variable {s t start : Solver} {f : FactId} {id current : RuleId} {inputs : List FactId}
  {rules : List Rule}

/-! ### What explanations call unreachable -/

/-- A fact that no pending rule concludes is out of reach. -/
theorem outOfReach_of_origin (balanced : s.position.Balanced inputs rules)
    (unreachable : s.origin f = .unreachable) :
  s.position.OutOfReach f
  := by
  obtain ⟨absent, none⟩ := absent_of_origin balanced unreachable
  constructor
  · exact mt (balanced.contains_iff f).mp absent
  · intro id pending concluded
    apply absurd concluded
    apply blocker_eq_unreachable_iff.mp none id pending
    apply Option.some_ne_none

/-- A rule that misses an unreachable condition is starved: it may conclude the condition itself,
but no other pending rule does. -/
theorem starved_of_blocked {b : BlockedRule} {m : MissingCondition} (blocked : b ∈ s.blocked)
    (missing : m ∈ b.missing) (unreachable : m.blocker = .unreachable) :
  s.position.Starved b.rule m.fact
  := by
  obtain ⟨pending, same, -⟩ := mem_blocked_iff.mp blocked
  rw [same] at missing
  obtain ⟨condition, absent, blocker⟩ := mem_missingConditions_iff.mp missing
  rw [unreachable] at blocker
  refine ⟨⟨absent, ?_⟩, pending, condition⟩
  intro id pending concluded
  by_cases itself : id = b.rule
  · rw [itself]
    exact condition
  · apply absurd concluded
    apply blocker_eq_unreachable_iff.mp blocker id pending
    rwa [ne_eq, Option.some_inj]

/-! ### What steps keep -/

/-- A rule that fires is satisfied, so that it neither needs nor concludes a fact that is out of
reach. -/
theorem outOfReach_fire (outOfReach : s.position.OutOfReach f)
    (found : s.pending[s.cursor]? = some current)
    (satisfied : (s.ruleAt current).isSatisfied s.memory = true) :
  (s.fire current (s.ruleAt current)).position.OutOfReach f
  := by
  obtain ⟨inside, rfl⟩ := getElem_of_current found
  constructor
  · intro present
    obtain before | concluded := (WorkingMemory.contains_assertAll _ _ _).mp present
    · exact outOfReach.absent before
    · have condition := outOfReach.circular _ (List.getElem_mem inside) concluded
      exact outOfReach.absent ((Rule.isSatisfied_iff _ _).mp satisfied f condition)
  · intro id pending
    apply outOfReach.circular id
    change id ∈ (s.pending.eraseIdxIfInBounds s.cursor).toList at pending
    rw [Array.toList_eraseIdxIfInBounds] at pending
    exact List.mem_of_mem_eraseIdx pending

/-- A starved rule is not the one that fires. -/
theorem starved_fire (starved : s.position.Starved id f)
    (found : s.pending[s.cursor]? = some current)
    (satisfied : (s.ruleAt current).isSatisfied s.memory = true) :
  (s.fire current (s.ruleAt current)).position.Starved id f
  := by
  constructor
  · exact outOfReach_fire starved.outOfReach found satisfied
  · obtain ⟨inside, fires⟩ := getElem_of_current found
    obtain ⟨place, within, same⟩ := List.getElem_of_mem starved.pending
    change id ∈ (s.pending.eraseIdxIfInBounds s.cursor).toList
    rw [Array.toList_eraseIdxIfInBounds, List.mem_eraseIdx_iff_getElem]
    refine ⟨place, within, ?_, same⟩
    rintro rfl
    obtain rfl : current = id := fires.symm.trans same
    have present := (Rule.isSatisfied_iff _ _).mp satisfied f starved.condition
    exact starved.outOfReach.absent present
  · exact starved.condition

/-- To settle a pass takes nothing from the queue and adds nothing to the memory. -/
theorem outOfReach_settle (outOfReach : s.position.OutOfReach f) :
  s.settle.position.OutOfReach f
  := by
  unfold settle
  split
  · exact ⟨outOfReach.absent, outOfReach.circular⟩
  · exact outOfReach

theorem starved_settle (starved : s.position.Starved id f) :
  s.settle.position.Starved id f
  := by
  refine ⟨outOfReach_settle starved.outOfReach, ?_, ?_⟩
  · rw [settle_eq_with]
    exact starved.pending
  · rw [settle_eq_with]
    exact starved.condition

theorem outOfReach_afterSteps (outOfReach : s.position.OutOfReach f) (n : Nat) :
  (s.afterSteps n).position.OutOfReach f
  := by
  apply position_afterSteps_induction outOfReach
  · intro s current outOfReach _ found satisfied
    exact outOfReach_settle (outOfReach_fire outOfReach found satisfied)
  · intro s current outOfReach _ _ _
    exact outOfReach_settle (s := s.skip) ⟨outOfReach.absent, outOfReach.circular⟩

theorem starved_afterSteps (starved : s.position.Starved id f) (n : Nat) :
  (s.afterSteps n).position.Starved id f
  := by
  apply position_afterSteps_induction starved
  · intro s current starved _ found satisfied
    exact starved_settle (starved_fire starved found satisfied)
  · intro s current starved _ _ _
    have outOfReach := starved.outOfReach
    exact starved_settle (s := s.skip)
      ⟨⟨outOfReach.absent, outOfReach.circular⟩, starved.pending, starved.condition⟩

/-! ### The rest of the run -/

/-- A run does not succeed over a starved rule. -/
theorem run_of_starved (kept : s.run.2.position.Kept inputs rules)
    (starved : s.position.Starved id f) :
  ∃ d, s.run.1 = .failed d ∧ id ∈ d.unsatisfied
  := by
  have pending : id ∈ s.run.2.position.pending.toList := by
    rw [run_eq]
    exact (starved_afterSteps starved _).pending
  obtain ⟨-, status⟩ | ⟨d, result, status⟩ := s.run_cases
  · rw [kept.concluded.succeeded (standing_of_succeeded status)] at pending
    cases pending
  · obtain ⟨named, -⟩ := kept.concluded.failed d (standing_of_failed status)
    use d, result
    rw [named]
    exact pending

/-- In the continuation `t` of a run, the fact has not been asserted. -/
theorem absent_of_outOfReach (balanced : t.position.Balanced inputs rules)
    (outOfReach : s.position.OutOfReach f) (continues : s.Continues t) :
  f ∉ t.memory.sequence
  := by
  obtain ⟨n, rfl⟩ := continues.exists_afterSteps
  exact mt (balanced.contains_iff f).mpr (outOfReach_afterSteps outOfReach n).absent

/-- However a run goes on without a rewind, an unreachable condition of a blocked rule is never
asserted, the rule never fires, and the run fails with the rule among those that are not
satisfied; and a fact of which it is said that no pending rule concludes it is never asserted. -/
theorem never_of_unreachable {registry : Registry} {config : SolverConfig}
    (created : create registry inputs rules config = .ok start) (moves : List Move) :
  (∀ b ∈ (start.afterMoves moves).blocked, ∀ m ∈ b.missing, m.blocker = .unreachable →
      ∀ t, (start.afterMoves moves).Continues t →
        m.fact ∉ t.memory.sequence ∧ b.rule ∉ t.fired.toList
          ∧ ∃ d, t.run.1 = .failed d ∧ b.rule ∈ d.unsatisfied)
    ∧ ∀ f, (start.afterMoves moves).why f = .ok .unreachable →
      ∀ t, (start.afterMoves moves).Continues t → f ∉ t.memory.sequence
  := by
  have kept : ∀ t, (start.afterMoves moves).Continues t → t.position.Kept inputs rules := by
    rintro t ⟨later, -, rfl⟩
    rw [← afterMoves_append]
    exact kept_afterMoves created _
  constructor
  · intro b blocked m missing unreachable t continues
    have starved := starved_of_blocked blocked missing unreachable
    have balanced := (kept t continues).balanced
    refine ⟨absent_of_outOfReach balanced starved.outOfReach continues, ?_, ?_⟩
    · obtain ⟨n, rfl⟩ := continues.exists_afterSteps
      intro fired
      obtain ⟨-, -, apart⟩ := List.nodup_append.mp balanced.nodup
      exact apart _ fired _ (starved_afterSteps starved n).pending rfl
    · have last := kept _ continues.run
      obtain ⟨n, rfl⟩ := continues.exists_afterSteps
      exact run_of_starved last (starved_afterSteps starved n)
  · intro f explained t continues
    have balanced := (kept _ (Continues.refl _)).balanced
    have outOfReach := outOfReach_of_origin balanced (origin_of_why explained)
    exact absent_of_outOfReach (kept t continues).balanced outOfReach continues

/-- One step into the chain, it is told that no rule leads to X, so that neither X nor the rule
from X to A is seen in what follows. -/
theorem never_of_unreachable_chain :
  ⟨⟨0⟩, [⟨chainFact 3, .unreachable⟩]⟩ ∈ ((chain {}).afterMoves [.step]).blocked
    ∧ ((chain {}).afterMoves [.step]).why (chainFact 3) = .ok .unreachable
    ∧ (let later := ((chain {}).afterMoves [.step]).afterMoves [.iterate, .step]
      chainFact 3 ∉ later.memory.sequence ∧ ⟨0⟩ ∉ later.fired.toList
        ∧ ∃ d, later.run.1 = .failed d ∧ ⟨0⟩ ∈ d.unsatisfied)
  := by
  have blocked : ⟨⟨0⟩, [⟨chainFact 3, .unreachable⟩]⟩ ∈ ((chain {}).afterMoves [.step]).blocked := by
    decide +kernel
  have explained : ((chain {}).afterMoves [.step]).why (chainFact 3) = .ok .unreachable := by
    decide +kernel
  have continues : ((chain {}).afterMoves [.step]).Continues
      (((chain {}).afterMoves [.step]).afterMoves [.iterate, .step]) :=
    ⟨[.iterate, .step], by simp, rfl⟩
  obtain ⟨conditions, facts⟩ := never_of_unreachable (create_chain {}) [.step]
  refine ⟨blocked, explained, facts _ explained _ continues, ?_⟩
  exact (conditions _ blocked _ (List.mem_singleton_self _) rfl _ continues).2

end Solver

end ForwardChaining
