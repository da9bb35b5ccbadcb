import Mathlib.Data.List.Chain
import Mathlib.Data.List.Duplicate
import Mathlib.Data.List.Perm.Subperm
import ForwardChaining.Proofs.Explain.Blocked
import ForwardChaining.Proofs.Solver.Fixpoint

/-!
# Explained deadlocks

When a run has failed, the blocked rules are the pending rules, which are those that the
deadlock names.  Whoever goes from a blocked rule to one that it awaits, and on from there,
never leaves them, and comes to a rule with an unreachable condition or back to a rule where
the walk has been (`Solver.explained_of_failed`).

No rule awaits itself, so that a walk that comes back has gone round a cycle of at least two
rules; and a walk cannot visit more rules than there are.
-/

namespace ForwardChaining

/-- The walk comes back to a rule by way of another one. -/
def Revisits (walk : List RuleId) : Prop :=
  ∃ id between, id :: between ++ [id] <:+: walk ∧ ∃ other ∈ between, other ≠ id

/-- A walk that visits a rule twice comes back to it by way of another one, unless it can stay
where it is. -/
theorem revisits_of_not_nodup {R : RuleId → RuleId → Prop} {walk : List RuleId}
    (moves : ∀ {id other}, R id other → other ≠ id) (chain : walk.IsChain R)
    (repeated : ¬ walk.Nodup) :
  Revisits walk
  := by
  obtain ⟨id, twice⟩ := List.exists_duplicate_iff_not_nodup.mpr repeated
  obtain ⟨front, back, rfl, first, second⟩ :=
    List.cons_sublist_iff.mp (List.duplicate_iff_sublist.mp twice)
  obtain ⟨before, between, rfl⟩ := List.append_of_mem first
  obtain ⟨between', after, rfl⟩ := List.append_of_mem (List.singleton_sublist.mp second)
  have round : id :: (between ++ between') ++ [id]
      <:+: (before ++ id :: between) ++ (between' ++ id :: after) := by
    use before, after
    simp
  refine ⟨id, between ++ between', round, ?_⟩
  -- the rule that comes after the first visit is another one
  have chain := chain.infix round
  generalize between ++ between' = path at chain ⊢
  cases path with
  | nil => exact absurd rfl (moves (List.isChain_cons_cons.mp chain).1)
  | cons other rest =>
    use other, List.mem_cons_self
    exact moves (List.isChain_cons_cons.mp chain).1

namespace Solver

variable {s start : Solver} {id other : RuleId} {inputs : List FactId} {rules : List Rule}

/-- The rule `id` is blocked, and awaits the rule `other` for a condition that it misses. -/
def Awaits (s : Solver) (id other : RuleId) : Prop :=
  ∃ b ∈ s.blocked, b.rule = id ∧ ∃ m ∈ b.missing, ∃ ids, m.blocker = .awaiting ids ∧ other ∈ ids

/-- The rule `id` is blocked, and a condition that it misses is unreachable. -/
def Hopeless (s : Solver) (id : RuleId) : Prop :=
  ∃ b ∈ s.blocked, b.rule = id ∧ b.isUnreachable = true

/-! ### Awaited rules -/

/-- An awaited rule is another pending rule. -/
theorem Awaits.pending_and_ne (awaits : s.Awaits id other) :
  other ∈ s.pending.toList ∧ other ≠ id
  := by
  obtain ⟨b, blocked, rfl, m, missing, ids, blocker, member⟩ := awaits
  obtain ⟨-, same, -⟩ := mem_blocked_iff.mp blocked
  rw [same] at missing
  obtain ⟨-, -, told⟩ := mem_missingConditions_iff.mp missing
  rw [blocker] at told
  obtain ⟨rfl, -⟩ := blocker_eq_awaiting_iff.mp told
  obtain ⟨pending, apart, -⟩ := mem_concluders_iff.mp member
  use pending
  rwa [ne_eq, Option.some_inj] at apart

/-- A missing condition that is not unreachable awaits some rule. -/
theorem exists_awaits_of_reachable {b : BlockedRule} {m : MissingCondition} (blocked : b ∈ s.blocked)
    (missing : m ∈ b.missing) (reachable : m.blocker ≠ .unreachable) :
  ∃ other, s.Awaits b.rule other
  := by
  cases blocker : m.blocker with
  | unreachable => exact absurd blocker reachable
  | awaiting ids =>
    obtain ⟨-, same, -⟩ := mem_blocked_iff.mp blocked
    have listed := missing
    rw [same] at listed
    obtain ⟨-, -, told⟩ := mem_missingConditions_iff.mp listed
    rw [blocker] at told
    obtain ⟨other, member⟩ := List.exists_mem_of_ne_nil _ (blocker_eq_awaiting_iff.mp told).2
    use other, b, blocked, rfl, m, missing, ids, blocker

/-- A blocked rule from which no walk goes on has an unreachable condition. -/
theorem hopeless_of_stuck (listed : id ∈ s.blocked.map (·.rule))
    (stuck : ∀ other, ¬ s.Awaits id other) :
  s.Hopeless id
  := by
  obtain ⟨b, blocked, rfl⟩ := List.mem_map.mp listed
  obtain ⟨-, -, some⟩ := mem_blocked_iff.mp blocked
  obtain ⟨m, missing⟩ := List.exists_mem_of_ne_nil _ some
  use b, blocked, rfl
  by_cases unreachable : m.blocker = .unreachable
  · exact List.any_eq_true.mpr ⟨m, missing, decide_eq_true unreachable⟩
  · obtain ⟨other, awaits⟩ := exists_awaits_of_reachable blocked missing unreachable
    exact absurd awaits (stuck other)

/-! ### Deadlocks -/

/-- The blocked rules explain the deadlock. -/
structure Explained (s : Solver) (d : Deadlock) : Prop where
  /-- The blocked rules are the pending rules, in queue order. -/
  listed : s.blocked.map (·.rule) = s.pending.toList
  /-- They are the rules that the deadlock names. -/
  named : d.unsatisfied = s.pending.toList
  missing : ∀ b ∈ s.blocked, b.missing ≠ []
  /-- No walk over awaited rules leaves the blocked rules. -/
  inside : ∀ id walk, id ∈ s.blocked.map (·.rule) → (id :: walk).IsChain s.Awaits →
    ∀ other ∈ walk, other ∈ s.blocked.map (·.rule)
  /-- A walk that has made as many moves as there are blocked rules, or cannot go on, has come
  to an unreachable condition or back to where it was. -/
  ends : ∀ id walk, id ∈ s.blocked.map (·.rule) → (id :: walk).IsChain s.Awaits →
    walk.length = s.blocked.length
      ∨ (∀ next, ¬ s.Awaits ((id :: walk).getLast (List.cons_ne_nil _ _)) next) →
    (∃ other ∈ id :: walk, s.Hopeless other) ∨ Revisits (id :: walk)

/-- A state in which no pending rule is satisfied explains the deadlock of the pending rules. -/
theorem explained_of_unsatisfied {d : Deadlock} (named : d.unsatisfied = s.pending.toList)
    (unsatisfied : ∀ id ∈ s.pending.toList, ¬ (s.ruleAt id).isSatisfied s.memory = true) :
  s.Explained d
  := by
  have listed := map_rule_blocked unsatisfied
  have inside : ∀ id walk, id ∈ s.blocked.map (·.rule) → (id :: walk).IsChain s.Awaits →
      ∀ other ∈ id :: walk, other ∈ s.blocked.map (·.rule) := by
    intro id walk first chain
    apply chain.induction _ _ _ (fun _ => first)
    intro x y awaits _
    rw [listed]
    exact awaits.pending_and_ne.1
  refine ⟨listed, named, fun b blocked => (mem_blocked_iff.mp blocked).2.2, ?_, ?_⟩
  · intro id walk first chain other member
    exact inside id walk first chain other (List.mem_cons_of_mem _ member)
  · rintro id walk first chain (long | stuck)
    · right
      apply revisits_of_not_nodup (fun awaits => awaits.pending_and_ne.2) chain
      intro distinct
      -- there are not so many rules to visit
      have within := (List.subperm_of_subset distinct (inside id walk first chain)).length_le
      rw [List.length_map, List.length_cons] at within
      omega
    · left
      have last := List.getLast_mem (List.cons_ne_nil id walk)
      exact ⟨_, last, hopeless_of_stuck (inside id walk first chain _ last) stuck⟩

/-- Every deadlock is explained, whatever moves led to it. -/
theorem explained_of_failed {registry : Registry} {config : SolverConfig}
    (created : create registry inputs rules config = .ok start) (moves : List Move) {d : Deadlock}
    (failed : (start.afterMoves moves).status = .failed d) :
  (start.afterMoves moves).Explained d
  := by
  have kept := kept_afterMoves created moves
  obtain ⟨named, -, unsatisfied⟩ := kept.concluded.failed d (standing_of_failed failed)
  exact explained_of_unsatisfied named unsatisfied

/-! ### A tangle of rules -/

/-- From B to C, from C to B, and from C and X to A. -/
def tangleRules : List Rule :=
  [.implies [chainFact 1] [chainFact 2], .implies [chainFact 2] [chainFact 1],
    .implies [chainFact 2, chainFact 3] [chainFact 0]]

/-- The solver for the tangle with the input A. -/
def tangle : Solver :=
  initial chainRegistry [chainFact 0] tangleRules {}

/-- Three steps into the tangle the run has failed: the first two rules await each other, and the
third awaits the first. -/
theorem explained_of_failed_tangle :
  (tangle.afterMoves [.step, .step, .step]).status = .failed ⟨[⟨0⟩, ⟨1⟩, ⟨2⟩], 1⟩
    ∧ (tangle.afterMoves [.step, .step, .step]).Explained ⟨[⟨0⟩, ⟨1⟩, ⟨2⟩], 1⟩
  := by
  have failed : (tangle.afterMoves [.step, .step, .step]).status
      = .failed ⟨[⟨0⟩, ⟨1⟩, ⟨2⟩], 1⟩ := by
    decide +kernel
  have created : create chainRegistry [chainFact 0] tangleRules {} = .ok tangle := rfl
  exact ⟨failed, explained_of_failed created _ failed⟩

end Solver

end ForwardChaining
