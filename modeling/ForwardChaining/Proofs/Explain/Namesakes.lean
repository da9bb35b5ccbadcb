import ForwardChaining.Proofs.Explain.Blocked
import ForwardChaining.Proofs.Solver.Namesakes

/-!
# Explanations by solvers that match

Solvers that match explain alike: the same rules are blocked, and wait for namesakes, which nothing
or the same rules conclude (`Solver.Matches.blocked`).  Namesakes have the same origin
(`Solver.Matches.origin_eq`), and a fact without a namesake is one that neither solver has a use for
(`Solver.Matches.origin_of_alone_left`).
-/

namespace ForwardChaining

/-- The same stands in the way of the conditions, which are related. -/
structure MissingCondition.Matches (R : FactId → FactId → Prop) (a b : MissingCondition) :
    Prop where
  fact : R a.fact b.fact
  blocker : a.blocker = b.blocker

/-- The same rule is blocked, by conditions that match. -/
structure BlockedRule.Matches (R : FactId → FactId → Prop) (a b : BlockedRule) : Prop where
  rule : a.rule = b.rule
  missing : List.Forall₂ (MissingCondition.Matches R) a.missing b.missing

namespace Solver

variable {r q : Registry} {s t : Solver} {f g : FactId}

/-- A fact that has not been asserted and that no rule concludes is unreachable. -/
theorem origin_of_absent (absent : f ∉ s.memory.sequence)
    (unconcluded : ∀ rule ∈ s.rules.toList, f ∉ rule.conclusions) :
  s.origin f = .unreachable
  := by
  have nowhere : s.memory.sequence.findIdx? (· = f) = none := by
    rw [List.findIdx?_eq_none_iff]
    intro g member
    rw [decide_eq_false_iff_not]
    rintro rfl
    apply absent member
  have never : s.blocker f none = .unreachable := by
    rw [blocker_eq_unreachable_iff]
    intro id _ _ concluded
    rw [ruleAt] at concluded
    cases found : s.rule? id with
    | none =>
      rw [found] at concluded
      cases concluded
    | some rule =>
      rw [found] at concluded
      rw [rule?, ← Array.getElem?_toList] at found
      apply unconcluded rule (List.mem_of_getElem? found) concluded
  rw [origin, nowhere]
  dsimp only
  rw [never]

namespace Matches

/-! ### Blocked rules -/

theorem ruleConcludes_eq (same : s.Matches r q t) (related : r.Same q f g) (id : RuleId) :
  s.ruleConcludes f id = t.ruleConcludes g id
  := by
  apply same.rule?_congr (f := Option.any (·.concludes f)) (g := Option.any (·.concludes g)) id rfl
  intro a b rule
  exact rule.concludes_eq same.alike.biUnique related

theorem blocker_eq (same : s.Matches r q t) (related : r.Same q f g) (except : Option RuleId) :
  s.blocker f except = t.blocker g except
  := by
  rw [blocker, blocker, concluders, concluders, same.pending,
    funext (same.ruleConcludes_eq related)]

theorem missingConditions (same : s.Matches r q t) (id : RuleId) :
  List.Forall₂ (MissingCondition.Matches (r.Same q)) (s.missingConditions id)
    (t.missingConditions id)
  := by
  rw [Solver.missingConditions, Solver.missingConditions]
  obtain ⟨none, none'⟩ | ⟨a, b, found, found', rule⟩ := same.rule?_cases id
  · rw [none, none']
    exact .nil
  · rw [found, found']
    apply List.rel_map _ (rule.missing same.memory)
    intro f g related
    exact ⟨related, same.blocker_eq related (some id)⟩

/-- The same rules are blocked, by conditions that match. -/
theorem blocked (same : s.Matches r q t) :
  List.Forall₂ (BlockedRule.Matches (r.Same q)) s.blocked t.blocked
  := by
  rw [Solver.blocked, Solver.blocked, same.pending]
  apply List.rel_filter
  · intro a b blocked
    dsimp only
    rw [isEmpty_eq_of_together blocked.missing]
  · rw [List.forall₂_map_left_iff, List.forall₂_map_right_iff, List.forall₂_same]
    intro id _
    exact ⟨rfl, same.missingConditions id⟩

theorem describeBlocked_eq {a b : BlockedRule} (same : s.Matches r q t)
    (blocked : a.Matches (r.Same q) b) :
  s.describeBlocked a = t.describeBlocked b
  := by
  have label : (s.rule? a.rule).bind (·.label) = (t.rule? b.rule).bind (·.label) := by
    rw [blocked.rule]
    apply same.rule?_congr (f := (Option.bind · (·.label))) (g := (Option.bind · (·.label)))
      b.rule rfl
    intro _ _ rule
    exact rule.label
  have lines : (a.missing.map fun m =>
        "\n  - " ++ s.registry.displayName m.fact ++ ": " ++ m.blocker.describe)
      = b.missing.map fun m =>
        "\n  - " ++ t.registry.displayName m.fact ++ ": " ++ m.blocker.describe := by
    apply map_eq_of_together blocked.missing
    intro m n missing
    rw [same.left, same.right, missing.fact.displayName_eq, missing.blocker]
  rw [describeBlocked, describeBlocked, label, lines, blocked.rule]

/-- Blocked rules are explained by the same text. -/
theorem explain_eq {blocked blocked' : List BlockedRule} (same : s.Matches r q t)
    (together : List.Forall₂ (BlockedRule.Matches (r.Same q)) blocked blocked') :
  s.explain blocked = t.explain blocked'
  := by
  rw [explain, explain, isEmpty_eq_of_together together,
    map_eq_of_together together fun _ _ => same.describeBlocked_eq]

/-! ### Origins -/

theorem length_conclusionsOf_eq (same : s.Matches r q t) (id : RuleId) :
  (s.conclusionsOf id).length = (t.conclusionsOf id).length
  := by
  apply same.rule?_congr (f := fun rule => (rule.elim [] (·.conclusions)).length)
    (g := fun rule => (rule.elim [] (·.conclusions)).length) id rfl
  intro a b rule
  exact rule.conclusions.length_eq

theorem originAt_eq (same : s.Matches r q t) (position offset : Nat) (fired : List RuleId) :
  s.originAt position offset fired = t.originAt position offset fired
  := by
  induction fired generalizing offset with
  | nil => rfl
  | cons id fired ih =>
    rw [originAt, originAt, same.length_conclusionsOf_eq, ih]

/-- Namesakes have the same origin. -/
theorem origin_eq (same : s.Matches r q t) (related : r.Same q f g) :
  s.origin f = t.origin g
  := by
  have place : s.memory.sequence.findIdx? (· = f) = t.memory.sequence.findIdx? (· = g) := by
    apply findIdx?_eq_of_together same.memory.sequence
    intro f' g' related'
    rw [decide_eq_decide]
    apply Relator.rel_eq same.alike.biUnique related' related
  have lengths : (s.fired.toList.flatMap s.conclusionsOf).length
      = (t.fired.toList.flatMap t.conclusionsOf).length := by
    rw [List.length_flatMap, List.length_flatMap, same.fired, funext same.length_conclusionsOf_eq]
  rw [origin, origin, place, lengths, same.blocker_eq related, same.memory.size_eq, same.fired]
  split
  · rfl
  · dsimp only
    rw [same.originAt_eq]

theorem why_eq (same : s.Matches r q t) (related : r.Same q f g) :
  s.why f = t.why g
  := by
  obtain ⟨name, named, named'⟩ := id related
  rw [why, why, same.left, same.right, Registry.check_of_name? named,
    Registry.check_of_name? named', same.origin_eq related]

/-- The first solver has no use for a fact without a namesake. -/
theorem origin_of_alone_left (same : s.Matches r q t) (alone : ∀ g, ¬r.Same q f g) :
  s.origin f = .unreachable
  := by
  apply origin_of_absent
  · intro member
    obtain ⟨g, -, related⟩ := exists_of_mem_left same.memory.sequence member
    apply alone g related
  · intro rule member concluded
    obtain ⟨rule', -, rules⟩ := exists_of_mem_left same.rules member
    obtain ⟨g, -, related⟩ := exists_of_mem_left rules.conclusions concluded
    apply alone g related

/-- The second solver has no use for a fact without a namesake. -/
theorem origin_of_alone_right (same : s.Matches r q t) (alone : ∀ f, ¬r.Same q f g) :
  t.origin g = .unreachable
  := by
  apply origin_of_absent
  · intro member
    obtain ⟨f, -, related⟩ := exists_of_mem_right same.memory.sequence member
    apply alone f related
  · intro rule member concluded
    obtain ⟨rule', -, rules⟩ := exists_of_mem_right same.rules member
    obtain ⟨f, -, related⟩ := exists_of_mem_right rules.conclusions concluded
    apply alone f related

end Matches

end Solver

end ForwardChaining
