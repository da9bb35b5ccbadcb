import Mathlib.Order.Bounds.Defs
import ForwardChaining.Proofs.Solver.Coherence

/-!
# The least fixpoint

A run to the end, from any state that moves can lead to, ends with the least set of facts that
contains the inputs and is closed under the rules (`Solver.saturated_run`).

What it comes to is decided at the end of a pass from the number of rules that fired in it.
The cursor moves over a queue that shrinks under it, and a rewind can put it back into the
middle of a pass; what makes the count reliable is that as long as it is zero, no rule before
the cursor is satisfied (`Position.Passed`).
-/

namespace ForwardChaining

/-- The set contains the inputs, and the conclusions of each rule whose conditions it
contains. -/
structure Closed (inputs : List FactId) (rules : List Rule) (facts : Set FactId) : Prop where
  inputs : ∀ f ∈ inputs, f ∈ facts
  conclusions : ∀ rule ∈ rules, (∀ f ∈ rule.conditions, f ∈ facts) →
    ∀ f ∈ rule.conclusions, f ∈ facts

theorem Rule.isSatisfied_iff (rule : Rule) (m : WorkingMemory) :
  rule.isSatisfied m = true ↔ ∀ f ∈ rule.conditions, m.contains f = true
  := List.all_eq_true

/-- A satisfied rule stays satisfied. -/
theorem Rule.isSatisfied_assertAll {rule : Rule} {m : WorkingMemory}
    (satisfied : rule.isSatisfied m = true) (facts : List FactId) :
  rule.isSatisfied (m.assertAll facts) = true
  := by
  apply (rule.isSatisfied_iff _).mpr
  intro f condition
  apply (WorkingMemory.contains_assertAll _ _ _).mpr
  left
  apply (rule.isSatisfied_iff m).mp satisfied f condition

/-! ### Invariants of a run -/

/-- Every closed set contains the memory, and the rules that have fired are satisfied. -/
structure Position.Sound (inputs : List FactId) (rules : List Rule) (p : Position) : Prop where
  memory : ∀ facts, Closed inputs rules facts → ∀ f, p.memory.contains f = true → f ∈ facts
  fired : ∀ id ∈ p.fired.toList, (p.ruleAt id).isSatisfied p.memory = true

/-- As long as no rule has fired in the pass, the rules that the cursor has passed are not
satisfied. -/
def Position.Passed (p : Position) : Prop :=
  p.firedThisPass = 0 →
    ∀ id ∈ p.pending.toList.take p.head, ¬ (p.ruleAt id).isSatisfied p.memory = true

/-- A run that has succeeded leaves no rule pending, and one that has failed leaves some, which
it names and none of which is satisfied. -/
structure Position.Concluded (p : Position) : Prop where
  succeeded : p.standing = .succeeded → p.pending = #[]
  failed : ∀ d, p.standing = .failed d → d.unsatisfied = p.pending.toList ∧ p.pending ≠ #[]
    ∧ ∀ id ∈ p.pending.toList, ¬ (p.ruleAt id).isSatisfied p.memory = true

/-- What the steps of a run keep. -/
structure Position.Kept (inputs : List FactId) (rules : List Rule) (p : Position) : Prop where
  balanced : p.Balanced inputs rules
  inPlace : p.InPlace
  sound : p.Sound inputs rules
  passed : p.Passed
  concluded : p.Concluded

namespace Solver

variable {s start : Solver} {id : RuleId} {inputs : List FactId} {rules : List Rule}

/-! ### Soundness -/

theorem sound_initial (registry : Registry) (inputs : List FactId) (rules : List Rule)
    (config : SolverConfig) :
  (initial registry inputs rules config).position.Sound inputs rules
  := by
  constructor
  · intro facts closed f present
    apply closed.inputs
    apply (WorkingMemory.contains_ofSequence inputs f).mp present
  · intro id fired
    cases fired

/-- What a satisfied rule concludes is in every closed set. -/
theorem sound_fire (balanced : s.position.Balanced inputs rules)
    (sound : s.position.Sound inputs rules) (current : s.pending[s.cursor]? = some id)
    (satisfied : (s.ruleAt id).isSatisfied s.memory = true) :
  (s.fire id (s.ruleAt id)).position.Sound inputs rules
  := by
  have pending : id ∈ s.position.pending.toList := by
    obtain ⟨inside, rfl⟩ := getElem_of_current current
    apply List.getElem_mem inside
  have declared : s.ruleAt id ∈ rules := balanced.ruleAt_mem (Or.inr pending)
  constructor
  · intro facts closed f present
    obtain before | conclusion := (WorkingMemory.contains_assertAll _ _ _).mp present
    · apply sound.memory facts closed f before
    · apply closed.conclusions _ declared _ f conclusion
      intro c condition
      apply sound.memory facts closed c
      apply ((s.ruleAt id).isSatisfied_iff _).mp satisfied c condition
  · intro other member
    have fired : (s.fire id (s.ruleAt id)).position.fired.toList = s.fired.toList ++ [id] :=
      Log.toList_push _ _
    rw [fired] at member
    apply Rule.isSatisfied_assertAll
    obtain before | now := List.mem_append.mp member
    · apply sound.fired other before
    · obtain rfl := List.mem_singleton.mp now
      apply satisfied

theorem sound_skip (sound : s.position.Sound inputs rules) :
  s.skip.position.Sound inputs rules
  := by
  constructor
  · apply sound.memory
  · apply sound.fired

theorem sound_settle (sound : s.position.Sound inputs rules) :
  s.settle.position.Sound inputs rules
  := by
  unfold settle
  split
  · constructor
    · apply sound.memory
    · apply sound.fired
  · apply sound

/-! ### The count of a pass -/

/-- A rule that fires is counted. -/
theorem passed_fire (s : Solver) (id : RuleId) (rule : Rule) :
  (s.fire id rule).position.Passed
  := by
  intro none
  cases none

/-- A rule that is passed over is not satisfied. -/
theorem passed_skip (inPlace : s.position.InPlace) (passed : s.position.Passed)
    (current : s.pending[s.cursor]? = some id)
    (unsatisfied : ¬ (s.ruleAt id).isSatisfied s.memory = true) :
  s.skip.position.Passed
  := by
  intro none other member
  obtain ⟨inside, found⟩ := getElem_of_current current
  -- The cursor is in place, so the rule is the one next to those that were passed before.
  change other ∈ s.pending.toList.take (s.cursor + 1) at member
  rw [List.take_succ_eq_append_getElem inside, found, cursor_of_inPlace inPlace] at member
  obtain before | now := List.mem_append.mp member
  · apply passed none other before
  · obtain rfl := List.mem_singleton.mp now
    apply unsatisfied

theorem passed_settle (passed : s.position.Passed) :
  s.settle.position.Passed
  := by
  unfold settle
  split
  · intro _ id member
    cases member
  · apply passed

/-! ### Verdicts -/

theorem concluded_of_running (running : s.status = .running) :
  s.position.Concluded
  := by
  have standing := standing_of_running running
  constructor
  · intro succeeded
    rw [standing] at succeeded
    split at succeeded
    · rename_i empty
      apply empty
    · cases succeeded
  · intro d failed
    rw [standing] at failed
    split at failed
    · cases failed
    · cases failed

/-- A pass that ends without a rule fired has passed all pending rules. -/
theorem concluded_finishPass (running : s.status = .running) (passed : s.position.Passed)
    (atEnd : s.pending.size ≤ s.head) :
  s.finishPass.position.Concluded
  := by
  by_cases deadlocked : s.firedThisPass = 0 ∧ 0 < s.pending.size
  · have standing : s.finishPass.position.standing
        = .failed ⟨s.pending.toList, s.iteration + 1⟩ := by
      apply standing_of_failed
      apply if_pos deadlocked
    have all : s.position.pending.toList.take s.position.head = s.position.pending.toList :=
      List.take_of_length_le atEnd
    constructor
    · intro succeeded
      rw [standing] at succeeded
      cases succeeded
    · intro d failed
      rw [standing] at failed
      obtain rfl := Status.failed.inj failed
      apply And.intro rfl
      apply And.intro (Array.ne_empty_of_size_pos deadlocked.2)
      intro id pending
      apply passed deadlocked.1
      rw [all]
      apply pending
  · apply concluded_of_running
    simp [finishPass, deadlocked, running]

theorem concluded_settle (running : s.status = .running) (passed : s.position.Passed) :
  s.settle.position.Concluded
  := by
  unfold settle
  split
  · rename_i atEnd
    apply concluded_finishPass running passed atEnd
  · apply concluded_of_running running

/-! ### Invariants after all moves -/

theorem kept_initial (registry : Registry) (inputs : List FactId) (rules : List Rule)
    (config : SolverConfig) :
  (initial registry inputs rules config).position.Kept inputs rules
  := by
  constructor
  · apply balanced_initial
  · apply inPlace_initial
  · apply sound_initial
  · intro _ id member
    cases member
  · apply concluded_of_running
    rfl

theorem kept_fire (kept : s.position.Kept inputs rules) (running : s.status = .running)
    (current : s.pending[s.cursor]? = some id)
    (satisfied : (s.ruleAt id).isSatisfied s.memory = true) :
  (s.fire id (s.ruleAt id)).settle.position.Kept inputs rules
  := by
  have running' : (s.fire id (s.ruleAt id)).status = .running := running
  have passed := passed_fire s id (s.ruleAt id)
  constructor
  · apply balanced_settle (balanced_fire kept.balanced current)
  · apply inPlace_settle
  · apply sound_settle (sound_fire kept.balanced kept.sound current satisfied)
  · apply passed_settle passed
  · apply concluded_settle running' passed

theorem kept_skip (kept : s.position.Kept inputs rules) (running : s.status = .running)
    (current : s.pending[s.cursor]? = some id)
    (unsatisfied : ¬ (s.ruleAt id).isSatisfied s.memory = true) :
  s.skip.settle.position.Kept inputs rules
  := by
  have running' : s.skip.status = .running := running
  have passed := passed_skip kept.inPlace kept.passed current unsatisfied
  constructor
  · apply balanced_settle (balanced_skip kept.balanced current)
  · apply inPlace_settle
  · apply sound_settle (sound_skip kept.sound)
  · apply passed_settle passed
  · apply concluded_settle running' passed

theorem kept_afterMoves {registry : Registry} {config : SolverConfig}
    (created : create registry inputs rules config = .ok start) (moves : List Move) :
  (start.afterMoves moves).position.Kept inputs rules
  := by
  have new := new_of_create created
  obtain ⟨-, -, rfl⟩ := (create_eq_ok_iff ..).mp created
  apply position_afterMoves_induction new (kept_initial ..)
  · intro s id kept running current satisfied
    apply kept_fire kept running current satisfied
  · intro s id kept running current unsatisfied
    apply kept_skip kept running current unsatisfied

/-- What the steps of a run keep can be used to show that they keep something else. -/
theorem kept_induction {registry : Registry} {config : SolverConfig} {P : Position → Prop}
    (created : create registry inputs rules config = .ok start) (first : P start.position)
    (fire : ∀ (s : Solver) (id : RuleId), s.position.Kept inputs rules → P s.position →
      s.status = .running → s.pending[s.cursor]? = some id →
      (s.ruleAt id).isSatisfied s.memory = true → P (s.fire id (s.ruleAt id)).settle.position)
    (skip : ∀ (s : Solver) (id : RuleId), s.position.Kept inputs rules → P s.position →
      s.status = .running → s.pending[s.cursor]? = some id →
      ¬ (s.ruleAt id).isSatisfied s.memory = true → P s.skip.settle.position)
    (moves : List Move) :
  P (start.afterMoves moves).position
  := by
  have new := new_of_create created
  have kept : start.position.Kept inputs rules := kept_afterMoves created []
  have both : (start.afterMoves moves).position.Kept inputs rules
      ∧ P (start.afterMoves moves).position := by
    apply position_afterMoves_induction new (P := fun p => p.Kept inputs rules ∧ P p)
    · apply And.intro kept first
    · rintro s id ⟨kept, before⟩ running current satisfied
      apply And.intro (kept_fire kept running current satisfied)
      apply fire s id kept before running current satisfied
    · rintro s id ⟨kept, before⟩ running current unsatisfied
      apply And.intro (kept_skip kept running current unsatisfied)
      apply skip s id kept before running current unsatisfied
  apply both.2

end Solver

/-! ### The end of a run -/

namespace Position.Kept

variable {p : Position} {id : RuleId} {inputs : List FactId} {rules : List Rule}

/-- When a run is over, no pending rule is satisfied. -/
theorem unsatisfied (kept : p.Kept inputs rules) (ended : p.standing ≠ .running)
    (pending : id ∈ p.pending.toList) :
  ¬ (p.ruleAt id).isSatisfied p.memory = true
  := by
  cases standing : p.standing with
  | running => apply absurd standing ended
  | succeeded =>
    rw [kept.concluded.succeeded standing] at pending
    cases pending
  | failed d =>
    obtain ⟨-, -, unsatisfied⟩ := kept.concluded.failed d standing
    apply unsatisfied id pending

/-- When a run is over, the satisfied rules have fired. -/
theorem fired_iff (kept : p.Kept inputs rules) (ended : p.standing ≠ .running)
    (id : RuleId) :
  id ∈ p.fired.toList ↔ ∃ rule, rules[id.index]? = some rule
    ∧ ∀ f ∈ rule.conditions, p.memory.contains f = true
  := by
  constructor
  · intro fired
    use p.ruleAt id, kept.balanced.getElem?_of_mem (Or.inl fired)
    apply (Rule.isSatisfied_iff _ _).mp (kept.sound.fired id fired)
  · rintro ⟨rule, found, conditions⟩
    obtain ⟨inside, -⟩ := List.getElem?_eq_some_iff.mp found
    obtain fired | pending := kept.balanced.fired_or_pending_iff.mpr inside
    · apply fired
    · have unsatisfied := kept.unsatisfied ended pending
      rw [kept.balanced.ruleAt_eq found] at unsatisfied
      apply absurd ((rule.isSatisfied_iff _).mpr conditions) unsatisfied

/-- When a run is over, the memory holds the least closed set of facts. -/
theorem isLeast (kept : p.Kept inputs rules) (ended : p.standing ≠ .running) :
  IsLeast {facts | Closed inputs rules facts} {f | p.memory.contains f = true}
  := by
  constructor
  · constructor
    · intro f input
      apply (kept.balanced.contains_iff f).mpr
      rw [kept.balanced.sequence_eq]
      apply List.mem_append_left _ input
    · intro rule declared conditions f conclusion
      obtain ⟨index, found⟩ := List.mem_iff_getElem?.mp declared
      have fired : ⟨index⟩ ∈ p.fired.toList := by
        apply (kept.fired_iff ended _).mpr
        use rule, found
        apply conditions
      apply (kept.balanced.contains_iff f).mpr
      rw [kept.balanced.sequence_eq]
      apply List.mem_append_right
      apply List.mem_flatMap.mpr
      use ⟨index⟩, fired
      rw [kept.balanced.ruleAt_eq found]
      apply conclusion
  · intro facts closed f present
    apply kept.sound.memory facts closed f present

end Position.Kept

namespace Solver

variable {s start : Solver} {inputs : List FactId} {rules : List Rule}

/-- The run came to the given result with the least closed set of facts: it succeeded if every
rule has fired, and otherwise failed with the other rules, in order of declaration. -/
structure Saturated (inputs : List FactId) (rules : List Rule) (result : Termination)
    (final : Solver) : Prop where
  least : IsLeast {facts | Closed inputs rules facts} {f | final.memory.contains f = true}
  fired : ∀ id, id ∈ final.fired.toList ↔ ∃ rule, rules[id.index]? = some rule
    ∧ ∀ f ∈ rule.conditions, final.memory.contains f = true
  succeeded : result = .succeeded ↔ ∀ index < rules.length, ⟨index⟩ ∈ final.fired.toList
  failed : result ≠ .succeeded → ∃ d, result = .failed d
    ∧ d.unsatisfied
      = ((List.range rules.length).map RuleId.mk).filter (fun id => id ∉ final.fired.toList)
    ∧ ∀ id ∈ d.unsatisfied, ∃ rule, rules[id.index]? = some rule
      ∧ rule.isSatisfied final.memory = false

theorem saturated_of_succeeded (kept : s.position.Kept inputs rules)
    (status : s.status = .succeeded) :
  Saturated inputs rules .succeeded s
  := by
  have standing := standing_of_succeeded status
  have ended : s.position.standing ≠ .running := by
    rw [standing]
    apply Status.noConfusion
  constructor
  · apply kept.isLeast ended
  · apply kept.fired_iff ended
  · apply iff_of_true rfl
    apply kept.balanced.pending_eq_empty_iff.mp
    apply kept.concluded.succeeded standing
  · intro failed
    apply absurd rfl failed

theorem saturated_of_failed {d : Deadlock} (kept : s.position.Kept inputs rules)
    (status : s.status = .failed d) :
  Saturated inputs rules (.failed d) s
  := by
  have standing := standing_of_failed status
  have ended : s.position.standing ≠ .running := by
    rw [standing]
    apply Status.noConfusion
  obtain ⟨named, nonempty, unsatisfied⟩ := kept.concluded.failed d standing
  constructor
  · apply kept.isLeast ended
  · apply kept.fired_iff ended
  · apply iff_of_false
    · apply Termination.noConfusion
    · intro all
      apply nonempty (kept.balanced.pending_eq_empty_iff.mpr all)
  · intro _
    use d, rfl
    constructor
    · rw [named]
      apply kept.balanced.pending_eq
    · intro id member
      rw [named] at member
      use s.position.ruleAt id, kept.balanced.getElem?_of_mem (Or.inr member)
      apply Bool.eq_false_iff.mpr (unsatisfied id member)

/-- Every run to the end, whatever the moves before it, comes to the least fixpoint. -/
theorem saturated_run {registry : Registry} {config : SolverConfig}
    (created : create registry inputs rules config = .ok start) (moves : List Move) :
  Saturated inputs rules (start.afterMoves moves).run.1 (start.afterMoves moves).run.2
  := by
  have kept : (start.afterMoves moves).run.2.position.Kept inputs rules := by
    have last : (start.afterMoves moves).run.2 = start.afterMoves (moves ++ [.run]) := by
      rw [afterMoves_concat]
      rfl
    rw [last]
    apply kept_afterMoves created
  obtain ⟨result, status⟩ | ⟨d, result, status⟩ := run_cases (start.afterMoves moves)
  · rw [result]
    apply saturated_of_succeeded kept status
  · rw [result]
    apply saturated_of_failed kept status

/-- The chain, run to its end from the middle of a pass that it was rewound to. -/
theorem saturated_run_chain :
  Saturated [chainFact 0] chainRules
      ((chain { snapshots := .everyStep }).afterMoves [.step, .step, .step, .rewind 2]).run.1
      ((chain { snapshots := .everyStep }).afterMoves [.step, .step, .step, .rewind 2]).run.2
  := by
  apply saturated_run (create_chain _)

end Solver

end ForwardChaining
