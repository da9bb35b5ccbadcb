import ForwardChaining.Proofs.Registry.Namesakes
import ForwardChaining.Proofs.Solver.Creation
import ForwardChaining.Proofs.Solver.Moves
import ForwardChaining.Record.Basic

/-!
# Solvers over registries that are alike

Solvers match if they are in the same state but for the handles of facts, which are namesakes
(`Solver.Matches`).  Solvers that match still match after the same moves
(`Solver.Matches.afterMoves`): they have examined the same rules, and asserted namesakes and invoked
the same effects.  A run record does not tell them apart.
-/

namespace ForwardChaining

variable {R : FactId → FactId → Prop}

theorem contains_eq_of_together {facts facts' : List FactId} {f g : FactId}
    (unique : Relator.BiUnique R) (together : List.Forall₂ R facts facts') (related : R f g) :
  facts.contains f = facts'.contains g
  := by
  rw [Bool.eq_iff_iff, List.contains_iff_mem, List.contains_iff_mem]
  apply List.rel_mem unique related together

theorem appendNew_of_together {target target' facts facts' : List FactId}
    (unique : Relator.BiUnique R) (targets : List.Forall₂ R target target')
    (together : List.Forall₂ R facts facts') :
  List.Forall₂ R (appendNew target facts) (appendNew target' facts')
  := by
  induction together generalizing target target' with
  | nil => exact targets
  | cons first _ ih =>
    apply ih
    dsimp only
    rw [contains_eq_of_together unique targets first]
    split
    · exact targets
    · apply List.rel_append targets (.cons first .nil)

/-! ### Memories and rules -/

/-- Related facts have been asserted in the same order. -/
structure WorkingMemory.Matches (R : FactId → FactId → Prop) (m n : WorkingMemory) : Prop where
  sequence : List.Forall₂ R m.sequence n.sequence
  contains : ∀ f g, R f g → m.contains f = n.contains g

/-- The rules are the same but for the facts, which are related. -/
structure Rule.Matches (R : FactId → FactId → Prop) (a b : Rule) : Prop where
  label : a.label = b.label
  conditions : List.Forall₂ R a.conditions b.conditions
  conclusions : List.Forall₂ R a.conclusions b.conclusions

namespace WorkingMemory

variable {m n : WorkingMemory} {facts facts' : List FactId}

theorem Matches.assertAll (same : m.Matches R n) (unique : Relator.BiUnique R)
    (together : List.Forall₂ R facts facts') :
  (m.assertAll facts).Matches R (n.assertAll facts')
  := by
  constructor
  · rw [sequence_assertAll, sequence_assertAll]
    apply List.rel_append same.sequence together
  · intro f g related
    have member : f ∈ facts ↔ g ∈ facts' := List.rel_mem unique related together
    rw [Bool.eq_iff_iff, contains_assertAll, contains_assertAll, same.contains f g related, member]

theorem matches_ofSequence (unique : Relator.BiUnique R)
    (together : List.Forall₂ R facts facts') :
  (ofSequence facts).Matches R (ofSequence facts')
  := by
  apply Matches.assertAll _ unique together
  exact ⟨.nil, fun _ _ _ => rfl⟩

theorem Matches.size_eq (same : m.Matches R n) :
  m.size = n.size
  := by
  rw [size, size, ← Log.length_toList, ← Log.length_toList]
  apply same.sequence.length_eq

end WorkingMemory

namespace Rule

variable {a b : Rule} {m n : WorkingMemory}

/-- Rules between related facts match. -/
theorem matches_implies {conditions conditions' conclusions conclusions' : List FactId}
    (unique : Relator.BiUnique R) (together : List.Forall₂ R conditions conditions')
    (together' : List.Forall₂ R conclusions conclusions') :
  (implies conditions conclusions).Matches R (implies conditions' conclusions')
  := by
  constructor
  · rfl
  · apply appendNew_of_together unique .nil together
  · apply appendNew_of_together unique .nil together'

theorem Matches.isSatisfied_eq (same : a.Matches R b) (memory : m.Matches R n) :
  a.isSatisfied m = b.isSatisfied n
  := all_eq_of_together same.conditions memory.contains

theorem Matches.missing (same : a.Matches R b) (memory : m.Matches R n) :
  List.Forall₂ R (a.missing m) (b.missing n)
  := by
  apply List.rel_filter _ same.conditions
  intro f g related
  dsimp only
  rw [memory.contains f g related]

theorem Matches.concludes_eq {f g : FactId} (same : a.Matches R b) (unique : Relator.BiUnique R)
    (related : R f g) :
  a.concludes f = b.concludes g
  := contains_eq_of_together unique same.conclusions related

variable {r q : Registry}

theorem Matches.fire_eq (same : a.Matches (r.Same q) b) (alike : r.Alike q) :
  a.fire r = b.fire q
  := flatMap_eq_of_together same.conclusions fun _ _ => alike.perform_eq

/-- The facts of a rule are called the same. -/
theorem Matches.describe_eq (same : a.Matches (r.Same q) b) (w : Wording) :
  a.describe r w = b.describe q w
  := by
  have conditions := map_eq_of_together same.conditions fun _ _ => Registry.Same.displayName_eq
  have conclusions := map_eq_of_together same.conclusions fun _ _ => Registry.Same.displayName_eq
  rw [describe, describe, Wording.list, Wording.list, Wording.list, Wording.list,
    isEmpty_eq_of_together same.conditions, conditions, conclusions]

end Rule

/-! ### Histories -/

/-- The snapshots are the same but for the facts in memory, which are related. -/
def Snapshot.Matches (R : FactId → FactId → Prop) (a b : Snapshot) : Prop :=
  ∃ memory, List.Forall₂ R a.memory.toList memory.toList ∧ b = { a with memory := memory }

/-- The histories retain as much, and snapshots that match. -/
structure History.Matches (R : FactId → FactId → Prop) (h k : History) : Prop where
  capacity : h.capacity = k.capacity
  snapshots : List.Forall₂ (Snapshot.Matches R) h.snapshots k.snapshots

theorem Snapshot.Matches.step_eq {a b : Snapshot} (same : a.Matches R b) :
  a.step = b.step
  := by
  obtain ⟨memory, -, rfl⟩ := same
  rfl

namespace History

variable {h k : History} {a b : Snapshot}

theorem Matches.push (same : h.Matches R k) (last : a.Matches R b) :
  (h.push a).Matches R (k.push b)
  := by
  constructor
  · apply same.capacity
  · have grown := List.rel_append same.snapshots (.cons last .nil)
    rw [snapshots_push, snapshots_push, same.capacity, same.snapshots.length_eq]
    split
    · rw [← List.drop_one, ← List.drop_one]
      apply List.forall₂_drop 1 grown
    · exact grown

theorem Matches.truncateAfter (same : h.Matches R k) (step : Nat) :
  (h.truncateAfter step).Matches R (k.truncateAfter step)
  := by
  constructor
  · apply same.capacity
  · rw [snapshots_truncateAfter, snapshots_truncateAfter]
    apply List.rel_reverse
    apply dropWhile_of_together (List.rel_reverse same.snapshots)
    intro a b same
    rw [same.step_eq]

theorem Matches.get?_cases (same : h.Matches R k) (step : Nat) :
  (h.get? step = none ∧ k.get? step = none)
    ∨ ∃ a b, h.get? step = some a ∧ k.get? step = some b ∧ a.Matches R b
  := by
  apply find?_cases_of_together same.snapshots
  intro a b same
  rw [same.step_eq]

end History

/-! ### Solvers -/

/-- The outcomes are the same but for the facts asserted, which are related. -/
inductive Outcome.Matches (R : FactId → FactId → Prop) : Outcome → Outcome → Prop where
  | examined {rule : RuleId} {performing : Bool} {facts facts' : List FactId}
    (asserted : List.Forall₂ R facts facts') :
    Matches R (.examined ⟨rule, performing, facts⟩) (.examined ⟨rule, performing, facts'⟩)
  | succeeded : Matches R .succeeded .succeeded
  | failed (deadlock : Deadlock) : Matches R (.failed deadlock) (.failed deadlock)

theorem Outcome.Matches.isTerminal_eq {a b : Outcome} (same : a.Matches R b) :
  a.isTerminal = b.isTerminal
  := by
  cases same <;> rfl

variable {r q : Registry}

theorem Registry.Same.issued {f g : FactId} (same : r.Same q f g) :
  r.Issued f
  := by
  obtain ⟨name, named, -⟩ := same
  exact (r.check_eq_ok_iff f).mp (check_of_name? named)

/-- The solvers are over the registries `r` and `q`, which are alike, and in the same state but for
the handles of facts, which are namesakes. -/
structure Solver.Matches (r q : Registry) (s t : Solver) : Prop where
  alike : r.Alike q
  left : s.registry = r
  right : t.registry = q
  rules : List.Forall₂ (Rule.Matches (r.Same q)) s.rules.toList t.rules.toList
  memory : s.memory.Matches (r.Same q) t.memory
  pending : s.pending = t.pending
  fired : s.fired = t.fired
  head : s.head = t.head
  iteration : s.iteration = t.iteration
  firedThisPass : s.firedThisPass = t.firedThisPass
  steps : s.steps = t.steps
  status : s.status = t.status
  lastAsserted : List.Forall₂ (r.Same q) s.lastAsserted t.lastAsserted
  history : s.history.Matches (r.Same q) t.history
  config : s.config = t.config
  log : s.log = t.log

/-- The outcomes of the stages match, and so do the solvers after them. -/
structure Stage.Matches (r q : Registry) (a b : Stage) : Prop where
  outcome : a.outcome.Matches (r.Same q) b.outcome
  after : a.after.Matches r q b.after

namespace Solver

variable {s t : Solver}

/-- New solvers over registries that are alike match. -/
theorem matches_initial {inputs inputs' : List FactId} {rules rules' : List Rule}
    (alike : r.Alike q) (together : List.Forall₂ (r.Same q) inputs inputs')
    (rules_together : List.Forall₂ (Rule.Matches (r.Same q)) rules rules') (config : SolverConfig) :
  (initial r inputs rules config).Matches r q (initial q inputs' rules' config)
  where
  alike := alike
  left := rfl
  right := rfl
  rules := rules_together
  memory := WorkingMemory.matches_ofSequence alike.biUnique together
  pending := by rw [initial, initial, rules_together.length_eq]
  fired := rfl
  head := rfl
  iteration := rfl
  firedThisPass := rfl
  steps := rfl
  status := rfl
  lastAsserted := .nil
  history := ⟨rfl, .nil⟩
  config := rfl
  log := rfl

namespace Matches

/-! ### One step -/

theorem cursor_eq (same : s.Matches r q t) :
  s.cursor = t.cursor
  := by
  rw [cursor, cursor, same.head, same.pending]

theorem rule?_cases (same : s.Matches r q t) (id : RuleId) :
  (s.rule? id = none ∧ t.rule? id = none)
    ∨ ∃ a b, s.rule? id = some a ∧ t.rule? id = some b ∧ a.Matches (r.Same q) b
  := by
  rw [Solver.rule?, Solver.rule?, ← Array.getElem?_toList, ← Array.getElem?_toList]
  apply getElem?_cases_of_together same.rules

/-- What is asked of a rule has the same answer for both, if it has the same answer for rules that
match. -/
theorem rule?_congr {α : Type} {f g : Option Rule → α} (same : s.Matches r q t) (id : RuleId)
    (missing : f none = g none)
    (found : ∀ a b : Rule, a.Matches (r.Same q) b → f (some a) = g (some b)) :
  f (s.rule? id) = g (t.rule? id)
  := by
  obtain ⟨none, none'⟩ | ⟨a, b, there, there', rule⟩ := same.rule?_cases id
  · rw [none, none', missing]
  · rw [there, there', found a b rule]

theorem fire {a b : Rule} (same : s.Matches r q t) (id : RuleId)
    (rule : a.Matches (r.Same q) b) :
  (s.fire id a).Matches r q (t.fire id b)
  := { same with
    memory := same.memory.assertAll same.alike.biUnique rule.conclusions
    pending := by rw [Solver.fire, Solver.fire, same.pending, same.cursor_eq]
    fired := congrArg (fun fired => fired.push id) same.fired
    head := same.cursor_eq
    firedThisPass := congrArg (· + 1) same.firedThisPass
    steps := congrArg (· + 1) same.steps
    lastAsserted := rule.conclusions
    log := by rw [Solver.fire, Solver.fire, same.log, same.left, same.right,
      rule.fire_eq same.alike] }

theorem skip (same : s.Matches r q t) :
  s.skip.Matches r q t.skip
  := { same with
    head := congrArg (· + 1) same.cursor_eq
    steps := congrArg (· + 1) same.steps
    lastAsserted := .nil }

theorem finishPass (same : s.Matches r q t) :
  s.finishPass.Matches r q t.finishPass
  := { same with
    head := rfl
    iteration := congrArg (· + 1) same.iteration
    firedThisPass := rfl
    status := by rw [Solver.finishPass, Solver.finishPass, same.firedThisPass, same.pending,
      same.iteration, same.status] }

theorem settle (same : s.Matches r q t) :
  s.settle.Matches r q t.settle
  := by
  rw [Solver.settle, Solver.settle, same.pending, same.head]
  split
  · exact same.finishPass
  · exact same

theorem snapshot (same : s.Matches r q t) (examined : RuleId) (performing : Bool) :
  (s.snapshot examined performing).Matches (r.Same q) (t.snapshot examined performing)
  := by
  use t.memory.log, same.memory.sequence
  rw [Solver.snapshot, Solver.snapshot, same.steps, same.iteration, same.head,
    same.firedThisPass, same.status, same.pending, same.fired]

theorem record (same : s.Matches r q t) (examined : RuleId) (performing : Bool) :
  (s.record examined performing).Matches r q (t.record examined performing)
  := by
  rw [Solver.record, Solver.record, same.config]
  split
  · exact { same with
      config := rfl
      history := same.history.push (same.snapshot examined performing) }
  · exact same

theorem examine (same : s.Matches r q t) (id : RuleId) :
  (s.examine id).1.Matches (r.Same q) (t.examine id).1
    ∧ (s.examine id).2.Matches r q (t.examine id).2
  := by
  have rule : Rule.Matches (r.Same q) ((s.rule? id).getD {}) ((t.rule? id).getD {}) := by
    obtain ⟨none, none'⟩ | ⟨a, b, found, found', rule⟩ := same.rule?_cases id
    · rw [none, none']
      exact ⟨rfl, .nil, .nil⟩
    · rw [found, found']
      exact rule
  rw [Solver.examine, Solver.examine, rule.isSatisfied_eq same.memory]
  split
  · exact ⟨.examined rule.conclusions, ((same.fire id rule).settle).record id true⟩
  · exact ⟨.examined .nil, (same.skip.settle).record id false⟩

/-- A step of each leads to solvers that match. -/
theorem step (same : s.Matches r q t) :
  s.step.1.Matches (r.Same q) t.step.1 ∧ s.step.2.Matches r q t.step.2
  := by
  rw [Solver.step, Solver.step, same.status, same.pending, same.cursor_eq]
  split
  · exact ⟨.succeeded, same⟩
  · exact ⟨.failed _, same⟩
  · split
    · exact ⟨.succeeded, { same with pending := rfl, status := rfl }⟩
    · apply same.examine

/-! ### Moves -/

/-- The solvers go through stages that match, to where either stops. -/
theorem stagesUntil {stop stop' : Solver → Bool} (same : s.Matches r q t)
    (alike : ∀ u v, u.Matches r q v → stop u = stop' v) :
  List.Forall₂ (Stage.Matches r q) (s.stagesUntil stop) (t.stagesUntil stop')
  := by
  revert t
  apply stagesUntil_induction (P := fun s stages => ∀ {t : Solver}, s.Matches r q t →
    List.Forall₂ (Stage.Matches r q) stages (t.stagesUntil stop'))
  · intro s ended t same
    obtain ⟨outcome, after⟩ := same.step
    rw [outcome.isTerminal_eq, alike _ _ after] at ended
    rw [stagesUntil_eq, if_pos ended]
    exact .cons ⟨outcome, after⟩ .nil
  · intro s unended ih t same
    obtain ⟨outcome, after⟩ := same.step
    rw [outcome.isTerminal_eq, alike _ _ after] at unended
    rw [stagesUntil_eq stop' t, if_neg unended]
    exact .cons ⟨outcome, after⟩ (ih after)

theorem stages (same : s.Matches r q t) :
  List.Forall₂ (Stage.Matches r q) s.stages t.stages
  := same.stagesUntil fun _ _ _ => rfl

theorem passStages (same : s.Matches r q t) :
  List.Forall₂ (Stage.Matches r q) s.passStages t.passStages
  := by
  apply same.stagesUntil
  intro u v after
  rw [after.iteration, same.iteration]

theorem afterStages {stages stages' : List Stage} (same : s.Matches r q t)
    (together : List.Forall₂ (Stage.Matches r q) stages stages') :
  (s.afterStages stages).Matches r q (t.afterStages stages')
  := by
  induction together generalizing s t with
  | nil => exact same
  | cons first _ ih =>
    rw [afterStages_cons, afterStages_cons]
    apply ih first.after

/-- To complete a pass has outcomes that match. -/
theorem iterate (same : s.Matches r q t) :
  List.Forall₂ (Outcome.Matches (r.Same q)) s.iterate.1 t.iterate.1
    ∧ s.iterate.2.Matches r q t.iterate.2
  := by
  constructor
  · apply List.rel_map _ same.passStages
    intro a b stage
    exact stage.outcome
  · apply same.afterStages same.passStages

/-- Runs come to the same end. -/
theorem run (same : s.Matches r q t) :
  s.run.1 = t.run.1 ∧ s.run.2.Matches r q t.run.2
  := by
  have final := same.afterStages same.stages
  constructor
  · rw [Solver.run, Solver.run, final.status]
    split <;> rfl
  · rw [run_snd, run_snd]
    exact final

/-- A rewind of both fails for the same reason, or leads to solvers that match. -/
theorem rewind_cases (same : s.Matches r q t) (step : Nat) :
  (∃ e, s.rewind step = .error e ∧ t.rewind step = .error e)
    ∨ ∃ u v, s.rewind step = .ok u ∧ t.rewind step = .ok v ∧ u.Matches r q v
  := by
  rw [Solver.rewind, Solver.rewind]
  obtain ⟨none, none'⟩ | ⟨snapshot, _, found, found', memory, together, rfl⟩ :=
    same.history.get?_cases step
  · rw [none, none']
    exact .inl ⟨_, rfl, rfl⟩
  · rw [found, found']
    refine .inr ⟨_, _, rfl, rfl, ?_⟩
    exact { same with
      memory := WorkingMemory.matches_ofSequence same.alike.biUnique together
      pending := rfl
      fired := rfl
      head := rfl
      iteration := rfl
      firedThisPass := rfl
      steps := rfl
      status := rfl
      lastAsserted := .nil
      history := same.history.truncateAfter step }

theorem afterMove (same : s.Matches r q t) (move : Move) :
  (s.afterMove move).Matches r q (t.afterMove move)
  := by
  cases move with
  | step => exact same.step.2
  | iterate => exact same.iterate.2
  | run => exact same.run.2
  | rewind step =>
    rw [Solver.afterMove, Solver.afterMove]
    obtain ⟨e, failed, failed'⟩ | ⟨u, v, rewound, rewound', after⟩ := same.rewind_cases step
    · rw [failed, failed']
      exact same
    · rw [rewound, rewound']
      exact after

/-- The same moves lead to solvers that match. -/
theorem afterMoves (same : s.Matches r q t) (moves : List Move) :
  (s.afterMoves moves).Matches r q (t.afterMoves moves)
  := by
  induction moves generalizing s t with
  | nil => exact same
  | cons move moves ih => apply ih (same.afterMove move)

/-! ### Records -/

theorem describeRules_eq (same : s.Matches r q t) :
  (s.rules.toList.map fun rule => rule.describe s.registry)
    = t.rules.toList.map fun rule => rule.describe t.registry
  := by
  rw [same.left, same.right]
  exact map_eq_of_together same.rules fun _ _ rule => rule.describe_eq {}

theorem captures_eq (same : s.Matches r q t) :
  s.history.snapshots.map (SnapshotRecord.capture s.registry)
    = t.history.snapshots.map (SnapshotRecord.capture t.registry)
  := by
  rw [same.left, same.right]
  apply map_eq_of_together same.history.snapshots
  rintro a _ ⟨memory, together, rfl⟩
  have names := map_eq_of_together together fun _ _ => Registry.Same.displayName_eq
  rw [SnapshotRecord.capture, SnapshotRecord.capture, names]

/-- The run records are the same. -/
theorem capture_eq (same : s.Matches r q t) :
  RunRecord.capture s = RunRecord.capture t
  := by
  have names := map_eq_of_together same.memory.sequence fun _ _ => Registry.Same.displayName_eq
  rw [RunRecord.capture, RunRecord.capture, same.describeRules_eq, same.captures_eq,
    WorkingMemory.names, WorkingMemory.names, same.left, same.right, names, same.alike.vocabulary,
    same.status, same.steps, same.iteration, same.fired]

end Matches

end Solver

end ForwardChaining
