import Mathlib.Algebra.Order.BigOperators.Group.List
import ForwardChaining.Record.Basic
import ForwardChaining.Proofs.Record.RoundTrip
import ForwardChaining.Proofs.Rulebase.Meaning
import ForwardChaining.Proofs.Rulebase.Size
import ForwardChaining.Proofs.Solver.Bounds
import ForwardChaining.Proofs.Solver.Confluence

/-!
# The size of a record

The record of a run fits the format that records are encoded in, unless the rulebase is huge
(`Rulebase.fits_of_build`): what it holds is bounded by what the rulebase lists.
-/

namespace ForwardChaining

open MessagePack

variable {r : Registry} {name : String} {names : List String} {fact : FactId}
  {facts : List FactId} {rule : Rule} {d : RuleDeclaration}

/-! ### Names -/

theorem weightOfNames_cons (name : String) (names : List String) :
  weightOfNames (name :: names) = name.utf8ByteSize + weightOfNames names
  := rfl

theorem weightOfNames_append (names more : List String) :
  weightOfNames (names ++ more) = weightOfNames names + weightOfNames more
  := by
  rw [weightOfNames, List.map_append, List.sum_append]
  rfl

theorem utf8ByteSize_le_weight (member : name ∈ names) :
  name.utf8ByteSize ≤ weightOfNames names
  := by
  apply List.single_le_sum (fun _ _ => Nat.zero_le _) _ (List.mem_map_of_mem member)

theorem weight_le_of_sublist {more : List String} (part : names.Sublist more) :
  weightOfNames names ≤ weightOfNames more
  := (part.map _).sum_le_sum fun _ _ => Nat.zero_le _

/-- There are no more names than bytes of names, if none is empty. -/
theorem length_le_weight (visible : ∀ name ∈ names, name ≠ "") :
  names.length ≤ weightOfNames names
  := by
  induction names with
  | nil => apply Nat.le_refl
  | cons name names ih =>
    obtain ⟨first, rest⟩ := List.forall_mem_cons.mp visible
    have bound := ih rest
    have size : name.utf8ByteSize ≠ 0 := mt String.utf8ByteSize_eq_zero_iff.mp first
    rw [List.length_cons, weightOfNames_cons]
    omega

theorem utf8ByteSize_intercalate_le (separator : String) (names : List String) :
  (separator.intercalate names).utf8ByteSize
    ≤ weightOfNames names + separator.utf8ByteSize * names.length
  := by
  induction names with
  | nil => apply Nat.zero_le
  | cons name names ih =>
    cases names with
    | nil =>
      rw [String.intercalate_singleton, weightOfNames_cons]
      omega
    | cons next rest =>
      rw [String.intercalate_cons_cons, String.utf8ByteSize_append, String.utf8ByteSize_append,
        weightOfNames_cons, List.length_cons, Nat.mul_add, Nat.mul_one]
      omega

theorem trimmed_utf8ByteSize_le (name : String) :
  (Text.trimmed name).utf8ByteSize ≤ name.utf8ByteSize
  := by
  rw [Text.trimmed, String.utf8ByteSize_ofList, ← String.utf8Len_toList name]
  apply String.utf8Len_le_of_infix (Text.trim_isInfix _)

theorem weight_names_insert_le (v : Vocabulary) (name : String) :
  weightOfNames (v.insert name).names ≤ weightOfNames v.names + name.utf8ByteSize
  := by
  rw [Vocabulary.names_insert]
  split
  · apply Nat.le_add_right
  · rw [weightOfNames_append]
    apply Nat.le_refl

theorem weight_names_insertAll_le (v : Vocabulary) (names : List String) :
  weightOfNames (v.insertAll names).names ≤ weightOfNames v.names + weightOfNames names
  := by
  induction names generalizing v with
  | nil => apply Nat.le_refl
  | cons first names ih =>
    have later := ih (v.insert first)
    have inserted := weight_names_insert_le v first
    rw [Vocabulary.insertAll, List.foldl_cons, weightOfNames_cons]
    rw [Vocabulary.insertAll] at later
    omega

/-! ### Facts -/

namespace Registry

theorem Stands.displayName_eq (stands : r.Stands name fact) :
  r.displayName fact = Text.trimmed name
  := by
  rw [displayName, stands]
  rfl

/-- A name that a handle stands for is not empty. -/
theorem Agrees.visible_of_stands (agrees : r.Agrees) (stands : r.Stands name fact) :
  name ≠ ""
  := by
  rintro rfl
  obtain ⟨-, visible⟩ := agrees.proper _ (agrees.known _ _ stands)
  have blank : isBlankName (Text.trimmed "") = true := by decide
  rw [blank] at visible
  cases visible

theorem Agrees.visible_of_resolves (agrees : r.Agrees) (resolves : r.Resolves names facts) :
  ∀ name ∈ names, name ≠ ""
  := by
  intro name member
  obtain ⟨fact, -, stands⟩ := exists_of_mem_left resolves member
  apply agrees.visible_of_stands stands

theorem Resolves.weight_le (resolves : r.Resolves names facts) :
  weightOfNames (facts.map r.displayName) ≤ weightOfNames names
  := by
  induction resolves with
  | nil => apply Nat.le_refl
  | @cons name fact _ _ stands _ ih =>
    have size := trimmed_utf8ByteSize_le name
    rw [List.map_cons, weightOfNames_cons, weightOfNames_cons, stands.displayName_eq]
    omega

theorem Agrees.length_le_of_resolves (agrees : r.Agrees) (resolves : r.Resolves names facts) :
  facts.length ≤ weightOfNames names
  := by
  rw [← resolves.length_eq]
  apply length_le_weight (agrees.visible_of_resolves resolves)

end Registry

/-! ### Rules -/

theorem sublist_appendNew (target facts : List FactId) :
  ∃ new, appendNew target facts = target ++ new ∧ new.Sublist facts
  := by
  induction facts generalizing target with
  | nil => exact ⟨[], (List.append_nil target).symm, .slnil⟩
  | cons first facts ih =>
    rw [appendNew_cons]
    split
    · obtain ⟨new, same, part⟩ := ih target
      exact ⟨new, same, part.cons first⟩
    · obtain ⟨new, same, part⟩ := ih (target ++ [first])
      use first :: new
      rw [same, List.append_assoc]
      exact ⟨rfl, part.cons_cons first⟩

theorem Rule.conditions_implies_sublist (conditions conclusions : List FactId) :
  (Rule.implies conditions conclusions).conditions.Sublist conditions
  := by
  obtain ⟨new, same, part⟩ := sublist_appendNew [] conditions
  rw [Rule.conditions_implies, same]
  apply part

theorem Rule.conclusions_implies_sublist (conditions conclusions : List FactId) :
  (Rule.implies conditions conclusions).conclusions.Sublist conclusions
  := by
  obtain ⟨new, same, part⟩ := sublist_appendNew [] conclusions
  rw [Rule.conclusions_implies, same]
  apply part

/-- The facts of a resolved rule are no more than the bytes of the names that it lists, and neither
are the bytes of their names. -/
structure Rule.Within (r : Registry) (d : RuleDeclaration) (rule : Rule) : Prop where
  conditions : rule.conditions.length ≤ weightOfNames d.conditions
  conclusions : rule.conclusions.length ≤ weightOfNames d.conclusions
  conditionNames : weightOfNames (rule.conditions.map r.displayName) ≤ weightOfNames d.conditions
  conclusionNames :
    weightOfNames (rule.conclusions.map r.displayName) ≤ weightOfNames d.conclusions

theorem Registry.ResolvesRule.within (resolved : r.ResolvesRule d rule) (agrees : r.Agrees) :
  rule.Within r d
  := by
  obtain ⟨-, conditions, conclusions, conditions_ok, conclusions_ok, same, same'⟩ := resolved
  have before := Rule.conditions_implies_sublist conditions conclusions
  have after := Rule.conclusions_implies_sublist conditions conclusions
  rw [← same] at before
  rw [← same'] at after
  constructor
  · apply before.length_le.trans (agrees.length_le_of_resolves conditions_ok)
  · apply after.length_le.trans (agrees.length_le_of_resolves conclusions_ok)
  · apply (weight_le_of_sublist (before.map _)).trans conditions_ok.weight_le
  · apply (weight_le_of_sublist (after.map _)).trans conclusions_ok.weight_le

theorem Wording.utf8ByteSize_list_le (r : Registry) (facts : List FactId) :
  (({} : Wording).list r facts).utf8ByteSize
    ≤ weightOfNames (facts.map r.displayName) + 5 * facts.length
  := by
  have bound := utf8ByteSize_intercalate_le (" " ++ "and" ++ " ") (facts.map r.displayName)
  rw [List.length_map] at bound
  apply bound

/-- A sentence is longer than what it is made of, by words that are joined to each name. -/
theorem Rule.Within.utf8ByteSize_describe_le (within : rule.Within r d) :
  (rule.describe r).utf8ByteSize ≤ 6 * d.weight + 15
  := by
  have before := Wording.utf8ByteSize_list_le r rule.conditions
  have after := Wording.utf8ByteSize_list_le r rule.conclusions
  obtain ⟨conditions, conclusions, conditionNames, conclusionNames⟩ := within
  have words : "If".utf8ByteSize = 2 ∧ " ".utf8ByteSize = 1 ∧ ", ".utf8ByteSize = 2
      ∧ "then".utf8ByteSize = 4 ∧ ".".utf8ByteSize = 1 ∧ "true".utf8ByteSize = 4 := by decide
  rw [Rule.describe]
  dsimp only
  simp only [String.utf8ByteSize_append]
  unfold RuleDeclaration.weight
  split
  · omega
  · omega

/-! ### States -/

namespace Position

variable {p : Position} {inputs : List FactId} {rules : List Rule}

theorem Balanced.fits (balanced : p.Balanced inputs rules)
    (small : rules.length < Text.limit32) :
  FitsList RuleId.Fits p.pending.toList ∧ FitsList RuleId.Fits p.fired.toList
  := by
  have count := balanced.once.length_eq
  rw [List.length_append, List.length_map, List.length_range] at count
  have limits : Text.limit32 ≤ Text.limit64 := by decide
  constructor
  · constructor
    · omega
    · intro id pending
      have inside := balanced.fired_or_pending_iff.mp (Or.inr pending)
      apply (inside.trans small).trans_le limits
  · constructor
    · omega
    · intro id fired
      have inside := balanced.fired_or_pending_iff.mp (Or.inl fired)
      apply (inside.trans small).trans_le limits

/-- No more has been asserted than the inputs and the conclusions of all rules. -/
theorem Balanced.length_sequence_le (balanced : p.Balanced inputs rules) :
  p.memory.sequence.length ≤ inputs.length + (rules.map fun rule => rule.conclusions.length).sum
  := by
  have all := (balanced.once.map fun id => (p.ruleAt id).conclusions.length).sum_eq
  have declared := congrArg (List.map fun rule => rule.conclusions.length) balanced.map_ruleAt
  rw [List.map_map] at declared
  have declared' : ((List.range rules.length).map RuleId.mk).map
      (fun id => (p.ruleAt id).conclusions.length)
      = rules.map fun rule => rule.conclusions.length := declared
  rw [declared', List.map_append, List.sum_append] at all
  rw [balanced.sequence_eq, List.length_append, List.length_flatMap]
  omega

end Position

namespace Solver

variable {s start : Solver} {inputs : List FactId} {rules : List Rule} {registry : Registry}
  {config : SolverConfig}

theorem iteration_of_failed_settle (running : s.status = .running) {deadlock : Deadlock}
    (failed : s.settle.position.standing = .failed deadlock) :
  deadlock.iteration = s.settle.iteration
  := by
  have unended : ∀ t : Solver, t.status = .running → t.position.standing ≠ .failed deadlock := by
    intro t ongoing
    rw [standing_of_running ongoing]
    split
    · apply Status.noConfusion
    · apply Status.noConfusion
  unfold settle at failed ⊢
  split at failed
  · by_cases deadlocked : s.firedThisPass = 0 ∧ 0 < s.pending.size
    · have status : s.finishPass.status = .failed ⟨s.pending.toList, s.iteration + 1⟩ :=
        if_pos deadlocked
      rw [standing_of_failed status] at failed
      cases failed
      rename_i atEnd
      rw [if_pos atEnd]
      rfl
    · have status : s.finishPass.status = .running := (if_neg deadlocked).trans running
      apply absurd failed (unended _ status)
  · apply absurd failed (unended _ running)

/-- A deadlock names the number of passes that have been completed. -/
theorem iteration_of_failed (created : create registry inputs rules config = .ok start)
    (moves : List Move) :
  ∀ deadlock, (start.afterMoves moves).position.standing = .failed deadlock →
    deadlock.iteration = (start.afterMoves moves).position.iteration
  := by
  apply kept_induction created
    (P := fun p => ∀ deadlock, p.standing = .failed deadlock → deadlock.iteration = p.iteration)
  · intro deadlock failed
    obtain ⟨-, -, rfl⟩ := (create_eq_ok_iff ..).mp created
    have running : (initial registry inputs rules config).status = .running := rfl
    rw [standing_of_running running] at failed
    split at failed
    · cases failed
    · cases failed
  · intro s id _ _ running _ _ deadlock failed
    have running' : (s.fire id (s.ruleAt id)).status = .running := running
    apply iteration_of_failed_settle running' failed
  · intro s id _ _ running _ _ deadlock failed
    have running' : s.skip.status = .running := running
    apply iteration_of_failed_settle running' failed

/-- A solver that snapshots the steps that fire rules retains no more snapshots than rules have
fired. -/
theorem length_snapshots_afterSteps (new : start.New) (policy : start.config.snapshots = .onFire)
    (n : Nat) :
  (start.afterSteps n).history.snapshots.length ≤ (start.afterSteps n).fired.toList.length
  := by
  induction n with
  | zero =>
    have none : (start.afterSteps 0).history.snapshots = [] := new.snapshots
    rw [none]
    apply Nat.zero_le
  | succ n ih =>
    have config : (start.afterSteps n).config = start.config :=
      congrArg Problem.config (problem_afterSteps start n)
    rw [afterSteps, history_step, fired_step, Log.toList_append, List.length_append]
    cases taken : (start.afterSteps n).taken? with
    | none => apply Nat.le_add_right_of_le ih
    | some σ =>
      obtain ⟨e, outcome, recorded, -⟩ := taken?_eq_some_iff.mp taken
      rw [config, SolverConfig.snapshotsStep, policy] at recorded
      have fired : (start.afterSteps n).step.1.fired = [e.rule] := by
        rw [outcome, Outcome.fired]
        exact if_pos recorded
      rw [fired, Option.elim_some, History.snapshots_push, List.length_singleton]
      split
      · rw [List.length_tail, List.length_append, List.length_singleton]
        omega
      · rw [List.length_append, List.length_singleton]
        omega

/-- The parts of a state that a record shows fit. -/
structure Fits (s : Solver) : Prop where
  steps : s.steps < Text.limit64
  iteration : s.iteration < Text.limit64
  status : s.status.Fits
  memory : FitsList FitsText (s.memory.sequence.map s.registry.displayName)
  pending : FitsList RuleId.Fits s.pending.toList
  fired : FitsList RuleId.Fits s.fired.toList

end Solver

/-! ### Records of rulebases -/

theorem fitsTexts_of_le {bound : Nat} {texts : List String} (small : bound < Text.limit32)
    (few : texts.length ≤ bound) (short : ∀ text ∈ texts, text.utf8ByteSize ≤ bound) :
  FitsList FitsText texts
  := by
  constructor
  · apply few.trans_lt small
  · intro text member
    apply (short text member).trans_lt small

namespace Rulebase

variable {b : Rulebase} {id : RegistryId} {config : SolverConfig} {inputs : List FactId}
  {rules : List Rule} {solver : Solver}

/-- What a rulebase that is not huge lists takes less than half a gibibyte. -/
def sizeLimit : Nat := 0x20000000

theorem Means.within (means : b.Means config inputs rules solver) :
  List.Forall₂ (fun d rule => rule.Within solver.registry d) b.rules rules
  := means.rules.imp fun _ _ resolved => resolved.within means.agrees

theorem length_le_of_within {ds : List RuleDeclaration}
    (within : List.Forall₂ (fun d rule => rule.Within r d) ds rules) :
  rules.length + (rules.map fun rule => rule.conclusions.length).sum ≤ (ds.map (·.weight)).sum
  := by
  induction within with
  | nil => apply Nat.le_refl
  | @cons d rule _ _ first _ ih =>
    have bound := first.conclusions
    rw [List.map_cons, List.map_cons, List.sum_cons, List.sum_cons, List.length_cons,
      RuleDeclaration.weight]
    omega

theorem weight_le_of_mem (declared : d ∈ b.rules) :
  d.weight ≤ b.weight
  := by
  have bound : d.weight ≤ (b.rules.map (·.weight)).sum :=
    List.single_le_sum (fun _ _ => Nat.zero_le _) _ (List.mem_map_of_mem declared)
  unfold weight
  omega

theorem Means.length_rules_le (means : b.Means config inputs rules solver) :
  rules.length ≤ b.weight
  := by
  have bound := length_le_of_within means.within
  unfold weight
  omega

/-- The names of the facts that the solver is about are short. -/
theorem Means.displayName_le (means : b.Means config inputs rules solver) :
  (∀ fact ∈ inputs, (solver.registry.displayName fact).utf8ByteSize ≤ b.weight)
    ∧ ∀ rule ∈ rules, ∀ fact ∈ rule.conclusions,
      (solver.registry.displayName fact).utf8ByteSize ≤ b.weight
  := by
  constructor
  · intro fact member
    have bound := means.inputs.weight_le
    have one := utf8ByteSize_le_weight (List.mem_map_of_mem (f := solver.registry.displayName) member)
    unfold weight
    omega
  · intro rule member fact concluded
    obtain ⟨d, declared, within⟩ := exists_of_mem_right means.within member
    have bound := within.conclusionNames
    have one :=
      utf8ByteSize_le_weight (List.mem_map_of_mem (f := solver.registry.displayName) concluded)
    have all := weight_le_of_mem declared
    rw [RuleDeclaration.weight] at all
    omega

theorem Means.fits_afterMoves (means : b.Means config inputs rules solver)
    (small : b.weight < sizeLimit) (moves : List Move) :
  (solver.afterMoves moves).Fits
  := by
  have kept := Solver.kept_afterMoves means.created moves
  have budgeted := Solver.budgeted_afterMoves means.created moves
  have registry := Solver.registry_afterMoves means.created moves
  have few := means.length_rules_le
  have below : b.weight < Text.limit32 := small.trans (by decide)
  have below' : b.weight < Text.limit64 := small.trans (by decide)
  obtain ⟨pending, fired⟩ := kept.balanced.fits (few.trans_lt below)
  have iteration : (solver.afterMoves moves).iteration < Text.limit64 := by
    apply (budgeted.iteration.trans few).trans_lt below'
  constructor
  · apply (budgeted.steps.trans (triangle_le (few.trans small.le))).trans_lt
    decide
  · apply iteration
  · cases status : (solver.afterMoves moves).status with
    | running => trivial
    | succeeded => trivial
    | failed deadlock =>
      have standing := Solver.standing_of_failed status
      obtain ⟨unsatisfied, -⟩ := kept.concluded.failed deadlock standing
      constructor
      · rw [unsatisfied]
        apply pending
      · rw [Solver.iteration_of_failed means.created moves deadlock standing]
        apply iteration
  · rw [registry]
    apply fitsTexts_of_le below
    · have bound := kept.balanced.length_sequence_le
      have inputsBound := means.agrees.length_le_of_resolves means.inputs
      have rulesBound := length_le_of_within means.within
      rw [List.length_map]
      apply bound.trans
      unfold weight
      omega
    · intro name member
      obtain ⟨fact, present, rfl⟩ := List.mem_map.mp member
      obtain ⟨ofInputs, ofRules⟩ := means.displayName_le
      obtain input | ⟨rule, declared, concluded⟩ := kept.balanced.input_or_conclusion present
      · apply ofInputs fact input
      · apply ofRules rule declared fact concluded
  · apply pending
  · apply fired

theorem Means.fits_vocabulary (means : b.Means config inputs rules solver)
    (small : b.weight < sizeLimit) :
  solver.registry.vocabulary.Fits
  := by
  have below : b.weight < Text.limit32 := small.trans (by decide)
  have visible : ∀ name ∈ solver.registry.vocabulary.names, name ≠ "" := by
    rintro name member rfl
    obtain ⟨-, visible⟩ := means.agrees.proper _ member
    cases visible
  have declared : weightOfNames solver.registry.vocabulary.names ≤ b.weight := by
    have inserted := weight_names_insertAll_le .empty (b.facts.map fun d => Text.trimmed d.name)
    have trimmed : weightOfNames (b.facts.map fun d => Text.trimmed d.name)
        ≤ weightOfNames (b.facts.map (·.name)) := by
      rw [weightOfNames, weightOfNames, List.map_map, List.map_map]
      apply List.sum_le_sum
      intro d _
      apply trimmed_utf8ByteSize_le
    have nothing : weightOfNames Vocabulary.empty.names = 0 := rfl
    rw [means.vocabulary, Vocabulary.ofNames]
    unfold weight
    omega
  apply fitsTexts_of_le below
  · apply (length_le_weight visible).trans declared
  · intro name member
    apply (utf8ByteSize_le_weight member).trans declared

theorem Means.fits_sentences (means : b.Means config inputs rules solver)
    (small : b.weight < sizeLimit) :
  FitsList FitsText (rules.map fun rule => rule.describe solver.registry)
  := by
  have limit : 6 * sizeLimit + 15 < Text.limit32 := by decide
  constructor
  · have few := means.length_rules_le
    rw [List.length_map]
    omega
  · intro sentence member
    obtain ⟨rule, declared, rfl⟩ := List.mem_map.mp member
    obtain ⟨d, declared, within⟩ := exists_of_mem_right means.within declared
    have sentence := within.utf8ByteSize_describe_le
    have all := weight_le_of_mem declared
    change (rule.describe solver.registry).utf8ByteSize < Text.limit32
    omega

/-- What a snapshot retains fits. -/
theorem Means.fits_snapshot (means : b.Means config inputs rules solver)
    (small : b.weight < sizeLimit) {σ : Snapshot} (moves : List Move)
    (retained : σ ∈ (solver.afterMoves moves).history.snapshots) :
  (SnapshotRecord.capture solver.registry σ).Fits
  := by
  have new := Solver.new_of_create means.created
  obtain ⟨k, e, -, -, outcome, -, rfl⟩ :=
    (Solver.onCourse_afterMoves new moves).exists_step new retained
  have moved : ∀ n, solver.afterMoves (List.replicate n .step) = solver.afterSteps n :=
    Solver.afterMoves_replicate_step solver
  have after := means.fits_afterMoves small (List.replicate (k + 1) .step)
  have before := means.fits_afterMoves small (List.replicate k .step)
  have registry := Solver.registry_afterMoves means.created (List.replicate (k + 1) .step)
  rw [moved] at after before registry
  have examined : e.rule ∈ (solver.afterSteps k).pending.toList := by
    obtain ⟨-, current, -⟩ := Solver.step_of_examined outcome
    apply Array.mem_toList_iff.mpr (Array.mem_of_getElem? current)
  have memory := after.memory
  rw [registry] at memory
  constructor
  · apply after.steps
  · apply after.iteration
  · apply before.pending.each _ examined
  · apply after.status
  · apply memory
  · apply after.pending
  · apply after.fired

/-- The record of the end of a run fits, if the rulebase is not huge. -/
theorem fits_of_build (built : b.build id config = .ok solver)
    (policy : config.snapshots = .onFire) (small : b.weight < sizeLimit) :
  (RunRecord.capture solver.run.2).Fits
  := by
  obtain ⟨inputs, rules, means⟩ := means_of_build built
  have state : solver.run.2.Fits := means.fits_afterMoves small [.run]
  have registry : solver.run.2.registry = solver.registry :=
    Solver.registry_afterMoves means.created [.run]
  have declared : solver.run.2.rules = rules.toArray :=
    (Solver.kept_afterMoves means.created [.run]).balanced.declared
  constructor
  · change solver.run.2.registry.vocabulary.Fits
    rw [registry]
    apply means.fits_vocabulary small
  · change FitsList FitsText
      (solver.run.2.rules.toList.map fun rule => rule.describe solver.run.2.registry)
    rw [registry, declared]
    apply means.fits_sentences small
  · apply state.status
  · apply state.steps
  · apply state.iteration
  · apply state.memory
  · apply state.fired
  · constructor
    · have new := Solver.new_of_create means.created
      have config_eq : solver.config = config := by
        obtain ⟨-, -, created⟩ := (Solver.create_eq_ok_iff ..).mp means.created
        rw [created]
        rfl
      have few := Solver.length_snapshots_afterSteps new (config_eq ▸ policy)
        solver.stages.length
      rw [← Solver.run_eq] at few
      change (solver.run.2.history.snapshots.map _).length < Text.limit32
      rw [List.length_map]
      apply few.trans_lt state.fired.length_lt
    · intro record member
      obtain ⟨σ, retained, rfl⟩ := List.mem_map.mp member
      rw [registry]
      apply means.fits_snapshot small [.run] retained

end Rulebase

end ForwardChaining
