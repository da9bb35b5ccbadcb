import ForwardChaining.Proofs.Explain.Blocked

/-!
# Origins of facts

The origin of a fact is nowhere recorded.  It is read off the place where the fact stands first in
the memory, which holds the inputs and then what the fired rules conclude, each rule as many facts as
it has conclusions.  What is read off is right in every state that moves lead to
(`Solver.hasOrigin_afterMoves`).
-/

namespace ForwardChaining

namespace Solver

variable {s start : Solver} {f : FactId} {id : RuleId} {ids : List RuleId} {origin : FactOrigin}
  {inputs : List FactId} {rules : List Rule} {registry : Registry} {config : SolverConfig}

/-- The rule `id` is the first of the rules `ids` that concludes the fact. -/
def FirstConcludes (s : Solver) (f : FactId) (ids : List RuleId) (id : RuleId) : Prop :=
  f ∈ (s.ruleAt id).conclusions ∧ ∃ before after, ids = before ++ id :: after
    ∧ ∀ other ∈ before, f ∉ (s.ruleAt other).conclusions

/-- The origin of the fact `f` in the state `s` of a run from the given inputs. -/
structure HasOrigin (inputs : List FactId) (s : Solver) (f : FactId) (origin : FactOrigin) :
    Prop where
  input : origin = .input ↔ f ∈ inputs
  /-- Any other fact of the memory is told of the rule that was the first to conclude it. -/
  concluded : f ∉ inputs → f ∈ s.memory.sequence →
    ∃ id, s.FirstConcludes f s.fired.toList id ∧ origin = .concludedBy id
  /-- A fact that is absent awaits the pending rules that conclude it, in queue order. -/
  awaited : f ∉ s.memory.sequence → (∃ id ∈ s.pending.toList, f ∈ (s.ruleAt id).conclusions) →
    origin = .pending (s.pending.toList.filter fun id => f ∈ (s.ruleAt id).conclusions)
  unreachable : f ∉ s.memory.sequence →
    (∀ id ∈ s.pending.toList, f ∉ (s.ruleAt id).conclusions) → origin = .unreachable

/-- The conclusions of the fired rules cover the end of the memory. -/
structure Covered (s : Solver) : Prop where
  /-- They are not more than the memory holds. -/
  within : (s.fired.toList.flatMap s.conclusionsOf).length ≤ s.memory.size
  /-- Each place from where they begin on is told of one of the rules. -/
  covered : ∀ place < s.memory.size,
    s.memory.size - (s.fired.toList.flatMap s.conclusionsOf).length ≤ place →
    s.originAt place (s.memory.size - (s.fired.toList.flatMap s.conclusionsOf).length)
      s.fired.toList ≠ .unreachable

/-! ### Facts of the memory -/

/-- The place where a fact stands first among the conclusions of rules is told by the first of them
that concludes it. -/
theorem originAt_of_findIdx? {place : Nat}
    (found : (ids.flatMap s.conclusionsOf).findIdx? (· = f) = some place) (offset : Nat) :
  ∃ id, s.FirstConcludes f ids id ∧ s.originAt (offset + place) offset ids = .concludedBy id
  := by
  induction ids generalizing place offset with
  | nil => cases found
  | cons id ids ih =>
    rw [List.flatMap_cons, List.findIdx?_append] at found
    rw [originAt]
    cases here : (s.conclusionsOf id).findIdx? (· = f) with
    | some place' =>
      rw [here, Option.some_or, Option.some_inj] at found
      obtain ⟨inside, same, -⟩ := List.findIdx?_eq_some_iff_getElem.mp here
      use id
      constructor
      · rw [FirstConcludes, ← of_decide_eq_true same]
        refine ⟨?_, [], ids, rfl, List.forall_mem_nil _⟩
        have member := List.getElem_mem inside
        simp only [conclusionsOf_eq] at member ⊢
        exact member
      · rw [if_pos (by omega)]
    | none =>
      rw [here, Option.none_or, Option.map_eq_some_iff] at found
      obtain ⟨place', later, rfl⟩ := found
      obtain ⟨first, ⟨concludes, before, after, rfl, earlier⟩, told⟩ :=
        ih later (offset + (s.conclusionsOf id).length)
      use first
      constructor
      · refine ⟨concludes, id :: before, after, rfl, ?_⟩
        rw [List.forall_mem_cons]
        apply And.intro _ earlier
        intro member
        rw [List.findIdx?_eq_none_iff, conclusionsOf_eq] at here
        simpa using here f member
      · rw [if_neg (by omega), ← told]
        congr 1
        omega

/-- A fact of the memory that is no input stands first where a fired rule has put it. -/
theorem exists_findIdx?_of_derived (balanced : s.position.Balanced inputs rules)
    (derived : f ∉ inputs) (present : f ∈ s.memory.sequence) :
  ∃ place, (s.fired.toList.flatMap s.conclusionsOf).findIdx? (· = f) = some place
    ∧ s.memory.sequence.findIdx? (· = f) = some (inputs.length + place)
  := by
  have sequence := sequence_eq_inputs_append balanced
  have absent : inputs.findIdx? (· = f) = none := by
    rw [List.findIdx?_eq_none_iff]
    rintro g member
    apply decide_eq_false
    rintro rfl
    exact derived member
  cases found : (s.fired.toList.flatMap s.conclusionsOf).findIdx? (· = f) with
  | none =>
    rw [sequence, List.mem_append] at present
    rw [List.findIdx?_eq_none_iff] at found
    simpa using found f (present.resolve_left derived)
  | some place =>
    use place, rfl
    rw [sequence, List.findIdx?_append, absent, found, Option.none_or, Option.map_some, Nat.add_comm]

/-- An input stands first among the inputs. -/
theorem exists_findIdx?_of_input (balanced : s.position.Balanced inputs rules)
    (input : f ∈ inputs) :
  ∃ place < inputs.length, s.memory.sequence.findIdx? (· = f) = some place
  := by
  cases found : inputs.findIdx? (· = f) with
  | none =>
    rw [List.findIdx?_eq_none_iff] at found
    simpa using found f input
  | some place =>
    obtain ⟨inside, -⟩ := List.findIdx?_eq_some_iff_getElem.mp found
    use place, inside
    rw [sequence_eq_inputs_append balanced, List.findIdx?_append, found, Option.some_or]

/-! ### Origins -/

theorem origin_of_input (balanced : s.position.Balanced inputs rules) (input : f ∈ inputs) :
  s.origin f = .input
  := by
  obtain ⟨place, inside, found⟩ := exists_findIdx?_of_input balanced input
  rw [origin, found, size_memory_eq balanced, Nat.add_sub_cancel]
  exact if_pos inside

theorem origin_of_derived (balanced : s.position.Balanced inputs rules) (derived : f ∉ inputs)
    (present : f ∈ s.memory.sequence) :
  ∃ id, s.FirstConcludes f s.fired.toList id ∧ s.origin f = .concludedBy id
  := by
  obtain ⟨place, inFired, found⟩ := exists_findIdx?_of_derived balanced derived present
  obtain ⟨id, first, told⟩ := originAt_of_findIdx? inFired inputs.length
  use id, first
  rw [origin, found, size_memory_eq balanced, Nat.add_sub_cancel]
  exact (if_neg (by omega)).trans told

theorem origin_of_missing (absent : f ∉ s.memory.sequence) :
  s.origin f = if s.concluders f none = [] then .unreachable else .pending (s.concluders f none)
  := by
  have nowhere : s.memory.sequence.findIdx? (· = f) = none := by
    rw [List.findIdx?_eq_none_iff]
    rintro g member
    apply decide_eq_false
    rintro rfl
    exact absent member
  rw [origin, nowhere, blocker]
  cases s.concluders f none with
  | nil => rfl
  | cons id ids => rfl

theorem concluders_none (s : Solver) (f : FactId) :
  s.concluders f none = s.pending.toList.filter fun id => f ∈ (s.ruleAt id).conclusions
  := by
  have all : s.pending.toList.filter (fun id => some id != none) = s.pending.toList :=
    List.filter_eq_self.mpr fun id _ => rfl
  rw [concluders, all]
  apply List.filter_congr
  intro id _
  rw [Bool.eq_iff_iff, ruleConcludes_iff, decide_eq_true_iff]

theorem hasOrigin_origin (balanced : s.position.Balanced inputs rules) (f : FactId) :
  s.HasOrigin inputs f (s.origin f)
  := by
  have present_of_input : f ∈ inputs → f ∈ s.memory.sequence := by
    rw [sequence_eq_inputs_append balanced]
    apply List.mem_append_left
  constructor
  case input =>
    constructor
    · intro told
      by_contra derived
      by_cases present : f ∈ s.memory.sequence
      · obtain ⟨id, -, told'⟩ := origin_of_derived balanced derived present
        rw [told] at told'
        cases told'
      · rw [origin_of_missing present] at told
        split at told
        · cases told
        · cases told
    · apply origin_of_input balanced
  case concluded => apply origin_of_derived balanced
  case awaited =>
    rintro absent ⟨id, pending, concludes⟩
    rw [origin_of_missing absent, concluders_none, if_neg]
    apply List.ne_nil_of_mem (a := id)
    rw [List.mem_filter]
    exact ⟨pending, decide_eq_true concludes⟩
  case unreachable =>
    intro absent none
    rw [origin_of_missing absent, concluders_none, if_pos]
    rw [List.filter_eq_nil_iff]
    intro id pending
    simpa using none id pending

theorem covered_of_balanced (balanced : s.position.Balanced inputs rules) :
  s.Covered
  := by
  have size := size_memory_eq balanced
  constructor
  case within => omega
  case covered =>
    intro place inside behind
    exact originAt_ne_unreachable (by omega) behind

/-- Whatever the moves, the origin of a fact that the registry issued is told, and rightly. -/
theorem hasOrigin_afterMoves (created : create registry inputs rules config = .ok start)
    (moves : List Move) (issued : registry.Issued f) :
  (∃ origin, (start.afterMoves moves).why f = .ok origin
      ∧ (start.afterMoves moves).HasOrigin inputs f origin)
    ∧ (start.afterMoves moves).Covered
  := by
  obtain ⟨balanced, -⟩ := balanced_afterMoves created moves
  have checked : (start.afterMoves moves).registry.check f = .ok () := by
    rw [registry_afterMoves created moves]
    exact (registry.check_eq_ok_iff f).mpr issued
  constructor
  · use (start.afterMoves moves).origin f
    apply And.intro _ (hasOrigin_origin balanced f)
    rw [why, checked]
    rfl
  · exact covered_of_balanced balanced

/-- In the chain, put back to its third step, A is an input, the rule from A to B has concluded B, C
awaits the rule from B to C, and no rule leads to X. -/
theorem hasOrigin_afterMoves_chain :
  let s := (chain ⟨4, .everyStep⟩).afterMoves [.step, .step, .step, .step, .rewind 3]
  s.why (chainFact 0) = .ok .input ∧ s.why (chainFact 1) = .ok (.concludedBy ⟨2⟩)
    ∧ s.why (chainFact 2) = .ok (.pending [⟨1⟩]) ∧ s.why (chainFact 3) = .ok .unreachable
    ∧ chainRegistry.Issued (chainFact 2)
    ∧ (∃ origin, s.why (chainFact 2) = .ok origin ∧ s.HasOrigin [chainFact 0] (chainFact 2) origin)
    ∧ s.Covered
  := by
  have issued : chainRegistry.Issued (chainFact 2) := by
    rw [Registry.Issued]
    decide
  have told := hasOrigin_afterMoves (create_chain ⟨4, .everyStep⟩)
    [.step, .step, .step, .step, .rewind 3] issued
  refine ⟨?_, ?_, ?_, ?_, issued, told.1, told.2⟩
  all_goals decide +kernel

end Solver

end ForwardChaining
