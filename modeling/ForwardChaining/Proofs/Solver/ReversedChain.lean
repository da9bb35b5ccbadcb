import ForwardChaining.Proofs.Solver.Bounds

/-!
# Reversed chains

A chain of `n` rules, each of which leads to the condition of the next, takes as many steps and
passes as a run over `n` rules can take if it is declared in reverse order: every pass
examines all pending rules and fires a single one, the last (`Position.Linked`).  So the bounds
of a run cannot be lowered (`Solver.bounded_and_attained`).
-/

namespace ForwardChaining

namespace Solver

variable {s start : Solver} {id : RuleId} {n : Nat} {config : SolverConfig}

/-! ### Chains in reverse -/

/-- The links of a chain, from each of the facts before fact `n` to the next fact, with the
last link first. -/
def reversedLinks (n : Nat) : List Rule :=
  (List.range n).reverse.map fun i => .implies [chainFact i] [chainFact (i + 1)]

/-- The registry of the facts of a chain. -/
def linksRegistry (n : Nat) : Registry where
  id := ⟨0⟩
  vocabulary := .ofNames ((List.range (n + 1)).map fun i => "s" ++ toString i)
  facts := (Array.range (n + 1)).map fun i => .fresh (chainFact i) ("s" ++ toString i)

theorem issued_chainFact {i : Nat} (within : i ≤ n) :
  (linksRegistry n).Issued (chainFact i)
  := by
  have found : ((Array.range (n + 1)).map fun i =>
      Fact.fresh (chainFact i) ("s" ++ toString i))[i]?.isSome = true := by
    rw [Array.getElem?_map, Array.getElem?_range, if_pos (Nat.lt_succ_of_le within)]
    rfl
  apply found

theorem create_reversedLinks (n : Nat) (config : SolverConfig) :
  create (linksRegistry n) [chainFact 0] (reversedLinks n) config
    = .ok (initial (linksRegistry n) [chainFact 0] (reversedLinks n) config)
  := by
  apply (create_eq_ok_iff ..).mpr
  constructor
  · intro f input
    obtain rfl := List.mem_singleton.mp input
    apply issued_chainFact (Nat.zero_le n)
  · apply And.intro _ rfl
    intro rule declared f member
    obtain ⟨i, before, rfl⟩ := List.mem_map.mp declared
    have before : i < n := List.mem_range.mp (List.mem_reverse.mp before)
    obtain rfl | rfl : f = chainFact i ∨ f = chainFact (i + 1) := by
      simpa [Rule.implies, Rule.addConditions, Rule.addConclusions, appendNew] using member
    · apply issued_chainFact (Nat.le_of_lt before)
    · apply issued_chainFact before

theorem length_reversedLinks (n : Nat) :
  (reversedLinks n).length = n
  := by
  simp [reversedLinks]

/-- The rule at a place of the reversed chain. -/
theorem getElem?_reversedLinks {i : Nat} (inside : i < n) :
  (reversedLinks n)[i]? = some (.implies [chainFact (n - 1 - i)] [chainFact (n - i)])
  := by
  have next : n - 1 - i + 1 = n - i := by omega
  have before : n - 1 - i < n := by omega
  rw [reversedLinks, List.getElem?_map, List.getElem?_reverse (by simpa using inside),
    List.length_range, List.getElem?_range before, Option.map_some, next]

end Solver

/-- A run comes through the chain of `n` links in reverse: the pass tells which facts are known
and which rules are pending, and no rule has fired in it. -/
structure Position.Linked (n : Nat) (p : Position) : Prop where
  iteration : p.iteration ≤ n
  known : ∀ i ≤ n, p.memory.contains (Solver.chainFact i) = true ↔ i ≤ p.iteration
  pending : p.pending.toList = (List.range (n - p.iteration)).map RuleId.mk
  fired : p.firedThisPass = 0
  steps : p.steps + triangle (n - p.iteration) = triangle n + p.head
  goesOn : ∀ d, p.standing ≠ .failed d

namespace Solver

variable {s start : Solver} {id : RuleId} {n : Nat} {config : SolverConfig}

theorem standing_ne_failed (running : s.status = .running) (d : Deadlock) :
  s.position.standing ≠ .failed d
  := by
  intro failed
  rw [standing_of_running running] at failed
  split at failed
  · cases failed
  · cases failed

theorem linked_initial (n : Nat) (config : SolverConfig) :
  (initial (linksRegistry n) [chainFact 0] (reversedLinks n) config).position.Linked n
  := by
  constructor
  · apply Nat.zero_le
  · intro i _
    apply (WorkingMemory.contains_ofSequence [chainFact 0] _).trans
    rw [List.mem_singleton]
    change FactId.mk ⟨0⟩ i = FactId.mk ⟨0⟩ 0 ↔ i ≤ 0
    simp
  · change ((Array.range (reversedLinks n).length).map RuleId.mk).toList = _
    rw [Array.toList_map, Array.toList_range, length_reversedLinks]
    rfl
  · rfl
  · apply Nat.add_comm
  · apply standing_ne_failed rfl

/-- The rule under the cursor concludes the fact that is as far from the end of the chain as the
cursor is from the front of the queue, and is satisfied if it is the last of the queue. -/
theorem current_of_linked (linked : s.position.Linked n)
    (balanced : s.position.Balanced [chainFact 0] (reversedLinks n))
    (inPlace : s.position.InPlace) (current : s.pending[s.cursor]? = some id) :
  s.head < n - s.iteration ∧ (s.ruleAt id).conclusions = [chainFact (n - s.head)]
    ∧ ((s.ruleAt id).isSatisfied s.memory = true ↔ s.head + 1 = n - s.iteration)
  := by
  obtain ⟨inside, found⟩ := getElem_of_current current
  have pending : s.pending.toList = (List.range (n - s.iteration)).map RuleId.mk := linked.pending
  have cursor := cursor_of_inPlace inPlace
  simp only [pending, cursor, List.length_map, List.length_range, List.getElem_map,
    List.getElem_range] at inside found
  obtain rfl := found
  have declared := getElem?_reversedLinks (n := n) (i := s.head) (by omega)
  have rule : s.ruleAt ⟨s.head⟩ = .implies [chainFact (n - 1 - s.head)] [chainFact (n - s.head)] :=
    balanced.ruleAt_eq declared
  have known := linked.known (n - 1 - s.head) (by omega)
  change s.memory.contains _ = true ↔ n - 1 - s.head ≤ s.iteration at known
  rw [rule]
  apply And.intro inside
  apply And.intro rfl
  apply (Rule.isSatisfied_iff _ _).trans
  change (∀ f ∈ [chainFact (n - 1 - s.head)], s.memory.contains f = true) ↔ _
  rw [List.forall_mem_singleton, known]
  omega

/-- The last pending rule fires, concludes the next fact, and ends the pass. -/
theorem linked_fire (linked : s.position.Linked n)
    (balanced : s.position.Balanced [chainFact 0] (reversedLinks n))
    (inPlace : s.position.InPlace) (running : s.status = .running)
    (current : s.pending[s.cursor]? = some id)
    (satisfied : (s.ruleAt id).isSatisfied s.memory = true) :
  (s.fire id (s.ruleAt id)).settle.position.Linked n
  := by
  obtain ⟨-, conclusions, satisfied_iff⟩ := current_of_linked linked balanced inPlace current
  have last := satisfied_iff.mp satisfied
  have cursor := cursor_of_inPlace inPlace
  have before : s.pending.toList = (List.range (s.head + 1)).map RuleId.mk := by
    rw [last]
    apply linked.pending
  have after : (s.fire id (s.ruleAt id)).pending.toList = (List.range s.head).map RuleId.mk := by
    change (s.pending.eraseIdxIfInBounds s.cursor).toList = _
    rw [Array.toList_eraseIdxIfInBounds, before, cursor, List.range_succ, List.map_append,
      List.eraseIdx_append_of_length_le (by simp)]
    simp
  have atEnd : (s.fire id (s.ruleAt id)).pending.size ≤ (s.fire id (s.ruleAt id)).head := by
    rw [← Array.length_toList, after, List.length_map, List.length_range]
    apply Nat.le_of_eq cursor.symm
  have left : n - (s.iteration + 1) = s.head := by omega
  rw [settle, if_pos atEnd]
  constructor
  · change s.iteration + 1 ≤ n
    omega
  · intro i within
    apply (WorkingMemory.contains_assertAll _ _ _).trans
    have known := linked.known i within
    change s.memory.contains _ = true ↔ i ≤ s.iteration at known
    have next : chainFact i ∈ (s.ruleAt id).conclusions ↔ i = s.iteration + 1 := by
      rw [conclusions, List.mem_singleton]
      simp only [chainFact, FactId.mk.injEq, true_and]
      omega
    rw [known, next]
    change _ ↔ i ≤ s.iteration + 1
    omega
  · change (s.fire id (s.ruleAt id)).pending.toList = (List.range (n - (s.iteration + 1))).map _
    rw [after, left]
  · rfl
  · -- the pass took one step for each of the `s.head + 1` rules that were pending
    have steps : s.steps + triangle (n - s.iteration) = triangle n + s.head := linked.steps
    have sum := triangle_succ s.head
    change s.steps + 1 + triangle (n - (s.iteration + 1)) = triangle n + 0
    rw [left]
    rw [← last] at steps
    omega
  · apply standing_ne_failed
    apply running

/-- A rule that is passed over is not the last one, and the pass goes on. -/
theorem linked_skip (linked : s.position.Linked n)
    (balanced : s.position.Balanced [chainFact 0] (reversedLinks n))
    (inPlace : s.position.InPlace) (running : s.status = .running)
    (current : s.pending[s.cursor]? = some id)
    (unsatisfied : ¬ (s.ruleAt id).isSatisfied s.memory = true) :
  s.skip.settle.position.Linked n
  := by
  obtain ⟨inside, -, satisfied_iff⟩ := current_of_linked linked balanced inPlace current
  have cursor := cursor_of_inPlace inPlace
  have size : s.pending.size = n - s.iteration := by
    rw [← Array.length_toList]
    change s.position.pending.toList.length = _
    rw [linked.pending, List.length_map, List.length_range]
    rfl
  have goesOn : ¬ s.skip.pending.size ≤ s.skip.head := by
    change ¬ s.pending.size ≤ s.cursor + 1
    rw [satisfied_iff] at unsatisfied
    omega
  rw [settle, if_neg goesOn]
  constructor
  · apply linked.iteration
  · apply linked.known
  · apply linked.pending
  · apply linked.fired
  · have steps : s.steps + triangle (n - s.iteration) = triangle n + s.head := linked.steps
    change s.steps + 1 + triangle (n - s.iteration) = triangle n + (s.cursor + 1)
    omega
  · apply standing_ne_failed
    apply running

theorem linked_afterMoves (created : create (linksRegistry n) [chainFact 0] (reversedLinks n)
      config = .ok start) (moves : List Move) :
  (start.afterMoves moves).position.Linked n
  := by
  apply kept_induction created
  · obtain ⟨-, -, rfl⟩ := (create_eq_ok_iff ..).mp created
    apply linked_initial
  · intro s id kept linked running current satisfied
    apply linked_fire linked kept.balanced kept.inPlace running current satisfied
  · intro s id kept linked running current unsatisfied
    apply linked_skip linked kept.balanced kept.inPlace running current unsatisfied

/-! ### The bounds are attained -/

/-- The run through the reversed chain succeeds, with both counters at their bounds. -/
theorem run_reversedLinks (created : create (linksRegistry n) [chainFact 0] (reversedLinks n)
      config = .ok start) :
  start.run.1 = .succeeded ∧ start.run.2.iteration = n ∧ start.run.2.steps = triangle n
  := by
  have linked : start.run.2.position.Linked n := linked_afterMoves created [.run]
  have kept : start.run.2.position.Kept [chainFact 0] (reversedLinks n) :=
    kept_afterMoves created [.run]
  obtain ⟨result, status⟩ | ⟨d, -, status⟩ := start.run_cases
  · have empty := kept.concluded.succeeded (standing_of_succeeded status)
    have iteration : start.run.2.position.iteration = n := by
      have pending := linked.pending
      have within := linked.iteration
      rw [empty, eq_comm] at pending
      simp at pending
      omega
    have head : start.run.2.position.head = 0 := by
      obtain inside | ⟨-, front⟩ := kept.inPlace
      · rw [empty] at inside
        cases inside
      · apply front
    have steps := linked.steps
    rw [iteration, head, Nat.sub_self] at steps
    apply And.intro result
    apply And.intro iteration steps
  · apply absurd (standing_of_failed status) (linked.goesOn d)

/-- The counters of a run over `n` rules are within their bounds, and every way to drive it
comes to an end in time; and for every `n` there is a run that needs all of that. -/
theorem bounded_and_attained :
  (∀ (registry : Registry) (inputs : List FactId) (rules : List Rule) (config : SolverConfig)
      (start : Solver), create registry inputs rules config = .ok start →
      ∀ moves : List Move, (start.afterMoves moves).Bounded rules.length)
    ∧ ∀ (n : Nat) (config : SolverConfig), ∃ start,
      create (linksRegistry n) [chainFact 0] (reversedLinks n) config = .ok start
        ∧ (reversedLinks n).length = n
        ∧ start.run.1 = .succeeded
        ∧ start.run.2.iteration = n
        ∧ start.run.2.steps = n * (n + 1) / 2
        ∧ ∀ k < n * (n + 1) / 2, (start.afterSteps k).step.1.isTerminal = false
  := by
  constructor
  · intro registry inputs rules config start created moves
    apply bounded_afterMoves created
  · intro n config
    have created := create_reversedLinks n config
    obtain ⟨result, iteration, steps⟩ := run_reversedLinks created
    use initial (linksRegistry n) [chainFact 0] (reversedLinks n) config, created
    apply And.intro (length_reversedLinks n)
    apply And.intro result
    apply And.intro iteration
    apply And.intro steps
    intro k before
    apply unended_of_lt_steps_run
    rw [steps]
    change 0 + k < triangle n
    rw [Nat.zero_add]
    apply before

/-- The chain of three rules is within its bounds in the middle of the pass that it was rewound
into; declared in reverse order, it takes all six steps. -/
theorem bounded_and_attained_chain :
  ((chain { snapshots := .everyStep }).afterMoves [.step, .step, .step, .rewind 2]).Bounded 3
    ∧ ((chain { snapshots := .everyStep }).afterMoves [.step, .step, .step, .rewind 2]).steps = 2
    ∧ ∃ start, create (linksRegistry 3) [chainFact 0] (reversedLinks 3) {} = .ok start
      ∧ start.run.2.steps = 6
  := by
  obtain ⟨bounded, attained⟩ := bounded_and_attained
  apply And.intro (bounded _ _ _ _ _ (create_chain _) _)
  apply And.intro (by decide +kernel)
  obtain ⟨start, created, -, -, -, steps, -⟩ := attained 3 {}
  use start, created, steps

end Solver

end ForwardChaining
