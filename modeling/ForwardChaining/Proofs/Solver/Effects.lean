import ForwardChaining.Proofs.Registry.Interning
import ForwardChaining.Proofs.Solver.Confluence

/-!
# Effects

A solver makes invocations while it fires rules, before its state is brought up to date, and no
rewind takes them back.  What they are can be told from the assertions alone: every step makes those
that the facts which it asserts call for, and no others, so that the log of a run that is not rewound
is what its memory calls for from behind the inputs on (`Solver.voiced_afterMoves`).
-/

namespace ForwardChaining

/-! ### Rules that conclude no fact twice -/

theorem nodup_appendNew {target : List FactId} (facts : List FactId) (distinct : target.Nodup) :
  (appendNew target facts).Nodup
  := by
  induction facts generalizing target with
  | nil => exact distinct
  | cons first facts ih =>
    rw [appendNew_cons]
    split
    · exact ih distinct
    · rename_i new
      apply ih
      rw [List.contains_iff_mem] at new
      rw [List.nodup_append]
      refine ⟨distinct, List.pairwise_singleton _ first, ?_⟩
      rintro f member g added rfl
      rw [List.mem_singleton.mp added] at member
      exact new member

namespace Rule

/-- The rules that there are: new ones, and what becomes of them when they are given a label, or
further conditions or conclusions. -/
inductive Made : Rule → Prop where
  | new : Made {}
  | labelled {rule : Rule} (made : Made rule) (label : String) :
      Made { rule with label := some label }
  | addConditions {rule : Rule} (made : Made rule) (facts : List FactId) :
      Made (rule.addConditions facts)
  | addConclusions {rule : Rule} (made : Made rule) (facts : List FactId) :
      Made (rule.addConclusions facts)

theorem made_implies (conditions conclusions : List FactId) :
  Made (implies conditions conclusions)
  := (Made.new.addConditions conditions).addConclusions conclusions

/-- However a rule is made, it has no conclusion twice. -/
theorem Made.nodup_conclusions {rule : Rule} (made : rule.Made) :
  rule.conclusions.Nodup
  := by
  induction made with
  | new => exact List.nodup_nil
  | labelled _ _ ih => exact ih
  | addConditions _ _ ih => exact ih
  | addConclusions _ facts ih => exact nodup_appendNew facts ih

end Rule

/-- Lists without repeats, put together, hold an element as often as there are lists that have it. -/
theorem count_flatMap_of_nodup {α β : Type} [DecidableEq β] {l : List α} {g : α → List β}
    (distinct : ∀ a ∈ l, (g a).Nodup) (b : β) :
  (l.flatMap g).count b = l.countP fun a => b ∈ g a
  := by
  induction l with
  | nil => rfl
  | cons a l ih =>
    rw [List.forall_mem_cons] at distinct
    rw [List.flatMap_cons, List.count_append, ih distinct.2, distinct.1.count, List.countP_cons,
      Nat.add_comm]
    simp only [decide_eq_true_eq]

/-! ### What facts call for -/

namespace Fact

/-- How often the effect of the fact is invoked when the fact is concluded. -/
def calls (f : Fact) : Nat :=
  if f.effect.isSome then f.repeatCount else 0

theorem countP_perform (f : Fact) (vocabulary : Vocabulary) (name : String) :
  (f.perform vocabulary).countP (·.fact = name) = if f.name = name then f.calls else 0
  := by
  unfold perform calls
  cases f.effect with
  | none => simp
  | some e => simp [List.countP_replicate]

end Fact

namespace Registry

variable {r : Registry} {f : FactId} {fact : Fact}

/-- The invocations are those that the given facts of the registry call for when they are concluded
one after the other. -/
inductive Voices (r : Registry) : List FactId → List Invocation → Prop where
  | nil : Voices r [] []
  | mute {f : FactId} {fact : Fact} {facts : List FactId} {calls : List Invocation}
      (found : r.fact? f = some fact) (effect : fact.effect = none) (rest : Voices r facts calls) :
      Voices r (f :: facts) calls
  | sound {f : FactId} {fact : Fact} {e : Effect} {facts : List FactId} {calls : List Invocation}
      (found : r.fact? f = some fact) (effect : fact.effect = some e)
      (rest : Voices r facts calls) :
      Voices r (f :: facts)
        (List.replicate fact.repeatCount ⟨fact.name, r.vocabulary, e⟩ ++ calls)

/-- Facts that the registry issued call for what it performs for them. -/
theorem voices_flatMap_perform {facts : List FactId} (issued : ∀ f ∈ facts, r.Issued f) :
  r.Voices facts (facts.flatMap r.perform)
  := by
  induction facts with
  | nil => exact .nil
  | cons f facts ih =>
    rw [List.forall_mem_cons] at issued
    obtain ⟨fact, found⟩ := Option.isSome_iff_exists.mp issued.1
    have performed : r.perform f = fact.perform r.vocabulary := by
      rw [perform, found]
    rw [List.flatMap_cons, performed, Fact.perform]
    cases effect : fact.effect with
    | none => exact .mute found effect (ih issued.2)
    | some e => exact .sound found effect (ih issued.2)

/-- As names tell facts apart, the invocations for other facts are not counted. -/
theorem Agrees.countP_perform (agrees : r.Agrees) (found : r.fact? f = some fact) (g : FactId) :
  (r.perform g).countP (·.fact = fact.name) = if g = f then fact.calls else 0
  := by
  have named : r.name? f = some fact.name := congrArg (Option.map Fact.name) found
  unfold perform
  cases there : r.fact? g with
  | none =>
    rw [if_neg, List.countP_nil]
    rintro rfl
    rw [there] at found
    cases found
  | some other =>
    rw [other.countP_perform]
    by_cases same : g = f
    · rw [same, found] at there
      cases there
      rw [if_pos rfl, if_pos same]
    · rw [if_neg same, if_neg]
      intro namesake
      have named' : r.name? g = some other.name := congrArg (Option.map Fact.name) there
      rw [namesake] at named'
      exact same (agrees.eq_of_name? named' named)

theorem Agrees.countP_flatMap_perform (agrees : r.Agrees) (found : r.fact? f = some fact)
    (facts : List FactId) :
  (facts.flatMap r.perform).countP (·.fact = fact.name) = fact.calls * facts.count f
  := by
  induction facts with
  | nil => rfl
  | cons g facts ih =>
    rw [List.flatMap_cons, List.countP_append, ih, agrees.countP_perform found, List.count_cons]
    by_cases same : g = f
    · rw [if_pos same, if_pos (beq_iff_eq.mpr same), Nat.mul_succ, Nat.add_comm]
    · rw [if_neg same, if_neg (mt beq_iff_eq.mp same), Nat.zero_add, Nat.add_zero]

end Registry

namespace Solver

variable {s t start : Solver} {inputs : List FactId} {rules : List Rule} {registry : Registry}
  {config : SolverConfig}

/-! ### Invocations of steps in a row -/

/-- The invocations made between the states `s` and `t` are those that the given facts call for. -/
def Adds (s : Solver) (facts : List FactId) (t : Solver) : Prop :=
  ∃ calls, s.registry.Voices facts calls ∧ t.log.toList = s.log.toList ++ calls

/-- Steps add the invocations for what they assert. -/
theorem adds_afterSteps (created : create registry inputs rules config = .ok start)
    (moves : List Move) (n : Nat) :
  (start.afterMoves moves).Adds (((start.afterMoves moves).outcomes n).flatMap (·.asserted))
    ((start.afterMoves moves).afterSteps n)
  := by
  refine ⟨_, Registry.voices_flatMap_perform ?_, log_afterSteps_eq _ n⟩
  intro f asserted
  -- What the steps assert is in the memory after them, all of which was issued.
  rw [registry_afterMoves created]
  apply issued_of_mem_sequence created (moves ++ List.replicate n .step)
  rw [afterMoves_append, afterMoves_replicate_step, sequence_afterSteps]
  exact List.mem_append_right _ asserted

/-- A step that fires no rule asserts nothing. -/
theorem asserted_of_idle (idle : ∀ e, s.step.1 = .examined e → e.performing = false) :
  s.step.1.asserted = []
  := by
  obtain ⟨e, outcome⟩ | verdict := s.examined_or_verdict
  · obtain ⟨performing, -⟩ | ⟨-, none, -⟩ := step_eq_of_examined outcome
    · rw [idle e outcome] at performing
      cases performing
    · rw [outcome]
      exact none
  · exact Outcome.asserted_of_verdict verdict

/-- A rewind leaves the log as it is, whether it succeeds or not. -/
theorem log_rewind (s : Solver) (n : Nat) :
  (s.afterMove (.rewind n)).log = s.log
  := by
  cases rewound : s.rewind n with
  | error e => rw [afterMove_rewind_error rewound]
  | ok t =>
    obtain ⟨σ, -, rfl⟩ := rewind_eq_ok_iff.mp rewound
    rw [afterMove_rewind rewound]
    rfl

/-! ### Moves and runs -/

/-- What each move from the state `s` adds to the log is what the assertions that it reports call
for. -/
structure Voiced (s : Solver) : Prop where
  step : s.Adds s.step.1.asserted s.step.2
  /-- A step that passes a rule over, or reports a verdict, invokes nothing. -/
  idle : (∀ e, s.step.1 = .examined e → e.performing = false) → s.step.2.log = s.log
  iterate : s.Adds (s.iterate.1.flatMap (·.asserted)) s.iterate.2
  run : s.Adds ((s.stages.map (·.outcome)).flatMap (·.asserted)) s.run.2
  rewind : ∀ n, (s.afterMove (.rewind n)).log = s.log

/-- The log of the state `s` is what the assertions after the inputs call for. -/
structure Recounts (inputs : List FactId) (s : Solver) : Prop where
  expansion : ∃ asserted, s.memory.sequence = inputs ++ asserted
    ∧ s.registry.Voices asserted s.log.toList
  /-- An effect has been invoked for each of the fired rules that conclude its fact. -/
  repeated : ∀ f fact, s.registry.fact? f = some fact →
    s.log.toList.countP (·.fact = fact.name)
      = fact.calls * s.fired.toList.countP fun id => f ∈ (s.ruleAt id).conclusions

theorem adds_afterStages (created : create registry inputs rules config = .ok start)
    (moves : List Move) (stop : Solver → Bool) :
  (start.afterMoves moves).Adds
    ((((start.afterMoves moves).stagesUntil stop).map (·.outcome)).flatMap (·.asserted))
    ((start.afterMoves moves).afterStages ((start.afterMoves moves).stagesUntil stop))
  := by
  rw [outcomes_stagesUntil, afterStages_stagesUntil]
  exact adds_afterSteps created moves _

theorem voiced_of_create (created : create registry inputs rules config = .ok start)
    (moves : List Move) :
  (start.afterMoves moves).Voiced
  := by
  constructor
  case step =>
    have adds := adds_afterSteps created moves 1
    rw [outcomes_succ, List.flatMap_cons] at adds
    rw [← List.append_nil (start.afterMoves moves).step.1.asserted]
    exact adds
  case idle =>
    intro idle
    rw [log_step, asserted_of_idle idle]
    rfl
  case iterate => exact adds_afterStages created moves _
  case run =>
    rw [run_snd]
    exact adds_afterStages created moves _
  case rewind => exact log_rewind _

/-- The fired rules have no conclusion twice, if no rule has. -/
theorem count_conclusions (balanced : s.position.Balanced inputs rules)
    (distinct : ∀ rule ∈ rules, rule.conclusions.Nodup) (f : FactId) :
  (s.fired.toList.flatMap fun id => (s.ruleAt id).conclusions).count f
    = s.fired.toList.countP fun id => f ∈ (s.ruleAt id).conclusions
  := by
  apply count_flatMap_of_nodup
  intro id fired
  exact distinct _ (balanced.ruleAt_mem (Or.inl fired))

theorem recounts_of_continues (agrees : registry.Agrees)
    (distinct : ∀ rule ∈ rules, rule.conclusions.Nodup)
    (created : create registry inputs rules config = .ok start) (continues : start.Continues t) :
  t.Recounts inputs
  := by
  obtain ⟨n, rfl⟩ := continues.exists_afterSteps
  obtain ⟨asserted, sequence, log⟩ := log_afterSteps created n
  rw [← afterMoves_replicate_step] at sequence log ⊢
  obtain ⟨balanced, -⟩ := balanced_afterMoves created (List.replicate n .step)
  have same := registry_afterMoves created (List.replicate n .step)
  constructor
  case expansion =>
    use asserted, sequence
    rw [log, same]
    apply Registry.voices_flatMap_perform
    intro f member
    apply issued_of_mem_sequence created (List.replicate n .step)
    rw [sequence]
    exact List.mem_append_right inputs member
  case repeated =>
    intro f fact found
    rw [same] at found
    -- What stands behind the inputs is what the fired rules conclude.
    have whole : _ = inputs ++ _ := balanced.sequence_eq
    rw [log, agrees.countP_flatMap_perform found, ← count_conclusions balanced distinct]
    congr 2
    exact List.append_cancel_left (sequence.symm.trans whole)

/-- Whatever the moves, each move adds what its assertions call for to the log; and as long as there
is no rewind, the log is what all assertions call for, so that an effect has been invoked as often as
its fact is to repeat it for each of the fired rules that conclude the fact. -/
theorem voiced_afterMoves {id : RegistryId} {requests : List Registry.Request}
    (made : ∀ rule ∈ rules, rule.Made)
    (created : create ((Registry.empty id).after requests) inputs rules config = .ok start) :
  (∀ moves, (start.afterMoves moves).Voiced) ∧ ∀ t, start.Continues t → t.Recounts inputs
  := by
  constructor
  · exact voiced_of_create created
  · intro t continues
    have distinct : ∀ rule ∈ rules, rule.conclusions.Nodup :=
      fun rule declared => (made rule declared).nodup_conclusions
    exact recounts_of_continues (Registry.agrees_after id requests) distinct created continues

/-- Rain drips twice, and what is wet says so. -/
def puddleRequests : List Registry.Request :=
  [.register ["cloud", "rain", "wet"], .getAll ["cloud", "rain"],
    .configure "rain" [.effect (some (.say "drip")), .repeatCount 2],
    .configure "wet" [.effect (some .sayName)]]

/-- Both rules conclude rain; the second was given it twice. -/
def puddleRules : List Rule :=
  [.implies [⟨⟨0⟩, 0⟩] [⟨⟨0⟩, 1⟩], .implies [⟨⟨0⟩, 0⟩] [⟨⟨0⟩, 1⟩, ⟨⟨0⟩, 2⟩, ⟨⟨0⟩, 1⟩]]

/-- The rain drips twice for each of the rules, and no rewind takes that back. -/
theorem voiced_afterMoves_puddle :
  ∃ start, create ((Registry.empty ⟨0⟩).after puddleRequests) [⟨⟨0⟩, 0⟩] puddleRules
        ⟨4, .everyStep⟩ = .ok start
    ∧ (start.afterMoves [.step, .step]).log.toList.countP (·.fact = "rain") = 4
    ∧ (start.afterMoves [.step, .step]).Recounts [⟨⟨0⟩, 0⟩]
    ∧ ((start.afterMoves [.step, .step, .rewind 1]).log.toList.map (·.message))
      = ["drip", "drip", "drip", "drip", "wet"]
    ∧ (start.afterMoves [.step, .step, .rewind 1]).Voiced
  := by
  have made : ∀ rule ∈ puddleRules, rule.Made := by
    simp [puddleRules, Rule.made_implies]
  have created : create ((Registry.empty ⟨0⟩).after puddleRequests) [⟨⟨0⟩, 0⟩] puddleRules
      ⟨4, .everyStep⟩ = .ok (initial ((Registry.empty ⟨0⟩).after puddleRequests) [⟨⟨0⟩, 0⟩]
        puddleRules ⟨4, .everyStep⟩) := by
    decide +kernel
  obtain ⟨voiced, recounts⟩ := voiced_afterMoves made created
  refine ⟨_, created, ?_, recounts _ ⟨[.step, .step], ?_, rfl⟩, ?_, voiced _⟩
  · decide +kernel
  · simp
  · decide +kernel

end Solver

end ForwardChaining
