import ForwardChaining.Trace.Event
import ForwardChaining.Proofs.Solver.Chronicle

/-!
# The story of a run

What there is to tell of a run is read off the states of the solver alone: `Solver.story` lists
the events of a number of steps.  The story is faithful (`Solver.faithful_story`).  It tells of
the completed passes in order, and every end of a pass closes the latest start of that pass and
gives the number of rules that are told to have fired since; it tells of the fired rules, of the
asserted facts and of the invocations of their effects in the order in which the solver has
them; and it tells of the verdict once, however often that is reported.
-/

namespace ForwardChaining

namespace TraceEvent

/-- The rule that the event tells to fire. -/
def fired? : TraceEvent → Option RuleId
  | ruleFired rule => some rule
  | _ => none

/-- The fact that the event tells to be asserted. -/
def asserted? : TraceEvent → Option FactId
  | factAsserted fact _ => some fact
  | _ => none

/-- The pass that the event tells to end. -/
def endedPass? : TraceEvent → Option Nat
  | passEnd pass _ => some pass
  | _ => none

end TraceEvent

/-! ### Open passes -/

/-- The pass is open at the end of the events: since it was told to start, so many rules have
been told to fire. -/
def OpenPass (events : List TraceEvent) (pass fired : Nat) : Prop :=
  ∃ before since, events = before ++ .passStart pass :: since
    ∧ (∀ event ∈ since, event.isPassBoundary = false) ∧ (since.filterMap (·.fired?)).length = fired

/-- Every end of a pass that is told closes an open pass, and counts the rules that fired in
it. -/
def ClosesPasses (events : List TraceEvent) : Prop :=
  ∀ before after pass fired, events = before ++ .passEnd pass fired :: after →
    OpenPass before pass fired

section

variable {events more : List TraceEvent} {pass fired : Nat}

theorem openPass_start (events : List TraceEvent) (pass : Nat) :
  OpenPass (events ++ [.passStart pass]) pass 0
  := ⟨events, [], rfl, List.forall_mem_nil _, rfl⟩

/-- A pass stays open until another is told to start or it is told to end. -/
theorem OpenPass.append (opened : OpenPass events pass fired)
    (inside : ∀ event ∈ more, event.isPassBoundary = false) :
  OpenPass (events ++ more) pass (fired + (more.filterMap (·.fired?)).length)
  := by
  obtain ⟨before, since, rfl, apart, rfl⟩ := opened
  refine ⟨before, since ++ more, List.append_assoc _ _ _, ?_, ?_⟩
  · exact List.forall_mem_append.mpr ⟨apart, inside⟩
  · rw [List.filterMap_append, List.length_append]

theorem ClosesPasses.append_of_forall (closes : ClosesPasses events)
    (ends : ∀ between after pass fired, more = between ++ .passEnd pass fired :: after →
      OpenPass (events ++ between) pass fired) :
  ClosesPasses (events ++ more)
  := by
  intro before after pass fired told
  obtain ⟨between, rfl, rest⟩ | ⟨between, rfl, rest⟩ := List.append_eq_append_iff.mp told
  · exact ends between after pass fired rest
  · obtain ⟨rfl, rest⟩ | ⟨between, rfl, -⟩ := List.cons_eq_append_iff.mp rest
    · have opened := ends [] after pass fired rest.symm
      rwa [List.append_nil, List.append_nil] at opened
    · exact closes before between pass fired rfl

theorem ClosesPasses.append (closes : ClosesPasses events)
    (none : ∀ pass fired, .passEnd pass fired ∉ more) :
  ClosesPasses (events ++ more)
  := by
  apply closes.append_of_forall
  rintro between after pass fired rfl
  exact absurd (List.mem_append_right _ List.mem_cons_self) (none pass fired)

theorem ClosesPasses.close (closes : ClosesPasses events) (opened : OpenPass events pass fired) :
  ClosesPasses (events ++ [.passEnd pass fired])
  := by
  apply closes.append_of_forall
  intro between after pass' fired' told
  obtain ⟨rfl, rest⟩ | ⟨between, -, rest⟩ := List.cons_eq_append_iff.mp told
  · cases rest
    rwa [List.append_nil]
  · cases between with
    | nil => cases rest
    | cons event between => cases rest

end

/-! ### What there is to tell -/

/-- The events of the assertion of a fact: its effect, if it has one, is invoked before. -/
def Registry.assertionStory (r : Registry) (rule : RuleId) (fact : FactId) : List TraceEvent :=
  (if (r.fact? fact).any (·.effect.isSome) then [.effectPerformed fact (r.perform fact).length]
    else [])
    ++ [.factAsserted fact rule]

namespace Solver

/-- The events of an examination: a rule that fires asserts its conclusions in order. -/
def examinationStory (s : Solver) (e : Examination) : List TraceEvent :=
  .ruleExamined e.rule e.performing ::
    if e.performing then
      .ruleFired e.rule :: (s.ruleAt e.rule).conclusions.flatMap (s.registry.assertionStory e.rule)
    else []

/-- The events of the end of the pass, if the next step ends it: another pass starts if the step
after that examines a rule. -/
def passStory (s : Solver) : List TraceEvent :=
  if s.step.2.iteration = s.iteration then []
  else
    .passEnd s.iteration (s.firedThisPass + s.step.1.fired.length) ::
      if s.step.2.step.1.isTerminal then [] else [.passStart (s.iteration + 1)]

/-- The events of the next step; a verdict that has been reported is no event. -/
def stepStory (s : Solver) (reported : Bool) : List TraceEvent :=
  match s.step.1 with
  | .examined e => s.examinationStory e ++ s.passStory
  | .succeeded => if reported then [] else [.runSucceeded s.step.2.steps]
  | .failed d => if reported then [] else [.runFailed d.unsatisfied]

/-- One of the next `n` steps reports a verdict. -/
def reported (s : Solver) (n : Nat) : Bool :=
  (s.outcomes n).any (·.isTerminal)

/-- The events of the next `n` steps, for a solver that begins a run. -/
def story (s : Solver) (n : Nat) : List TraceEvent :=
  [.runStart s.rules.size s.memory.size, .passStart s.iteration]
    ++ (List.range n).flatMap fun k => (s.afterSteps k).stepStory (s.reported k)

variable {s : Solver} {e : Examination} {event : TraceEvent} {events : List TraceEvent} {n : Nat}

theorem story_succ (s : Solver) (n : Nat) :
  s.story (n + 1) = s.story n ++ (s.afterSteps n).stepStory (s.reported n)
  := by
  rw [story, List.range_succ, List.flatMap_append, List.flatMap_singleton, ← List.append_assoc]
  rfl

theorem reported_succ (s : Solver) (n : Nat) :
  s.reported (n + 1) = (s.reported n || (s.afterSteps n).step.1.isTerminal)
  := by
  rw [reported, outcomes, List.range_succ, List.map_append, List.any_append]
  simp [reported, outcomes]

/-! ### The events of a step -/

theorem stepStory_of_examined (outcome : s.step.1 = .examined e) (reported : Bool) :
  s.stepStory reported = s.examinationStory e ++ s.passStory
  := by
  rw [stepStory, outcome]

/-- A verdict is told unless it has been reported. -/
theorem stepStory_of_verdict (verdict : s.step.1.isTerminal = true) (reported : Bool) :
  ∃ event : TraceEvent, event.isTerminal = true
    ∧ s.stepStory reported = if reported then [] else [event]
  := by
  unfold stepStory
  cases outcome : s.step.1 with
  | examined e =>
    rw [outcome] at verdict
    cases verdict
  | succeeded => use .runSucceeded s.step.2.steps, rfl
  | failed d => use .runFailed d.unsatisfied, rfl

/-- The events of an assertion are those of an invocation and of an assertion. -/
theorem mem_assertionStory {r : Registry} {rule : RuleId} {fact : FactId}
    (member : event ∈ r.assertionStory rule fact) :
  (∃ invocations, event = .effectPerformed fact invocations) ∨ event = .factAsserted fact rule
  := by
  rw [Registry.assertionStory, List.mem_append, List.mem_singleton] at member
  obtain performed | asserted := member
  · left
    split at performed
    · use (r.perform fact).length
      exact List.mem_singleton.mp performed
    · cases performed
  · right
    exact asserted

/-- An examination neither starts or ends a pass nor is the end of the run. -/
theorem mem_examinationStory (member : event ∈ s.examinationStory e) :
  event.isPassBoundary = false ∧ event.isTerminal = false
  := by
  rw [examinationStory, List.mem_cons] at member
  obtain rfl | told := member
  · exact ⟨rfl, rfl⟩
  · split at told
    · obtain rfl | told := List.mem_cons.mp told
      · exact ⟨rfl, rfl⟩
      · obtain ⟨fact, -, told⟩ := List.mem_flatMap.mp told
        obtain ⟨invocations, rfl⟩ | rfl := mem_assertionStory told
        · exact ⟨rfl, rfl⟩
        · exact ⟨rfl, rfl⟩
    · cases told

theorem mem_passStory (member : event ∈ s.passStory) :
  event = .passEnd s.iteration (s.firedThisPass + s.step.1.fired.length)
    ∨ event = .passStart (s.iteration + 1)
  := by
  unfold passStory at member
  split at member
  · cases member
  · obtain rfl | member := List.mem_cons.mp member
    · left
      rfl
    · right
      split at member
      · cases member
      · exact List.mem_singleton.mp member

/-! ### What the events of a step tell of -/

/-- What is told neither at the turn of a pass nor at the end of the run is told of
examinations. -/
theorem filterMap_stepStory {α : Type} {tell : TraceEvent → Option α}
    (boundary : ∀ event, event.isPassBoundary = true → tell event = none)
    (terminal : ∀ event, event.isTerminal = true → tell event = none) (s : Solver)
    (reported : Bool) :
  (s.stepStory reported).filterMap tell
    = (s.step.1.examination?.elim [] s.examinationStory).filterMap tell
  := by
  obtain ⟨e, outcome⟩ | verdict := s.examined_or_verdict
  · have none : s.passStory.filterMap tell = [] := by
      apply List.filterMap_eq_nil_iff.mpr
      intro event told
      obtain rfl | rfl := mem_passStory told
      · exact boundary _ rfl
      · exact boundary _ rfl
    rw [stepStory_of_examined outcome, List.filterMap_append, none, List.append_nil, outcome]
    rfl
  · obtain ⟨event, ended, told⟩ := stepStory_of_verdict verdict reported
    have examination : s.step.1.examination? = none := by
      cases outcome : s.step.1 with
      | examined e => rw [outcome] at verdict; cases verdict
      | succeeded => rfl
      | failed d => rfl
    rw [told, examination]
    split
    · rfl
    · rw [List.filterMap_cons_none (terminal event ended)]
      rfl

theorem filterMap_fired?_examinationStory (s : Solver) (e : Examination) :
  (s.examinationStory e).filterMap (·.fired?) = (Outcome.examined e).fired
  := by
  have none : ((s.ruleAt e.rule).conclusions.flatMap
      (s.registry.assertionStory e.rule)).filterMap (·.fired?) = [] := by
    apply List.filterMap_eq_nil_iff.mpr
    intro event told
    obtain ⟨fact, -, told⟩ := List.mem_flatMap.mp told
    obtain ⟨invocations, rfl⟩ | rfl := mem_assertionStory told
    · rfl
    · rfl
  change _ = if e.performing then [e.rule] else []
  unfold examinationStory
  split
  · exact congrArg (e.rule :: ·) none
  · rfl

/-- Of the fired rules, the events of a step tell the one that it fires. -/
theorem filterMap_fired?_stepStory (s : Solver) (reported : Bool) :
  (s.stepStory reported).filterMap (·.fired?) = s.step.1.fired
  := by
  rw [filterMap_stepStory]
  · cases s.step.1 with
    | examined e => exact s.filterMap_fired?_examinationStory e
    | succeeded => rfl
    | failed d => rfl
  · intro event boundary
    cases event <;> first | rfl | cases boundary
  · intro event terminal
    cases event <;> first | rfl | cases terminal

theorem filterMap_asserted?_assertionStory (r : Registry) (rule : RuleId) (facts : List FactId) :
  (facts.flatMap (r.assertionStory rule)).filterMap (·.asserted?) = facts
  := by
  induction facts with
  | nil => rfl
  | cons fact facts ih =>
    have first : (r.assertionStory rule fact).filterMap (·.asserted?) = [fact] := by
      unfold Registry.assertionStory
      split <;> rfl
    rw [List.flatMap_cons, List.filterMap_append, ih, first, List.singleton_append]

/-- Of the asserted facts, the events of a step tell those that it asserts. -/
theorem filterMap_asserted?_stepStory (s : Solver) (reported : Bool) :
  (s.stepStory reported).filterMap (·.asserted?) = s.step.1.asserted
  := by
  rw [filterMap_stepStory]
  · cases outcome : s.step.1 with
    | examined e =>
      change (s.examinationStory e).filterMap _ = e.asserted
      unfold examinationStory
      obtain ⟨performing, asserted, -⟩ | ⟨performing, asserted, -⟩ := step_eq_of_examined outcome
      · rw [performing, asserted]
        exact filterMap_asserted?_assertionStory _ _ _
      · rw [performing, asserted]
        rfl
    | succeeded => rfl
    | failed d => rfl
  · intro event boundary
    cases event <;> first | rfl | cases boundary
  · intro event terminal
    cases event <;> first | rfl | cases terminal

/-- A step that examines a rule tells of the end of the pass if it completes it. -/
theorem filterMap_endedPass?_stepStory (s : Solver) (reported : Bool) :
  List.range s.iteration ++ (s.stepStory reported).filterMap (·.endedPass?)
    = List.range s.step.2.iteration
  := by
  obtain ⟨e, outcome⟩ | verdict := s.examined_or_verdict
  · have none : (s.examinationStory e).filterMap (·.endedPass?) = [] := by
      apply List.filterMap_eq_nil_iff.mpr
      intro event told
      obtain ⟨boundary, -⟩ := mem_examinationStory told
      cases event <;> first | rfl | cases boundary
    rw [stepStory_of_examined outcome, List.filterMap_append, none, List.nil_append, passStory]
    obtain ⟨same, -⟩ | ⟨next, -⟩ := s.pass_step
    · rw [if_pos same, same]
      exact List.append_nil _
    · rw [if_neg (by omega), next, List.range_succ]
      split <;> rfl
  · obtain ⟨event, ended, told⟩ := stepStory_of_verdict verdict reported
    have same : s.step.2.iteration = s.iteration :=
      congrArg Position.iteration (step_of_verdict verdict).1
    have none : event.endedPass? = none := by
      cases event <;> first | rfl | cases ended
    rw [told, same]
    split
    · exact List.append_nil _
    · rw [List.filterMap_cons_none none]
      exact List.append_nil _

/-- A verdict is told the first time that it is reported. -/
theorem countP_isTerminal_stepStory (s : Solver) (reported : Bool) :
  (s.stepStory reported).countP (·.isTerminal)
    = if s.step.1.isTerminal && !reported then 1 else 0
  := by
  obtain ⟨e, outcome⟩ | verdict := s.examined_or_verdict
  · rw [stepStory_of_examined outcome, outcome]
    apply List.countP_eq_zero.mpr
    intro event told
    obtain told | told := List.mem_append.mp told
    · exact Bool.eq_false_iff.mp (mem_examinationStory told).2
    · obtain rfl | rfl := mem_passStory told
      · exact Bool.false_ne_true
      · exact Bool.false_ne_true
  · obtain ⟨event, ended, told⟩ := stepStory_of_verdict verdict reported
    rw [told, verdict]
    cases reported with
    | true => rfl
    | false => exact List.countP_cons_of_pos ended

/-! ### The passes of a run -/

/-- The pass of a solver stays open during an examination. -/
theorem openPass_examinationStory (opened : OpenPass events s.iteration s.firedThisPass)
    (outcome : s.step.1 = .examined e) :
  OpenPass (events ++ s.examinationStory e) s.iteration
    (s.firedThisPass + s.step.1.fired.length)
  := by
  rw [outcome, ← filterMap_fired?_examinationStory]
  apply opened.append
  intro event told
  exact (mem_examinationStory told).1

/-- Before a step that examines a rule, the pass of the solver is open. -/
theorem openPass_story (begun : s.firedThisPass = 0)
    (ongoing : (s.afterSteps n).step.1.isTerminal = false) :
  OpenPass (s.story n) (s.afterSteps n).iteration (s.afterSteps n).firedThisPass
  := by
  induction n with
  | zero =>
    rw [afterSteps, begun]
    exact openPass_start [.runStart s.rules.size s.memory.size] s.iteration
  | succ n ih =>
    obtain ⟨e, outcome⟩ | verdict := (s.afterSteps n).examined_or_verdict
    · have opened := openPass_examinationStory (ih (by rw [outcome]; rfl)) outcome
      rw [afterSteps] at ongoing
      rw [story_succ, stepStory_of_examined outcome, afterSteps]
      obtain ⟨same, fired⟩ | ⟨next, fired⟩ := (s.afterSteps n).pass_step
      · rw [passStory, if_pos same, List.append_nil, same, fired]
        exact opened
      · rw [passStory, if_neg (by omega), ongoing, next, fired, ← List.append_assoc,
          ← List.singleton_append, ← List.append_assoc]
        exact openPass_start _ _
    · have ended := verdict_of_terminal (step_of_verdict verdict).2.2
      rw [afterSteps, ended] at ongoing
      cases ongoing

theorem closesPasses_story (begun : s.firedThisPass = 0) (n : Nat) :
  ClosesPasses (s.story n)
  := by
  induction n with
  | zero =>
    intro before after pass fired told
    have member : .passEnd pass fired ∈ s.story 0 := by
      rw [told]
      exact List.mem_append_right _ List.mem_cons_self
    simp [story] at member
  | succ n ih =>
    rw [story_succ]
    obtain ⟨e, outcome⟩ | verdict := (s.afterSteps n).examined_or_verdict
    · have opened := openPass_examinationStory (openPass_story begun (by rw [outcome]; rfl)) outcome
      have examined : ClosesPasses (s.story n ++ (s.afterSteps n).examinationStory e) := by
        apply ih.append
        intro pass fired told
        cases (mem_examinationStory told).1
      rw [stepStory_of_examined outcome, ← List.append_assoc, passStory]
      split
      · rwa [List.append_nil]
      · rw [← List.singleton_append, ← List.append_assoc]
        apply (examined.close opened).append
        intro pass fired told
        split at told
        · cases told
        · cases List.mem_singleton.mp told
    · obtain ⟨event, ended, told⟩ := stepStory_of_verdict verdict (s.reported n)
      rw [told]
      apply ih.append
      intro pass fired member
      split at member
      · cases member
      · rw [← List.mem_singleton.mp member] at ended
        cases ended

/-! ### Faithful stories -/

theorem endedPass?_story (s : Solver) (n : Nat) :
  List.range s.iteration ++ (s.story n).filterMap (·.endedPass?)
    = List.range (s.afterSteps n).iteration
  := by
  induction n with
  | zero => exact List.append_nil _
  | succ n ih =>
    rw [story_succ, List.filterMap_append, ← List.append_assoc, ih,
      filterMap_endedPass?_stepStory]
    rfl

theorem fired?_story (s : Solver) (n : Nat) :
  s.fired.toList ++ (s.story n).filterMap (·.fired?) = (s.afterSteps n).fired.toList
  := by
  induction n with
  | zero => exact List.append_nil _
  | succ n ih =>
    rw [story_succ, List.filterMap_append, ← List.append_assoc, ih, filterMap_fired?_stepStory,
      afterSteps, fired_step, Log.toList_append]

theorem asserted?_story (s : Solver) (n : Nat) :
  s.memory.sequence ++ (s.story n).filterMap (·.asserted?) = (s.afterSteps n).memory.sequence
  := by
  induction n with
  | zero => exact List.append_nil _
  | succ n ih =>
    rw [story_succ, List.filterMap_append, ← List.append_assoc, ih,
      filterMap_asserted?_stepStory, afterSteps, memory_step, WorkingMemory.sequence_assertAll]

/-- The invocations that were made are those that the told facts call for. -/
theorem log_story (s : Solver) (n : Nat) :
  s.log.toList ++ ((s.story n).filterMap (·.asserted?)).flatMap s.registry.perform
    = (s.afterSteps n).log.toList
  := by
  induction n with
  | zero => exact List.append_nil _
  | succ n ih =>
    have registry : (s.afterSteps n).registry = s.registry :=
      congrArg Problem.registry (s.problem_afterSteps n)
    rw [story_succ, List.filterMap_append, List.flatMap_append, ← List.append_assoc, ih,
      filterMap_asserted?_stepStory, afterSteps, log_step, Log.toList_append, registry]

theorem countP_isTerminal_story (s : Solver) (n : Nat) :
  (s.story n).countP (·.isTerminal) = if s.reported n then 1 else 0
  := by
  induction n with
  | zero => rfl
  | succ n ih =>
    rw [story_succ, List.countP_append, ih, countP_isTerminal_stepStory, reported_succ]
    cases s.reported n <;> cases (s.afterSteps n).step.1.isTerminal <;> rfl

/-- The events tell of `n` steps of the run of a solver for the given inputs and rules. -/
structure FaithfulStory (inputs : List FactId) (rules : List Rule) (start : Solver) (n : Nat)
    (events : List TraceEvent) : Prop where
  begun : [.runStart rules.length inputs.length, .passStart 0] <+: events
  /-- The completed passes are told to end, in order. -/
  ended : events.filterMap (·.endedPass?) = List.range (start.afterSteps n).iteration
  closes : ClosesPasses events
  fired : events.filterMap (·.fired?) = (start.afterSteps n).fired.toList
  asserted : inputs ++ events.filterMap (·.asserted?) = (start.afterSteps n).memory.sequence
  invoked : (events.filterMap (·.asserted?)).flatMap start.registry.perform
    = (start.afterSteps n).log.toList
  /-- However often it is reported, the verdict is told once. -/
  verdict : events.countP (·.isTerminal) = if start.reported n then 1 else 0

/-- The story of every run is faithful. -/
theorem faithful_story {registry : Registry} {inputs : List FactId} {rules : List Rule}
    {config : SolverConfig} {start : Solver}
    (created : create registry inputs rules config = .ok start) (n : Nat) :
  FaithfulStory inputs rules start n (start.story n)
  := by
  obtain ⟨-, -, rfl⟩ := (create_eq_ok_iff ..).mp created
  have sequence : (initial registry inputs rules config).memory.sequence = inputs :=
    WorkingMemory.sequence_ofSequence inputs
  have size : (initial registry inputs rules config).memory.size = inputs.length :=
    (Log.length_toList _).symm.trans (congrArg List.length sequence)
  constructor
  · rw [← size]
    exact List.prefix_append _ _
  · exact endedPass?_story (initial registry inputs rules config) n
  · exact closesPasses_story rfl n
  · exact fired?_story (initial registry inputs rules config) n
  · rw [← asserted?_story, sequence]
  · exact log_story (initial registry inputs rules config) n
  · exact countP_isTerminal_story (initial registry inputs rules config) n

end Solver

end ForwardChaining
