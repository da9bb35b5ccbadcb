import ForwardChaining.Proofs.Presentation.Pausing
import ForwardChaining.Proofs.Solver.Chronicle

/-!
# Numbers of facts

If facts are numbered, the lines that a presentation writes number them by their places in the final
memory, one after another from 1 on (`Presentation.numbered_after`): those of the memory that the
run starts with, and then those that each step asserts, since a step adds to the memory just what it
asserts.  Pauses have no part in it, and a sink that refuses a line only cuts the lines short.
-/

namespace ForwardChaining

/-- What a line of a presentation shows. -/
inductive Shown where
  | heading (text : String)
  /-- A rule of the list of rules. -/
  | rule (id : RuleId)
  /-- A fact of the memory that the run starts with, after its number. -/
  | fact (fact : FactId) (number : Nat)
  /-- A rule that is examined without firing. -/
  | skipped (id : RuleId)
  /-- A rule that fires. -/
  | performed (id : RuleId)
  /-- A fact that a rule asserts, after its number. -/
  | asserted (fact : FactId) (number : Nat)
  | verdict (termination : Termination)

/-- The fact that is shown, and its number. -/
def Shown.numbered? : Shown → Option (FactId × Nat)
  | fact f number | asserted f number => some (f, number)
  | _ => none

namespace Solver

/-- What is shown before the first step: the rules and the memory. -/
def opening (s : Solver) : List Shown :=
  .heading "Rules:" :: (List.range s.rules.size).map (fun i => .rule ⟨i⟩)
    ++ .heading "Memory:" :: (s.memory.sequence.zipIdx 1).map fun entry => .fact entry.1 entry.2

/-- What is shown of the next step.  The facts that it asserts have the numbers after those of the
memory. -/
def episode (s : Solver) : List Shown :=
  match s.step.1 with
  | .examined e =>
    if e.performing then
      .performed e.rule
        :: (e.asserted.zipIdx (s.memory.size + 1)).map fun entry => .asserted entry.1 entry.2
    else [.skipped e.rule]
  | .succeeded => [.verdict .succeeded]
  | .failed deadlock => [.verdict (.failed deadlock)]

/-- What is shown up to the end of the given number of steps. -/
def script (s : Solver) : Nat → List Shown
  | 0 => s.opening
  | n + 1 => s.script n ++ (s.afterSteps n).episode

variable {s : Solver}

/-! ### The numbers of a script -/

theorem size_step (s : Solver) :
  s.step.2.memory.size = s.memory.size + s.step.1.asserted.length
  := by
  have sequence := s.memory.sequence_assertAll s.step.1.asserted
  rw [← memory_step] at sequence
  have length := congrArg List.length sequence
  rw [List.length_append, WorkingMemory.sequence, WorkingMemory.sequence, Log.length_toList,
    Log.length_toList] at length
  exact length

theorem numbered_opening (s : Solver) :
  s.opening.filterMap Shown.numbered? = s.memory.sequence.zipIdx 1
  := by
  have rules : ((List.range s.rules.size).map fun i => Shown.rule ⟨i⟩).filterMap Shown.numbered?
      = [] := by
    rw [List.filterMap_map, List.filterMap_eq_nil_iff]
    exact fun _ _ => rfl
  rw [opening, List.filterMap_append, List.filterMap_cons_none rfl, rules,
    List.filterMap_cons_none rfl, List.filterMap_map]
  exact List.filterMap_some

theorem numbered_episode (s : Solver) :
  s.episode.filterMap Shown.numbered? = s.step.1.asserted.zipIdx (s.memory.size + 1)
  := by
  unfold episode
  split
  · rename_i e outcome
    obtain ⟨performing, asserted, -⟩ | ⟨performing, asserted, -⟩ := step_eq_of_examined outcome
    · rw [outcome, performing, if_pos rfl, List.filterMap_cons_none rfl, List.filterMap_map]
      exact List.filterMap_some
    · rw [outcome, performing, if_neg Bool.false_ne_true, Outcome.asserted, asserted]
      rfl
  · rename_i outcome
    rw [outcome]
    rfl
  · rename_i deadlock outcome
    rw [outcome]
    rfl

/-- The facts of a script are those of the memory that it leads to, numbered from 1 on. -/
theorem numbered_script (s : Solver) (n : Nat) :
  (s.script n).filterMap Shown.numbered? = (s.afterSteps n).memory.sequence.zipIdx 1
  := by
  induction n with
  | zero => exact s.numbered_opening
  | succ n ih =>
    have length : (s.afterSteps n).memory.sequence.length = (s.afterSteps n).memory.size :=
      Log.length_toList _
    rw [script, List.filterMap_append, ih, numbered_episode, afterSteps, memory_step,
      WorkingMemory.sequence_assertAll, List.zipIdx_append, length, Nat.add_comm 1]

end Solver

/-! ### Lines -/

/-- The text, if the emission is one on standard output. -/
def Emission.text? : Emission → Option String
  | text s => some s
  | _ => none

/-- The line that shows it, with numbers before facts. -/
def Shown.line (p : Presentation) : Shown → String
  | heading text => p.styles.paint p.styles.heading text
  | rule id => "  " ++ p.ruleLine id
  | fact f number =>
    "  " ++ (p.config.factMark ++ toString number ++ ". " ++ p.solver.registry.displayName f)
  | skipped id => "> " ++ p.styles.paint p.styles.current (p.ruleLine id)
  | performed id => "* " ++ p.styles.paint p.styles.performed (p.ruleLine id)
  | asserted f number =>
    "    + " ++ p.styles.paint p.styles.fact
      (p.config.factMark ++ toString number ++ ". " ++ p.solver.registry.displayName f)
  | verdict termination => p.verdictLine termination

/-- What stands before a fact in a line: space, and the escape sequence of facts before one that a
rule asserts. -/
inductive Shown.Opens (p : Presentation) : Shown → String → Prop where
  | fact (f : FactId) (number : Nat) : Opens p (.fact f number) "  "
  | asserted (f : FactId) (number : Nat) : Opens p (.asserted f number) ("    + " ++ p.styles.fact)

/-- A line that shows a fact with its number has both in it as they are, behind the mark of facts.
Nothing is written after the name but the escape sequence that ends a style. -/
theorem Shown.line_of_numbered {p : Presentation} {shown : Shown} {f : FactId} {number : Nat}
    (numbered : shown.numbered? = some (f, number)) :
  ∃ opening closing, shown.Opens p opening ∧ (closing = "" ∨ closing = p.styles.reset)
    ∧ shown.line p = opening
      ++ (p.config.factMark ++ toString number ++ ". " ++ p.solver.registry.displayName f)
      ++ closing
  := by
  cases shown with
  | fact g n =>
    cases numbered
    refine ⟨"  ", "", .fact f number, .inl rfl, ?_⟩
    rw [String.append_empty]
    rfl
  | asserted g n =>
    cases numbered
    refine ⟨_, if p.styles.fact.isEmpty then "" else p.styles.reset, .asserted f number, ?_, ?_⟩
    · split
      · exact .inl rfl
      · exact .inr rfl
    · rw [line, Styles.paint_eq, ← String.append_assoc, ← String.append_assoc]
  | _ => cases numbered

namespace Presentation

variable {p q : Presentation}

theorem line_congr (config : q.config = p.config) (problem : q.solver.problem = p.solver.problem)
    (shown : Shown) :
  shown.line q = shown.line p
  := by
  have registry : q.solver.registry = p.solver.registry := congrArg Solver.Problem.registry problem
  have rules : q.solver.rules = p.solver.rules := congrArg Solver.Problem.rules problem
  cases shown with
  | _ => simp only [Shown.line, styles, ruleLine, verdictLine, Solver.rule?, config, registry, rules]

theorem factLine_of_numbered (numbered : p.config.numberFacts = true) (number : Nat)
    (fact : FactId) :
  p.factLine number fact
    = p.config.factMark ++ toString number ++ ". " ++ p.solver.registry.displayName fact
  := by
  rw [factLine, numbered]
  rfl

theorem factLines_of_numbered (numbered : p.config.numberFacts = true) (first : Nat)
    (facts : List FactId) :
  p.factLines first facts = (facts.zipIdx first).map fun entry =>
    p.config.factMark ++ toString entry.2 ++ ". " ++ p.solver.registry.displayName entry.1
  := by
  rw [factLines, List.mapIdx_eq_zipIdx_map, List.zipIdx_eq_map_add (i := first), List.map_map]
  apply List.map_congr_left
  intro entry _
  exact factLine_of_numbered numbered (first + entry.2) entry.1

theorem initialLines_of_numbered (numbered : p.config.numberFacts = true) :
  p.initialLines = p.solver.opening.map (Shown.line p)
  := by
  simp [initialLines, Solver.opening, factLines_of_numbered numbered, Shown.line, Function.comp_def]

/-- The first number after a step is found by going back from the memory by as many facts as were
asserted. -/
theorem stepLines_of_numbered {s : Solver} {e : Examination} (numbered : p.config.numberFacts = true)
    (solver : p.solver = s.step.2) (outcome : s.step.1 = .examined e) :
  p.stepLines e = s.episode.map (Shown.line p)
  := by
  have first : p.solver.memory.size - e.asserted.length + 1 = s.memory.size + 1 := by
    have size := s.size_step
    rw [← solver, outcome, Outcome.asserted] at size
    omega
  unfold Solver.episode
  rw [outcome]
  dsimp only
  rw [stepLines]
  cases e.performing with
  | false => rfl
  | true =>
    rw [if_pos rfl, if_pos rfl, first]
    dsimp only
    rw [factLines_of_numbered numbered, List.map_map, List.map_cons, List.map_map]
    rfl

/-! ### What is printed -/

/-- The texts given out. -/
def texts (p : Presentation) : List String :=
  p.transcript.filterMap Emission.text?

/-- The lines have been given out, as far as the sink has accepted them. -/
structure Prints (p : Presentation) (lines : List String) : Prop where
  begins : p.texts <+: lines.map (· ++ "\n")
  whole : p.sink.broken = false → p.texts = lines.map (· ++ "\n")

variable {lines : List String}

/-- The lines of a tracer are no texts. -/
theorem texts_withTracer (p : Presentation) (tracer : Tracer) :
  (p.withTracer tracer).texts = p.texts
  := by
  have silent : (Transcript.traceLines p.tracer tracer).filterMap Emission.text? = [] := by
    rw [Transcript.traceLines, List.filterMap_map, List.filterMap_eq_nil_iff]
    exact fun _ _ => rfl
  rw [texts, transcript, withTracer, Log.toList_append, List.filterMap_append, silent,
    List.append_nil]
  rfl

/-- What a step is answered with by effects and by a tracer is no text. -/
theorem texts_advance (p : Presentation) (stage : Stage) :
  (p.advance stage).texts = p.texts
  := by
  have silent : (Transcript.echoes p.solver stage.after).filterMap Emission.text? = [] := by
    rw [Transcript.echoes, List.filterMap_map, List.filterMap_eq_nil_iff]
    exact fun _ _ => rfl
  rw [advance]
  dsimp only
  rw [texts_withTracer, texts, transcript, Log.toList_append, List.filterMap_append, silent,
    List.append_nil]
  rfl

theorem texts_pace (p : Presentation) :
  p.pace.texts = p.texts
  := by
  unfold pace
  split
  · rfl
  · rw [texts, transcript, Log.toList_push, List.filterMap_append]
    exact List.append_nil _

theorem texts_begun (p : Presentation) :
  p.begun.texts = p.texts
  := by
  unfold begun
  split
  · rfl
  · exact texts_withTracer _ _

theorem Prints.of_texts (prints : p.Prints lines) (texts : q.texts = p.texts)
    (sink : q.sink = p.sink) :
  q.Prints lines
  := by
  constructor
  · rw [texts]
    exact prints.begins
  · rw [texts, sink]
    exact prints.whole

theorem Prints.of_eq (texts : p.texts = lines.map (· ++ "\n")) :
  p.Prints lines
  := ⟨⟨[], (List.append_nil _).trans texts⟩, fun _ => texts⟩

theorem Prints.push (prints : p.Prints lines) (unbroken : p.sink.broken = false) (sink : Sink)
    (line : String) :
  Prints { p with sink := sink, output := p.output.push (.line line) } (lines ++ [line])
  := by
  apply Prints.of_eq
  rw [texts, transcript, Log.toList_push, List.filterMap_append, List.map_append]
  exact congrArg (· ++ [line ++ "\n"]) (prints.whole unbroken)

/-- Nothing more is demanded of a sink that has refused a line. -/
theorem Prints.of_broken (prints : p.Prints lines) {sink : Sink} (broken : sink.broken = true)
    (more : List String) :
  Prints { p with sink := sink } (lines ++ more)
  := by
  constructor
  · rw [List.map_append]
    exact prints.begins.trans (List.prefix_append _ _)
  · intro unbroken
    have unbroken : sink.broken = false := unbroken
    rw [broken] at unbroken
    cases unbroken

theorem Prints.writeLines (prints : p.Prints lines) (more : List String) :
  (p.writeLines more).1.Prints (lines ++ more)
  := by
  induction more generalizing p lines with
  | nil =>
    rw [List.append_nil]
    exact prints
  | cons line more ih =>
    have kept : (p.sink.offer (line ++ "\n")).1.broken = false → p.sink.broken = false :=
      fun unbroken => (Bool.or_eq_false_iff.mp unbroken).1
    have accepted : (p.sink.offer (line ++ "\n")).2 = !(p.sink.offer (line ++ "\n")).1.broken := rfl
    rw [Presentation.writeLines]
    generalize p.sink.offer (line ++ "\n") = offered at kept accepted
    obtain ⟨sink, answer⟩ := offered
    dsimp only at kept accepted ⊢
    rw [accepted]
    cases broken : sink.broken with
    | false =>
      rw [List.append_cons]
      exact ih (prints.push (kept broken) sink line)
    | true => exact prints.of_broken broken (line :: more)

theorem writeLines_keeps (p : Presentation) (lines : List String) :
  (p.writeLines lines).1.solver = p.solver ∧ (p.writeLines lines).1.config = p.config
  := by
  induction lines generalizing p with
  | nil => exact ⟨rfl, rfl⟩
  | cons line lines ih =>
    rw [writeLines]
    generalize p.sink.offer (line ++ "\n") = offered
    obtain ⟨sink, accepted⟩ := offered
    cases accepted with
    | false => exact ⟨rfl, rfl⟩
    | true => exact ih { p with sink := sink, output := p.output.push (.line line) }

/-! ### The run -/

/-- From the state `start`, nothing of which had been shown, the presentation has come `n` steps
far, and it has printed what is shown of them. -/
structure Presents (start p : Presentation) (n : Nat) : Prop where
  solver : p.solver = start.solver.afterSteps n
  config : p.config = start.config
  prints : p.Prints ((start.solver.script n).map (Shown.line start))

variable {start : Presentation} {n : Nat} {s : Solver} {requests : Nat → Bool}

theorem Presents.of_texts (presents : start.Presents p n) (solver : q.solver = p.solver)
    (config : q.config = p.config) (texts : q.texts = p.texts) (sink : q.sink = p.sink) :
  start.Presents q n
  := ⟨solver.trans presents.solver, config.trans presents.config, presents.prints.of_texts texts sink⟩

/-- The lines that are written of a stage, after it has been taken up. -/
def stageLines (p : Presentation) (outcome : Outcome) : List String :=
  outcome.examination?.elim (outcome.termination?.toList.map p.verdictLine) p.stepLines

theorem stageLines_of_numbered (numbered : p.config.numberFacts = true)
    (solver : p.solver = s.step.2) :
  p.stageLines s.step.1 = s.episode.map (Shown.line p)
  := by
  cases outcome : s.step.1 with
  | examined e => exact stepLines_of_numbered numbered solver outcome
  | succeeded =>
    rw [Solver.episode, outcome]
    rfl
  | failed deadlock =>
    rw [Solver.episode, outcome]
    rfl

theorem Presents.write (presents : start.Presents p n) (numbered : start.config.numberFacts = true)
    (solver : p.solver = s) :
  let advanced := p.advance ⟨s.step.1, s.step.2⟩
  start.Presents (advanced.writeLines (advanced.stageLines s.step.1)).1 (n + 1)
  := by
  intro advanced
  have config : advanced.config = start.config := presents.config
  have came : start.solver.afterSteps n = s := presents.solver.symm.trans solver
  have problem : advanced.solver.problem = start.solver.problem := by
    have here : advanced.solver = s.step.2 := rfl
    rw [here, Solver.problem_step, ← came, Solver.problem_afterSteps]
  have shown : advanced.stageLines s.step.1 = s.episode.map (Shown.line start) := by
    rw [stageLines_of_numbered (config ▸ numbered) rfl]
    apply List.map_congr_left
    exact fun shown _ => line_congr config problem shown
  obtain ⟨kept, settings⟩ := writeLines_keeps advanced (advanced.stageLines s.step.1)
  constructor
  · rw [kept, Solver.afterSteps, came]
    rfl
  · rw [settings, config]
  · rw [Solver.script, came, List.map_append, ← shown]
    apply Prints.writeLines
    exact presents.prints.of_texts (texts_advance p _) rfl

theorem Presents.pace (presents : start.Presents p n) :
  start.Presents p.pace n
  := by
  have kept : p.pace.solver = p.solver ∧ p.pace.config = p.config ∧ p.pace.sink = p.sink := by
    unfold Presentation.pace
    split
    · exact ⟨rfl, rfl, rfl⟩
    · exact ⟨rfl, rfl, rfl⟩
  exact presents.of_texts kept.1 kept.2.1 (texts_pace p) kept.2.2

theorem Presents.notify (presents : start.Presents p n) (termination : Termination) :
  start.Presents (p.notify termination) n
  := by
  unfold Presentation.notify
  split
  · exact presents
  · exact presents.of_texts rfl rfl rfl rfl

theorem Presents.begun (presents : start.Presents p n) :
  start.Presents p.begun n
  := by
  have kept : p.begun.solver = p.solver ∧ p.begun.config = p.config ∧ p.begun.sink = p.sink := by
    unfold Presentation.begun
    split
    · exact ⟨rfl, rfl, rfl⟩
    · exact ⟨rfl, rfl, rfl⟩
  exact presents.of_texts kept.1 kept.2.1 (texts_begun p) kept.2.2

/-- When a stage has been written, the sink has refused a line, the verdict is noticed, or the rest
follows. -/
theorem follow_of_unpaused (unasked : (p.paused || requests 0) = false) (stage : Stage)
    (rest : List Stage) :
  let written := ((p.advance stage).writeLines ((p.advance stage).stageLines stage.outcome)).1
  (p.follow requests (stage :: rest)).1 = written
    ∨ (∃ termination, (p.follow requests (stage :: rest)).1 = written.notify termination)
    ∨ (p.follow requests (stage :: rest)).1
      = (written.pace.follow (fun step => requests (step + 1)) rest).1
  := by
  obtain ⟨ongoing, unrequested⟩ := Bool.or_eq_false_iff.mp unasked
  rw [follow, unrequested, if_neg Bool.false_ne_true, ongoing]
  dsimp only
  rw [if_neg Bool.false_ne_true, stageLines]
  cases stage.outcome.examination? with
  | some e =>
    dsimp only [Option.elim]
    generalize (p.advance stage).writeLines _ = result
    obtain ⟨q, answer⟩ := result
    cases answer with
    | ok _ => exact Or.inr (Or.inr rfl)
    | error _ => exact Or.inl rfl
  | none =>
    dsimp only [Option.elim]
    generalize (p.advance stage).writeLines _ = result
    obtain ⟨q, answer⟩ := result
    cases answer with
    | ok _ =>
      cases stage.outcome.termination? with
      | none => exact Or.inl rfl
      | some termination => exact Or.inr (Or.inl ⟨termination, rfl⟩)
    | error _ => exact Or.inl rfl

/-- A stage is presented as a whole, or not at all. -/
theorem Presents.stage (presents : start.Presents p n) (numbered : start.config.numberFacts = true)
    (solver : p.solver = s) (requests : Nat → Bool) (rest : List Stage) :
  (∃ m, start.Presents (p.follow requests (⟨s.step.1, s.step.2⟩ :: rest)).1 m)
    ∨ ∃ q requests', start.Presents q (n + 1)
      ∧ (p.follow requests (⟨s.step.1, s.step.2⟩ :: rest)).1 = (q.follow requests' rest).1
  := by
  cases asked : p.paused || requests 0 with
  | true =>
    rw [follow_of_paused asked]
    exact Or.inl ⟨n, presents.of_texts rfl rfl rfl rfl⟩
  | false =>
    have written := presents.write numbered solver
    obtain refused | ⟨termination, noticed⟩ | goesOn :=
      follow_of_unpaused asked ⟨s.step.1, s.step.2⟩ rest
    · rw [refused]
      exact Or.inl ⟨n + 1, written⟩
    · rw [noticed]
      exact Or.inl ⟨n + 1, written.notify termination⟩
    · exact Or.inr ⟨_, _, written.pace, goesOn⟩

/-- Whatever requests for pauses there are, a part of the run is presented. -/
theorem presents_follow (numbered : start.config.numberFacts = true) (s : Solver)
    (solver : p.solver = s) (presents : start.Presents p n) (requests : Nat → Bool) :
  ∃ m, start.Presents (p.follow requests s.stages).1 m
  := by
  induction s using Solver.stages_induction generalizing p n requests with
  | verdict s verdict =>
    rw [Solver.stages_of_verdict verdict]
    obtain stopped | ⟨q, requests', presented, goesOn⟩ := presents.stage numbered solver requests []
    · exact stopped
    · rw [goesOn]
      exact ⟨n + 1, presented⟩
  | unended s unended ih =>
    rw [Solver.stages_of_unended unended]
    obtain stopped | ⟨q, requests', presented, goesOn⟩ :=
      presents.stage numbered solver requests s.step.2.stages
    · exact stopped
    · rw [goesOn]
      apply ih _ presented
      rw [presented.solver, Solver.afterSteps, ← presents.solver, solver]

theorem Presents.act (presents : start.Presents p n) (numbered : start.config.numberFacts = true)
    (act : Act) :
  ∃ m, start.Presents (p.act act).1 m
  := by
  cases act with
  | pause => exact ⟨n, presents.of_texts rfl rfl rfl rfl⟩
  | resume => exact ⟨n, presents.of_texts rfl rfl rfl rfl⟩
  | solve requests =>
    have solver : p.begun.solver = p.solver := by
      unfold Presentation.begun
      split
      · rfl
      · rfl
    exact presents_follow numbered p.solver solver presents.begun requests

/-- What is written first is what is shown before the first step. -/
theorem presents_showInitial (numbered : start.config.numberFacts = true)
    (new : start.output = .empty) :
  start.Presents start.showInitial.1 0
  := by
  have texts : start.texts = [] := by
    rw [Presentation.texts, transcript, new]
    rfl
  have prints : start.Prints [] := .of_eq texts
  obtain ⟨solver, config⟩ := writeLines_keeps start start.initialLines
  refine ⟨solver, config, ?_⟩
  rw [Solver.script, ← initialLines_of_numbered numbered]
  exact prints.writeLines start.initialLines

theorem presents_after (numbered : start.config.numberFacts = true)
    (new : start.output = .empty) (acts : List Act) :
  ∃ n, start.Presents (start.showInitial.1.after acts) n
  := by
  induction acts using List.reverseRecOn with
  | nil => exact ⟨0, presents_showInitial numbered new⟩
  | append_singleton acts act ih =>
    obtain ⟨n, presents⟩ := ih
    rw [after_concat]
    exact presents.act numbered act

theorem accepts_after (accepts : p.Accepts) (acts : List Act) :
  (p.showInitial.1.after acts).Accepts
  := by
  obtain ⟨q, shown, keeps, -⟩ := keeps_writeLines accepts p.initialLines
  rw [showInitial, shown]
  cases q.comes keeps.accepts acts with
  | underway underway => exact underway.keeps.accepts
  | ended ended => exact ended.accepts

/-- However a presentation is paused and resumed, the lines that it has written number the facts of
the memory by their places, one after another from 1 on, up to the first line that the sink has
refused.  What a step asserts is never more than the memory then holds, which is how its numbers are
found. -/
theorem numbered_after (s : Solver) (c : PresentationConfig) (tracer : Tracer) (sink : Sink)
    (acts : List Act) :
  let start := create s { c with numberFacts := true } tracer sink
  let p := start.showInitial.1.after acts
  (∃ n, p.solver = s.afterSteps n
      ∧ p.Prints ((s.script n).map (Shown.line start))
      ∧ (s.script n).filterMap Shown.numbered? = p.solver.memory.sequence.zipIdx 1)
    ∧ (start.Accepts → p.sink.broken = false)
    ∧ ∀ n, (s.afterSteps n).step.1.asserted.length ≤ (s.afterSteps n).step.2.memory.size
  := by
  intro start p
  have presented : ∃ n, start.Presents p n := presents_after rfl rfl acts
  obtain ⟨n, presents⟩ := presented
  refine ⟨⟨n, presents.solver, presents.prints, ?_⟩, ?_, ?_⟩
  · rw [presents.solver]
    exact s.numbered_script n
  · exact fun accepts => (accepts_after accepts acts).unbroken
  · intro n
    rw [Solver.size_step]
    exact Nat.le_add_left _ _

/-! ### The chain, with a pause -/

/-- The chain, to be shown in colours and with numbers before its facts. -/
def chainStart : Presentation :=
  create (Solver.chain {}) { numberFacts := true }

/-- The chain is shown up to its fourth step, before which someone asks for a pause. -/
def chainPaused : Presentation :=
  (chainStart.showInitial.1.solve fun step => step == 3).1

/-- What remains of the chain is shown as well, and then the owner pauses it, to no effect. -/
def chainActs : List Act :=
  [.solve fun step => step == 3, .resume, .solve fun _ => false, .pause]

/-- The stages of the chain after `n` steps: the steps up to the seventh, which has a verdict. -/
theorem stages_chain {n k : Nat} (seventh : n + k = 6) :
  ((Solver.chain {}).afterSteps n).stages
    = (List.range' n (k + 1)).map fun j =>
      ⟨((Solver.chain {}).afterSteps j).step.1, (Solver.chain {}).afterSteps (j + 1)⟩
  := by
  induction k generalizing n with
  | zero =>
    obtain rfl : n = 6 := seventh
    rw [Solver.stages_of_verdict (by decide +kernel)]
    rfl
  | succ k ih =>
    have unended : ∀ n < 6, ((Solver.chain {}).afterSteps n).step.1.isTerminal = false := by
      decide +kernel
    have rest : ((Solver.chain {}).afterSteps n).step.2 = (Solver.chain {}).afterSteps (n + 1) := rfl
    rw [Solver.stages_of_unended (unended n (by omega)), rest, ih (by omega)]
    rfl

/-- The first three steps are shown, as steps of a run that has four more. -/
theorem chainPaused_eq :
  chainPaused = (chainStart.showInitial.1.begun.follow (fun step => step == 3)
    ((List.range' 0 7).map fun j =>
      ⟨((Solver.chain {}).afterSteps j).step.1, (Solver.chain {}).afterSteps (j + 1)⟩)).1
  := by
  rw [← stages_chain (show 0 + 6 = 6 from rfl)]
  rfl

theorem numbered_after_chain :
  let p := chainStart.showInitial.1.after chainActs
  (∃ n, p.solver = (Solver.chain {}).afterSteps n
      ∧ p.Prints (((Solver.chain {}).script n).map (Shown.line chainStart))
      ∧ ((Solver.chain {}).script n).filterMap Shown.numbered? = p.solver.memory.sequence.zipIdx 1)
    ∧ p.texts = ["\x1b[1mRules:\x1b[0m\n", "  R1. If X, then A.\n", "  R2. If B, then C.\n",
      "  R3. If A, then B.\n", "\x1b[1mMemory:\x1b[0m\n", "  F1. A\n",
      "> \x1b[33mR1. If X, then A.\x1b[0m\n", "> \x1b[33mR2. If B, then C.\x1b[0m\n",
      "* \x1b[1;32mR3. If A, then B.\x1b[0m\n", "    + \x1b[36mF2. B\x1b[0m\n",
      "> \x1b[33mR1. If X, then A.\x1b[0m\n", "* \x1b[1;32mR2. If B, then C.\x1b[0m\n",
      "    + \x1b[36mF3. C\x1b[0m\n", "> \x1b[33mR1. If X, then A.\x1b[0m\n",
      "\x1b[31mFailed: no progress possible; rules #1 can never be satisfied.\x1b[0m\n"]
  := by
  obtain ⟨presented, -⟩ := numbered_after (Solver.chain {}) {} .create {} chainActs
  apply And.intro presented
  have there : chainPaused.solver = (Solver.chain {}).afterSteps 3 := by
    rw [chainPaused_eq]
    decide +kernel
  have ended : chainStart.showInitial.1.after chainActs
    = (chainPaused.resume.begun.follow (fun _ => false) chainPaused.solver.stages).1.pause := rfl
  rw [ended, there, stages_chain (show 3 + 3 = 6 from rfl), chainPaused_eq]
  decide +kernel

end Presentation

end ForwardChaining
