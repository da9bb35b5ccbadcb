import Mathlib.Data.List.Forall2
import Mathlib.Tactic.Common
import ForwardChaining.Proofs.Solver.Chronicle
import ForwardChaining.Session.Basic

/-!
# Driving a run by command lines

The commands of a session drive its solver as calls from outside would
(`Session.driven_as_called`).  A line asks for at most one move of the solver (`Move.ofLine?`), and
the session makes that move and no other.  What the calls do is said by loops over single steps
(`Solver.Calls`), so that the pass and the run of a session are measured against loops that know
nothing of its stages.  What is printed for a step is spelled out, word for word
(`Session.Describes`).
-/

namespace ForwardChaining

/-! ### What a line asks for -/

/-- The move that a command line asks for: its first word names the move, and a rewind needs the
number of a step. -/
def Move.ofLine? (line : String) : Option Move :=
  let words := firstWord (Text.trim line.toList)
  if words.1 = "step" then some .step
  else if words.1 = "iterate" then some .iterate
  else if words.1 = "run" then some .run
  else if words.1 = "rewind" then (Text.readNat? Text.limit64 words.2).map .rewind
  else none

/-- The move that a command makes. -/
def Command.move? : Command → Option Move
  | .step => some .step
  | .iterate => some .iterate
  | .run => some .run
  | .rewind n => some (.rewind n)
  | _ => none

/-- A line asks for the move of the command that it is read as. -/
theorem Move.ofLine?_eq (line : String) :
  Move.ofLine? line = (Command.parse line).toOption.bind Command.move?
  := by
  unfold Move.ofLine? Command.parse
  generalize firstWord (Text.trim line.toList) = words
  generalize left : (if words.1 = "step" then _ else _) = asked
  split
  case h_8 rest =>
    rw [← left]
    cases Text.readNat? Text.limit64 rest <;> rfl
  case h_10 rest =>
    rw [← left]
    cases TraceCommand.parse rest <;> rfl
  case h_9 rest =>
    rw [← left]
    cases rest.isEmpty <;> rfl
  case h_11 rest =>
    rw [← left]
    cases rest.isEmpty <;> rfl
  case h_13 => simp_all [Except.toOption]
  all_goals
    rw [← left]
    rfl

/-! ### Calls from outside -/

namespace Solver

/-- A loop over single steps: as long as `goesOn` holds another step is taken, and the first step
that reports a verdict is the last.  It gives the outcomes, in order, and the solver in the end. -/
inductive Loops (goesOn : Solver → Prop) : Solver → List Outcome → Solver → Prop where
  | done {s : Solver} (stops : ¬ goesOn s) : Loops goesOn s [] s
  | verdict {s : Solver} (entered : goesOn s) (reported : s.step.1.isTerminal = true) :
    Loops goesOn s [s.step.1] s.step.2
  | again {s t : Solver} {outcomes : List Outcome} (entered : goesOn s)
    (silent : s.step.1.isTerminal = false) (rest : Loops goesOn s.step.2 outcomes t) :
    Loops goesOn s (s.step.1 :: outcomes) t

/-- The outcomes of a move that takes steps, and the solver after it. -/
inductive Calls (s : Solver) : Move → List Outcome → Solver → Prop where
  | step : Calls s .step [s.step.1] s.step.2
  /-- Steps are taken while the pass is the one that was current at first. -/
  | iterate {outcomes : List Outcome} {t : Solver}
    (loop : Loops (fun u => u.iteration = s.iteration) s outcomes t) : Calls s .iterate outcomes t
  | run {outcomes : List Outcome} {t : Solver} (loop : Loops (fun _ => True) s outcomes t) :
    Calls s .run outcomes t

variable {s : Solver}

/-- The stages up to where a loop stops are what the loop goes through, if it is entered. -/
theorem loops_stagesUntil {goesOn : Solver → Prop} {stop : Solver → Bool}
    (stops : ∀ u, stop u = true ↔ ¬ goesOn u) (entered : goesOn s) :
  Loops goesOn s ((s.stagesUntil stop).map (·.outcome)) (s.afterStages (s.stagesUntil stop))
  := by
  revert entered
  apply stagesUntil_induction (P := fun s stages =>
    goesOn s → Loops goesOn s (stages.map (·.outcome)) (s.afterStages stages))
  · intro s ended entered
    cases reported : s.step.1.isTerminal with
    | true => apply Loops.verdict entered reported
    | false =>
      rw [reported, Bool.false_or, stops] at ended
      apply Loops.again entered reported
      apply Loops.done ended
  · intro s unended ih entered
    rw [ne_eq, Bool.or_eq_true, not_or, stops, not_not] at unended
    obtain ⟨silent, next⟩ := unended
    rw [afterStages_cons]
    apply Loops.again entered (Bool.eq_false_iff.mpr silent)
    apply ih next

/-- To complete a pass is to step while it is current. -/
theorem calls_iterate (s : Solver) :
  s.Calls .iterate s.iterate.1 s.iterate.2
  := by
  apply Calls.iterate
  apply loops_stagesUntil
  · intro u
    apply bne_iff_ne
  · rfl

/-- To run to the end is to step until a verdict is reported. -/
theorem calls_run (s : Solver) :
  s.Calls .run (s.stages.map (·.outcome)) s.run.2
  := by
  rw [run_snd]
  apply Calls.run
  apply loops_stagesUntil
  · intro u
    simp
  · trivial

/-- All stages of a run are about one problem. -/
theorem problem_of_mem_stagesUntil {stop : Solver → Bool} {stage : Stage}
    (member : stage ∈ s.stagesUntil stop) :
  stage.after.problem = s.problem
  := by
  revert member
  apply stagesUntil_induction (P := fun s stages =>
    stage ∈ stages → stage.after.problem = s.problem)
  · intro s _ member
    obtain rfl := List.mem_singleton.mp member
    apply problem_step
  · intro s _ ih member
    obtain rfl | later := List.mem_cons.mp member
    · apply problem_step
    · rw [ih later, problem_step]

end Solver

namespace Session

variable {s : Session}

/-! ### Descriptions -/

/-- The sentence by which a rule of a solver is told: its conditions and conclusions, by name. -/
inductive Tells (s : Solver) (id : RuleId) : String → Prop where
  | always {rule : Rule} (found : s.rule? id = some rule) (unconditional : rule.conditions = []) :
    Tells s id ("If true, then "
      ++ " and ".intercalate (rule.conclusions.map s.registry.displayName) ++ ".")
  | given {rule : Rule} (found : s.rule? id = some rule) (conditional : rule.conditions ≠ []) :
    Tells s id ("If " ++ " and ".intercalate (rule.conditions.map s.registry.displayName)
      ++ ", then " ++ " and ".intercalate (rule.conclusions.map s.registry.displayName) ++ ".")
  | unknown (missing : s.rule? id = none) : Tells s id ""

/-- The text by which an outcome is described. -/
inductive Describes (styles : Styles) (s : Solver) : Outcome → String → Prop where
  /-- A rule that fired is told by its number and its sentence; below it each of the asserted facts
  has a line. -/
  | fired {step : Examination} {sentence : String} (performing : step.performing = true)
    (told : Tells s step.rule sentence) :
    Describes styles s (.examined step)
      (styles.paint styles.performed "fired" ++ " #" ++ toString (step.rule.index + 1) ++ " "
        ++ sentence
        ++ String.join (step.asserted.map fun fact =>
          "\n  + " ++ styles.paint styles.fact (s.registry.displayName fact)))
  /-- A rule that was passed over is told by its number and its sentence. -/
  | skipped {step : Examination} {sentence : String} (passed : step.performing = false)
    (told : Tells s step.rule sentence) :
    Describes styles s (.examined step)
      (styles.paint styles.current "skipped" ++ " #" ++ toString (step.rule.index + 1) ++ " "
        ++ sentence)
  | succeeded : Describes styles s .succeeded (styles.paint styles.success "Solved.")
  /-- A failure names the rules that are left. -/
  | failed (deadlock : Deadlock) :
    Describes styles s (.failed deadlock)
      (styles.paint styles.failure ("Failed: no progress possible; rules"
        ++ String.join (deadlock.unsatisfied.map fun id => " #" ++ toString (id.index + 1))
        ++ " can never be satisfied."))

/-- A rule is told by its sentence. -/
theorem tells_describe (s : Solver) (id : RuleId) :
  Tells s id ((s.rule? id).elim "" fun rule => rule.describe s.registry)
  := by
  cases found : s.rule? id with
  | none => apply Tells.unknown found
  | some rule =>
    rw [Option.elim_some, Rule.describe, Wording.list, Wording.list]
    by_cases unconditional : rule.conditions = []
    · rw [unconditional]
      apply Tells.always found unconditional
    · rw [if_neg (by rwa [List.isEmpty_iff])]
      convert Tells.given found unconditional using 1
      simp [← String.toList_inj]

/-- A rule is referred to by its number. -/
theorem space_describe (id : RuleId) :
  " " ++ id.describe = " #" ++ toString (id.index + 1)
  := by
  simp [← String.toList_inj, RuleId.describe, RuleId.number]

/-- A failure is told with the numbers of the rules that are left. -/
theorem failed_describe (deadlock : Deadlock) :
  "Failed: " ++ deadlock.describe ++ "."
    = "Failed: no progress possible; rules"
      ++ String.join (deadlock.unsatisfied.map fun id => " #" ++ toString (id.index + 1))
      ++ " can never be satisfied."
  := by
  unfold Deadlock.describe
  rw [funext space_describe]
  generalize String.join _ = numbers
  simp [← String.toList_inj]

/-- An outcome is described as it should be. -/
theorem describes_describeOutcome (styles : Styles) (s : Solver) (outcome : Outcome) :
  Describes styles s outcome (describeOutcome styles s outcome)
  := by
  cases outcome with
  | examined step =>
    have told := tells_describe s step.rule
    rw [describeOutcome, space_describe]
    generalize (s.rule? step.rule).elim "" _ = sentence at told
    cases performing : step.performing with
    | true =>
      convert Describes.fired performing told using 1
      simp [← String.append_assoc]
    | false =>
      convert Describes.skipped performing told using 1
      simp [← String.append_assoc]
  | succeeded => apply Describes.succeeded
  | failed deadlock =>
    have described : Describes styles s (.failed deadlock) _ := Describes.failed deadlock
    rw [← failed_describe] at described
    apply described

/-- The wording of an outcome depends on the rules and their facts only. -/
theorem describeOutcome_congr (styles : Styles) {u v : Solver} (same : u.problem = v.problem) :
  describeOutcome styles u = describeOutcome styles v
  := by
  have registry : u.registry = v.registry := congrArg Solver.Problem.registry same
  have rules : u.rules = v.rules := congrArg Solver.Problem.rules same
  funext outcome
  cases outcome with
  | examined e => simp only [describeOutcome, Solver.rule?, registry, rules]
  | succeeded => rfl
  | failed d => rfl

/-- The text has a description for each of the outcomes, in order, each of which begins a line. -/
def Recounts (s : Session) (outcomes : List Outcome) (text : String) : Prop :=
  ∃ descriptions, List.Forall₂ (Describes s.styles s.solver) outcomes descriptions
    ∧ text = "\n".intercalate descriptions

/-- What is printed for stages of a run describes their outcomes. -/
theorem follow_stages (s : Session) {stages : List Stage}
    (ofRun : ∀ stage ∈ stages, stage.after.problem = s.solver.problem) :
  ∃ text, (s.follow stages).2 = .ok (.text text) ∧ s.Recounts (stages.map (·.outcome)) text
  := by
  refine ⟨_, rfl, _, ?_, rfl⟩
  rw [List.forall₂_map_left_iff, List.forall₂_map_right_iff, List.forall₂_same]
  intro stage member
  rw [describeOutcome_congr s.styles (ofRun stage member)]
  apply describes_describeOutcome

/-! ### Commands -/

/-- A command makes the move that it asks for, and no other. -/
theorem solver_perform (s : Session) (command : Command) :
  (s.perform command).1.solver = command.move?.elim s.solver s.solver.afterMove
  := by
  cases command with
  | run => apply s.solver.run_snd.symm
  | rewind n =>
    rw [perform, rewind]
    cases rewound : s.solver.rewind n with
    | error e => apply (Solver.afterMove_rewind_error rewound).symm
    | ok restored => apply (Solver.afterMove_rewind rewound).symm
  | trace command => cases command <;> rfl
  | _ => rfl

/-- A command that asks for steps is answered by their outcomes. -/
theorem outcomes_perform {command : Command} {move : Move} (asked : command.move? = some move)
    (forward : ∀ n, move ≠ .rewind n) :
  ∃ outcomes, s.solver.Calls move outcomes (s.perform command).1.solver
    ∧ ∃ text, (s.perform command).2 = .ok (.text text) ∧ s.Recounts outcomes text
  := by
  rw [solver_perform, asked]
  cases command with
  | step =>
    cases asked
    use [s.solver.step.1]
    constructor
    · apply Solver.Calls.step
    · apply s.follow_stages
      intro stage member
      obtain rfl := List.mem_singleton.mp member
      apply s.solver.problem_step
  | iterate =>
    cases asked
    use s.solver.iterate.1
    constructor
    · apply s.solver.calls_iterate
    · apply s.follow_stages
      intro stage
      apply Solver.problem_of_mem_stagesUntil
  | run =>
    cases asked
    use s.solver.stages.map (·.outcome)
    constructor
    · apply s.solver.calls_run
    · apply s.follow_stages
      intro stage
      apply Solver.problem_of_mem_stagesUntil
  | rewind n =>
    cases asked
    exact absurd rfl (forward n)
  | _ => cases asked

/-- A command that fails leaves the session as it was, and so does one that asks for a record to be
saved. -/
theorem perform_of_idle {command : Command}
    (idle : (∃ e, (s.perform command).2 = .error e)
      ∨ ∃ path record, (s.perform command).2 = .ok (.save path record)) :
  (s.perform command).1 = s
  := by
  cases command with
  | step | iterate | run =>
    obtain ⟨e, failed⟩ | ⟨path, record, saves⟩ := idle
    · cases failed
    · cases saves
  | rewind n =>
    rw [perform, rewind] at idle ⊢
    cases rewound : s.solver.rewind n with
    | error e => rfl
    | ok restored =>
      rw [rewound] at idle
      obtain ⟨e, failed⟩ | ⟨path, record, saves⟩ := idle
      · cases failed
      · cases saves
  | trace command =>
    cases command with
    | status | showLatest => rfl
    | setEnabled | setJson | clear =>
      obtain ⟨e, failed⟩ | ⟨path, record, saves⟩ := idle
      · cases failed
      · cases saves
  | _ => rfl

/-- A rewind is refused for the reason that the solver gives. -/
theorem reply_of_refused {n : Nat} {e : Error} (refused : s.solver.rewind n = .error e) :
  (s.perform (.rewind n)).2 = .error e
  := by
  rw [perform, rewind, refused]

/-- A rewind that succeeds is confirmed. -/
theorem reply_of_rewound {n : Nat} {restored : Solver}
    (rewound : s.solver.rewind n = .ok restored) :
  ∃ text, (s.perform (.rewind n)).2 = .ok (.text text)
  := by
  rw [perform, rewind, rewound]
  exact ⟨_, rfl⟩

/-! ### Lines -/

/-- Evaluation changes the session as the answer does; the disk has no part in it. -/
theorem eval_fst (s : Session) (disk : Disk) (line : String) :
  (s.eval disk line).1 = (s.answer line).1
  := rfl

theorem eval_of_text {line text : String} (disk : Disk)
    (answered : (s.answer line).2 = .ok (.text text)) :
  (s.eval disk line).2.2 = .ok text
  := by
  unfold eval
  generalize s.answer line = answer at answered
  obtain ⟨after, reply⟩ := answer
  cases answered
  rfl

theorem eval_of_error {line : String} {e : Error} (disk : Disk)
    (answered : (s.answer line).2 = .error e) :
  (s.eval disk line).2.2 = .error e
  := by
  unfold eval
  generalize s.answer line = answer at answered
  obtain ⟨after, reply⟩ := answer
  cases answered
  rfl

/-- An error is that of the command, or one of a record that could not be saved. -/
theorem error_of_eval {disk : Disk} {line : String} {e : Error}
    (failed : (s.eval disk line).2.2 = .error e) :
  (∃ e, (s.answer line).2 = .error e)
    ∨ ∃ path record, (s.answer line).2 = .ok (.save path record)
  := by
  cases replied : (s.answer line).2 with
  | error e' =>
    left
    use e'
  | ok reply =>
    right
    cases reply with
    | text text =>
      rw [eval_of_text disk replied] at failed
      cases failed
    | save path record => use path, record

/-- Between the sessions `s` and `after` a line was obeyed that got the given answer. -/
structure Obeys (s : Session) (line : String) (after : Session) (answer : Except Error String) :
    Prop where
  /-- The solver makes the move that the line asks for, and no other. -/
  solver : after.solver = (Move.ofLine? line).elim s.solver s.solver.afterMove
  /-- Steps are answered by a description of each outcome that the call gives. -/
  stepped : ∀ move, Move.ofLine? line = some move → (∀ n, move ≠ .rewind n) →
    ∃ outcomes, s.solver.Calls move outcomes after.solver
      ∧ ∃ text, answer = .ok text ∧ s.Recounts outcomes text
  /-- A rewind is refused if the call fails, for the same reason. -/
  refused : ∀ n e, Move.ofLine? line = some (.rewind n) →
    (answer = .error e ↔ s.solver.rewind n = .error e)
  /-- An error leaves solver and tracer as they were. -/
  unchanged : ∀ e, answer = .error e → after = s

/-- An error leaves the session as it was. -/
theorem eval_of_failed {disk : Disk} {line : String} {e : Error}
    (failed : (s.eval disk line).2.2 = .error e) :
  (s.eval disk line).1 = s
  := by
  rw [eval_fst]
  have idle := error_of_eval failed
  cases parsed : Command.parse line with
  | error problem => rw [answer, parsed]
  | ok command =>
    have answered : s.answer line = s.perform command := by
      rw [answer, parsed]
    rw [answered] at idle ⊢
    apply perform_of_idle idle

/-- A line that is no command asks for no move. -/
theorem obeys_of_not_understood {line : String} {problem : CommandProblem} (disk : Disk)
    (parsed : Command.parse line = .error problem) :
  s.Obeys line (s.eval disk line).1 (s.eval disk line).2.2
  := by
  have asked : Move.ofLine? line = none := by
    rw [Move.ofLine?_eq, parsed]
    rfl
  constructor
  · rw [eval_fst, answer, parsed, asked]
    rfl
  · intro move moves
    rw [asked] at moves
    cases moves
  · intro n e moves
    rw [asked] at moves
    cases moves
  · intro e
    apply eval_of_failed

/-- A line that is a command makes the move of the command. -/
theorem obeys_of_understood {line : String} {command : Command} (disk : Disk)
    (parsed : Command.parse line = .ok command) :
  s.Obeys line (s.eval disk line).1 (s.eval disk line).2.2
  := by
  have asked : Move.ofLine? line = command.move? := by
    rw [Move.ofLine?_eq, parsed]
    rfl
  have answered : s.answer line = s.perform command := by
    rw [answer, parsed]
  constructor
  · rw [eval_fst, answered, asked]
    apply solver_perform
  · intro move moves forward
    rw [asked] at moves
    obtain ⟨outcomes, calls, text, replied, recounts⟩ := outcomes_perform (s := s) moves forward
    rw [← answered] at calls replied
    exact ⟨outcomes, calls, text, eval_of_text disk replied, recounts⟩
  · intro n e moves
    rw [asked] at moves
    have rewinds : command = .rewind n := by
      cases command <;> cases moves
      rfl
    subst rewinds
    cases rewound : s.solver.rewind n with
    | error refusal =>
      have replied := reply_of_refused rewound
      rw [← answered] at replied
      rw [eval_of_error disk replied]
      simp
    | ok restored =>
      obtain ⟨text, replied⟩ := reply_of_rewound rewound
      rw [← answered] at replied
      rw [eval_of_text disk replied]
      simp
  · intro e
    apply eval_of_failed

/-- Every line is obeyed. -/
theorem obeys_eval (s : Session) (disk : Disk) (line : String) :
  s.Obeys line (s.eval disk line).1 (s.eval disk line).2.2
  := by
  cases parsed : Command.parse line with
  | error problem => apply obeys_of_not_understood disk parsed
  | ok command => apply obeys_of_understood disk parsed

/-! ### Sessions -/

/-- A command line, and when it is given, in nanoseconds since the tracer was made. -/
structure TimedLine where
  time : Nat
  text : String

/-- The session, whose tracer is told the time. -/
def atTime (s : Session) (time : Nat) : Session :=
  { s with tracer := s.tracer.atTime time }

/-- Evaluates command lines in order: the session and the disk then, and the answers. -/
def evalAll (s : Session) (disk : Disk) :
    List TimedLine → Session × Disk × List (Except Error String)
  | [] => (s, disk, [])
  | line :: rest =>
    let (s, disk, answer) := (s.atTime line.time).eval disk line.text
    let (s, disk, answers) := s.evalAll disk rest
    (s, disk, answer :: answers)

/-- The lines of a session move its solver as the calls would that they ask for. -/
theorem solver_evalAll (s : Session) (disk : Disk) (lines : List TimedLine) :
  (s.evalAll disk lines).1.solver
    = s.solver.afterMoves (lines.filterMap fun line => Move.ofLine? line.text)
  := by
  induction lines generalizing s disk with
  | nil => rfl
  | cons line lines ih =>
    have first := ((s.atTime line.time).obeys_eval disk line.text).solver
    rw [evalAll]
    generalize (s.atTime line.time).eval disk line.text = evaluated at first
    obtain ⟨after, disk', answer⟩ := evaluated
    refine Eq.trans (ih after disk') ?_
    rw [List.filterMap_cons]
    dsimp only at first
    rw [first]
    cases Move.ofLine? line.text with
    | none => rfl
    | some move => rfl

/-- A session drives its solver as calls from outside would.  Every line is obeyed in every session,
and after any lines the solver is where the calls lead that the lines ask for. -/
theorem driven_as_called (s : Session) (disk : Disk) :
  (∀ line, s.Obeys line (s.eval disk line).1 (s.eval disk line).2.2)
    ∧ ∀ lines, (s.evalAll disk lines).1.solver
      = s.solver.afterMoves (lines.filterMap fun line => Move.ofLine? line.text)
  := by
  constructor
  · apply s.obeys_eval
  · apply s.solver_evalAll

/-! ### A session on the chain -/

/-- A session at the chain, of which all snapshots are kept, with colours and a trace. -/
def chainSession : Session where
  solver := .chain ⟨8, .everyStep⟩
  tracer := .create { enabled := true }
  styles := .ansi

/-- A pass, the rest of the run, the way back into the middle of the pass, two lines that ask for
nothing, and a step from there. -/
def chainLines : List TimedLine :=
  [⟨1, "iterate"⟩, ⟨2, "  run now"⟩, ⟨3, "rewind 2"⟩, ⟨4, "rewind two"⟩, ⟨5, "Step"⟩, ⟨6, "step"⟩]

/-- What is printed for the first pass on the chain. -/
def chainPassText : String :=
  "\x1b[33mskipped\x1b[0m #1 If X, then A.\n\x1b[33mskipped\x1b[0m #2 If B, then C.\n"
    ++ "\x1b[1;32mfired\x1b[0m #3 If A, then B.\n  + \x1b[36mB\x1b[0m"

theorem driven_as_called_chain :
  (chainSession.evalAll ⟨[]⟩ chainLines).1.solver
      = chainSession.solver.afterMoves [.iterate, .run, .rewind 2, .step]
    ∧ (∃ outcomes, chainSession.solver.Calls .iterate outcomes
        (chainSession.eval ⟨[]⟩ "iterate").1.solver
      ∧ chainSession.Recounts outcomes chainPassText)
    ∧ (∃ e, (chainSession.eval ⟨[]⟩ "rewind two").2.2 = .error e)
    ∧ (chainSession.eval ⟨[]⟩ "rewind two").1 = chainSession
  := by
  obtain ⟨obeys, moved⟩ := driven_as_called chainSession ⟨[]⟩
  have refused : ∃ e, (chainSession.eval ⟨[]⟩ "rewind two").2.2 = .error e := ⟨_, rfl⟩
  refine ⟨moved chainLines, ?_, refused, ?_⟩
  · have told : (chainSession.eval ⟨[]⟩ "iterate").2.2 = .ok chainPassText := by
      have answered : (chainSession.eval ⟨[]⟩ "iterate").2.2
        = .ok ("\n".intercalate (chainSession.solver.passStages.map fun stage =>
          describeOutcome .ansi stage.after stage.outcome)) := rfl
      rw [answered, Solver.passStages, Solver.stagesUntil_eq, if_neg (by decide +kernel),
        Solver.stagesUntil_eq, if_neg (by decide +kernel), Solver.stagesUntil_eq,
        if_pos (by decide +kernel)]
      decide +kernel
    obtain ⟨outcomes, calls, text, printed, recounts⟩ :=
      (obeys "iterate").stepped .iterate rfl nofun
    rw [told] at printed
    cases printed
    use outcomes
  · obtain ⟨e, refused⟩ := refused
    apply (obeys "rewind two").unchanged e refused

end Session

end ForwardChaining
