import Mathlib.Tactic.Common
import ForwardChaining.Presentation
import ForwardChaining.Proofs.Solver.Creation
import ForwardChaining.Proofs.Solver.Moves

/-!
# Pauses

A pause cannot be seen in what a presentation gives out, in its solver, in its tracer or in the
notices that it gives (`Presentation.unaffected_by_pauses`).  A presentation without pauses is the
measure (`Presentation.calm`): whenever the run is paused, what is left of it leads to the same end
as the whole run without pauses (`Presentation.Halts`).
-/

namespace ForwardChaining

/-- The notice that is given of a verdict, if someone waits for it. -/
def PresentationConfig.due (c : PresentationConfig) (final : Solver) : Termination → List Notice
  | .succeeded => if c.onSuccess then [.success final] else []
  | .failed deadlock => if c.onFailure then [.failure final deadlock] else []

namespace Presentation

/-- The presentation that nothing pauses, neither its owner nor an effect. -/
def calm (p : Presentation) : Presentation :=
  { p with
    paused := false
    config := { p.config with pauseOn := none } }

/-- All that is written is accepted. -/
structure Accepts (p : Presentation) : Prop where
  unlimited : p.sink.limit = none
  unbroken : p.sink.broken = false

variable {p q r : Presentation} {requests : Nat → Bool} {stage : Stage}

/-! ### The presentation without pauses -/

theorem calm_writeLines (p : Presentation) (lines : List String) :
  p.calm.writeLines lines = ((p.writeLines lines).1.calm, (p.writeLines lines).2)
  := by
  induction lines generalizing p with
  | nil => rfl
  | cons line lines ih =>
    rw [writeLines, writeLines]
    have sink : p.calm.sink = p.sink := rfl
    rw [sink]
    generalize p.sink.offer (line ++ "\n") = offered
    obtain ⟨sink, accepted⟩ := offered
    cases accepted with
    | false => rfl
    | true => exact ih { p with sink := sink, output := p.output.push (.line line) }

theorem calm_advance (p : Presentation) (stage : Stage) :
  p.calm.advance stage = (p.advance stage).calm
  := by
  have undisturbed : p.calm.asksForPause = fun _ => false := rfl
  have unpaused : (p.calm.paused || (stage.after.log.since p.calm.solver.log).any
      p.calm.asksForPause) = false := by
    rw [undisturbed, Bool.or_eq_false_iff]
    constructor
    · rfl
    · apply List.any_eq_false.mpr
      intro _ _
      apply Bool.false_ne_true
  rw [advance, unpaused]
  rfl

theorem calm_pace (p : Presentation) :
  p.calm.pace = p.pace.calm
  := by
  unfold pace
  cases ended : p.solver.isTerminal || p.config.speed = 0 with
  | true =>
    have ended' : (p.calm.solver.isTerminal || p.calm.config.speed = 0) = true := ended
    rw [ended']
    rfl
  | false =>
    have ended' : (p.calm.solver.isTerminal || p.calm.config.speed = 0) = false := ended
    rw [ended']
    rfl

theorem calm_notify (p : Presentation) (termination : Termination) :
  p.calm.notify termination = (p.notify termination).calm
  := by
  unfold notify
  cases reported : p.reported with
  | true =>
    have reported' : p.calm.reported = true := reported
    rw [reported']
    rfl
  | false =>
    have reported' : p.calm.reported = false := reported
    rw [reported']
    cases termination <;> rfl

theorem calm_begun (p : Presentation) :
  p.calm.begun = p.begun.calm
  := by
  unfold begun
  cases traced : p.traced with
  | true =>
    have traced' : p.calm.traced = true := traced
    rw [traced']
    rfl
  | false =>
    have traced' : p.calm.traced = false := traced
    rw [traced']
    rfl

/-! ### What is shown between pauses -/

/-- Between `p` and `q` parts of the run were shown, but not its verdict. -/
structure Keeps (p q : Presentation) : Prop where
  accepts : q.Accepts
  config : q.config = p.config
  reported : q.reported = p.reported
  traced : p.traced = true → q.traced = true
  notices : q.notices = p.notices

theorem Keeps.refl (accepts : p.Accepts) :
  p.Keeps p
  := ⟨accepts, rfl, rfl, id, rfl⟩

theorem Keeps.trans (first : p.Keeps q) (rest : q.Keeps r) :
  p.Keeps r
  := by
  constructor
  · apply rest.accepts
  · apply rest.config.trans first.config
  · apply rest.reported.trans first.reported
  · intro traced
    apply rest.traced (first.traced traced)
  · apply rest.notices.trans first.notices

theorem keeps_writeLines (accepts : p.Accepts) (lines : List String) :
  ∃ q, p.writeLines lines = (q, .ok ()) ∧ p.Keeps q ∧ q.solver = p.solver
  := by
  induction lines generalizing p with
  | nil => exact ⟨p, rfl, Keeps.refl accepts, rfl⟩
  | cons line lines ih =>
    have offered := Sink.offer_of_unlimited accepts.unlimited accepts.unbroken (line ++ "\n")
    have said : p.Keeps { p with
        sink := (p.sink.offer (line ++ "\n")).1, output := p.output.push (.line line) } := by
      rw [offered]
      exact ⟨⟨accepts.unlimited, accepts.unbroken⟩, rfl, rfl, id, rfl⟩
    obtain ⟨q, written, keeps, solver⟩ := ih said.accepts
    use q
    rw [offered] at written
    rw [writeLines, offered]
    exact ⟨written, said.trans keeps, solver⟩

theorem keeps_pause (accepts : p.Accepts) :
  p.Keeps p.pause
  := ⟨⟨accepts.unlimited, accepts.unbroken⟩, rfl, rfl, id, rfl⟩

theorem keeps_resume (accepts : p.Accepts) :
  p.Keeps p.resume
  := ⟨⟨accepts.unlimited, accepts.unbroken⟩, rfl, rfl, id, rfl⟩

theorem keeps_advance (accepts : p.Accepts) (stage : Stage) :
  p.Keeps (p.advance stage)
  := ⟨⟨accepts.unlimited, accepts.unbroken⟩, rfl, rfl, id, rfl⟩

theorem keeps_pace (accepts : p.Accepts) :
  p.Keeps p.pace ∧ p.pace.solver = p.solver
  := by
  unfold pace
  split
  · exact ⟨Keeps.refl accepts, rfl⟩
  · exact ⟨⟨⟨accepts.unlimited, accepts.unbroken⟩, rfl, rfl, id, rfl⟩, rfl⟩

/-- The presentation after a stage that examines a rule was shown. -/
def shown (p : Presentation) (stage : Stage) (e : Examination) : Presentation :=
  ((p.advance stage).writeLines ((p.advance stage).stepLines e)).1.pace

/-- The presentation after the verdict was shown. -/
def concluded (p : Presentation) (stage : Stage) (termination : Termination) : Presentation :=
  ((p.advance stage).writeLines [(p.advance stage).verdictLine termination]).1.notify termination

theorem keeps_shown (accepts : p.Accepts) (stage : Stage) (e : Examination) :
  p.Keeps (p.shown stage e) ∧ (p.shown stage e).solver = stage.after
  := by
  have advanced := keeps_advance accepts stage
  obtain ⟨q, written, keeps, solver⟩ :=
    keeps_writeLines advanced.accepts ((p.advance stage).stepLines e)
  obtain ⟨paced, same⟩ := keeps_pace keeps.accepts
  unfold shown
  rw [written]
  constructor
  · apply (advanced.trans keeps).trans paced
  · apply same.trans solver

theorem calm_shown (p : Presentation) (stage : Stage) (e : Examination) :
  p.calm.shown stage e = (p.shown stage e).calm
  := by
  have lines : (p.advance stage).calm.stepLines e = (p.advance stage).stepLines e := rfl
  unfold shown
  rw [calm_advance, lines, calm_writeLines, calm_pace]

theorem calm_concluded (p : Presentation) (stage : Stage) (termination : Termination) :
  p.calm.concluded stage termination = (p.concluded stage termination).calm
  := by
  have line : (p.advance stage).calm.verdictLine termination
      = (p.advance stage).verdictLine termination := rfl
  unfold concluded
  rw [calm_advance, line, calm_writeLines, calm_notify]

/-- A request for a pause, or one that has been made, ends what is shown before the next step. -/
theorem follow_of_paused (asked : (p.paused || requests 0) = true) (rest : List Stage) :
  p.follow requests (stage :: rest) = (p.pause, .ok none)
  := by
  rw [follow]
  cases requested : requests 0 with
  | true => rfl
  | false =>
    rw [requested, Bool.or_false] at asked
    have same : p.pause = p := by
      rw [pause, ← asked]
    rw [if_neg Bool.false_ne_true, if_pos asked, same]

/-- An examination is shown, and then the rest. -/
theorem follow_of_examined (accepts : p.Accepts) (unasked : (p.paused || requests 0) = false)
    {e : Examination} (outcome : stage.outcome = .examined e) (rest : List Stage) :
  p.follow requests (stage :: rest)
    = (p.shown stage e).follow (fun step => requests (step + 1)) rest
  := by
  obtain ⟨ongoing, unrequested⟩ := Bool.or_eq_false_iff.mp unasked
  obtain ⟨q, written, -⟩ :=
    keeps_writeLines (keeps_advance accepts stage).accepts ((p.advance stage).stepLines e)
  rw [follow, unrequested, if_neg Bool.false_ne_true, ongoing, shown]
  dsimp only
  rw [if_neg Bool.false_ne_true, outcome]
  dsimp only [Outcome.examination?]
  rw [written]

/-- A verdict is shown, and with it the presentation ends. -/
theorem follow_of_verdict (accepts : p.Accepts) (unasked : (p.paused || requests 0) = false)
    {termination : Termination} (reported : stage.outcome.termination? = some termination)
    (rest : List Stage) :
  p.follow requests (stage :: rest) = (p.concluded stage termination, .ok (some termination))
  := by
  obtain ⟨ongoing, unrequested⟩ := Bool.or_eq_false_iff.mp unasked
  obtain ⟨q, written, -⟩ := keeps_writeLines (keeps_advance accepts stage).accepts
    [(p.advance stage).verdictLine termination]
  have unexamined : stage.outcome.examination? = none := by
    cases outcome : stage.outcome with
    | examined e =>
      rw [outcome] at reported
      cases reported
    | succeeded => rfl
    | failed d => rfl
  rw [follow, unrequested, if_neg Bool.false_ne_true, ongoing, concluded]
  dsimp only
  rw [if_neg Bool.false_ne_true, unexamined, reported]
  dsimp only [Option.toList, List.map]
  rw [written]
  rfl

/-! ### Showing the run -/

/-- Between `p` and `q` the solver took steps. -/
def Steps (p q : Presentation) : Prop :=
  ∃ n, p.solver.afterSteps n = q.solver

theorem Steps.trans (first : p.Steps q) (rest : q.Steps r) :
  p.Steps r
  := by
  obtain ⟨m, first⟩ := first
  obtain ⟨n, rest⟩ := rest
  use m + n
  rw [Solver.afterSteps_add, first, rest]

theorem Steps.run (steps : p.Steps q) :
  q.solver.run = p.solver.run
  := by
  obtain ⟨n, after⟩ := steps
  rw [← after, Solver.run_afterSteps]

/-- The verdict of the run of `p` has been shown, and `q` is left. -/
structure Over (p q : Presentation) : Prop where
  accepts : q.Accepts
  config : q.config = p.config
  solver : q.solver = p.solver.run.2
  traced : q.traced = true
  reported : q.reported = true
  notices : q.notices
    = p.notices ++ if p.reported then [] else p.config.due p.solver.run.2 p.solver.run.1

/-- What comes of showing the run of `p`, of which the whole without pauses would come to
`straight`. -/
inductive Halts (p : Presentation) (straight : Presentation × Except Error (Option Termination)) :
    Presentation × Except Error (Option Termination) → Prop where
  /-- The run is paused, and what is left of it comes to the same. -/
  | paused {q : Presentation} (keeps : p.Keeps q) (steps : p.Steps q)
    (rest : q.calm.solve = straight) : Halts p straight (q, .ok none)
  | ended {q : Presentation} (ended : p.Over q)
    (whole : straight = (q.calm, .ok (some p.solver.run.1))) :
    Halts p straight (q, .ok (some p.solver.run.1))

theorem Halts.of_keeps {straight result : Presentation × Except Error (Option Termination)}
    (halts : q.Halts straight result) (keeps : p.Keeps q) (steps : p.Steps q) :
  p.Halts straight result
  := by
  cases halts with
  | paused rest more whole => exact .paused (keeps.trans rest) (steps.trans more) whole
  | ended ended whole =>
    have run := steps.run
    rw [run] at whole ⊢
    refine .ended ⟨ended.accepts, ended.config.trans keeps.config, ?_, ended.traced,
      ended.reported, ?_⟩ whole
    · rw [ended.solver, run]
    · rw [ended.notices, keeps.notices, keeps.reported, keeps.config, run]

theorem solve_of_traced (traced : p.traced = true) (requests : Nat → Bool) :
  p.solve requests = p.follow requests p.solver.stages
  := by
  rw [solve, begun, if_pos traced]

theorem over_concluded {termination : Termination} (accepts : p.Accepts)
    (traced : p.traced = true) (run : p.solver.run = (termination, stage.after)) :
  p.Over (p.concluded stage termination)
  := by
  have advanced := keeps_advance accepts stage
  obtain ⟨q, written, keeps, solver⟩ :=
    keeps_writeLines advanced.accepts [(p.advance stage).verdictLine termination]
  have kept := advanced.trans keeps
  have final : q.solver = p.solver.run.2 := by
    rw [solver, run]
    rfl
  rw [concluded, written]
  unfold notify
  cases reported : q.reported with
  | true =>
    rw [if_pos rfl]
    refine ⟨kept.accepts, kept.config, final, kept.traced traced, reported, ?_⟩
    rw [← kept.reported, reported, if_pos rfl, List.append_nil, kept.notices]
  | false =>
    rw [if_neg Bool.false_ne_true]
    refine ⟨⟨kept.accepts.unlimited, kept.accepts.unbroken⟩, kept.config, final,
      kept.traced traced, rfl, ?_⟩
    rw [← kept.reported, reported, if_neg Bool.false_ne_true, ← kept.config, ← kept.notices, ← final,
      run]
    cases termination <;> rfl

/-- A pause leaves the whole run to be shown. -/
theorem halts_of_paused {rest : List Stage} (stages : p.solver.stages = stage :: rest)
    (accepts : p.Accepts) (traced : p.traced = true) (asked : (p.paused || requests 0) = true) :
  p.Halts (p.calm.follow (fun _ => false) p.solver.stages) (p.follow requests p.solver.stages)
  := by
  have same : p.pause.calm.solve = p.calm.follow (fun _ => false) p.solver.stages :=
    solve_of_traced (p := p.calm) traced _
  rw [stages, follow_of_paused asked, ← stages]
  apply Halts.paused (keeps_pause accepts) ⟨0, rfl⟩ same

/-- However a run is paused, what is left of it comes to the same as the whole without pauses. -/
theorem halts_follow (s : Solver) (starts : p.solver = s) (accepts : p.Accepts)
    (traced : p.traced = true) (requests : Nat → Bool) :
  p.Halts (p.calm.follow (fun _ => false) s.stages) (p.follow requests s.stages)
  := by
  have calm : p.calm.Accepts := ⟨accepts.unlimited, accepts.unbroken⟩
  induction s using Solver.stages_induction generalizing p requests with
  | verdict s verdict =>
    have stages := Solver.stages_of_verdict verdict
    obtain ⟨termination, reported⟩ := Solver.exists_termination verdict
    have run : p.solver.run = (termination, s.step.2) := by
      rw [starts]
      apply Solver.run_of_verdict reported
    cases asked : p.paused || requests 0 with
    | true =>
      subst starts
      apply halts_of_paused stages accepts traced asked
    | false =>
      have ended : p.Over (p.concluded ⟨s.step.1, s.step.2⟩ termination) :=
        over_concluded accepts traced run
      rw [stages, follow_of_verdict accepts asked reported, follow_of_verdict calm rfl reported,
        calm_concluded]
      have told : termination = p.solver.run.1 := by rw [run]
      rw [told] at ended ⊢
      apply Halts.ended ended rfl
  | unended s unended ih =>
    have stages := Solver.stages_of_unended unended
    obtain ⟨e, outcome⟩ := s.examined_or_verdict.resolve_right (Bool.eq_false_iff.mp unended)
    cases asked : p.paused || requests 0 with
    | true =>
      subst starts
      apply halts_of_paused stages accepts traced asked
    | false =>
      obtain ⟨keeps, after⟩ := keeps_shown accepts ⟨s.step.1, s.step.2⟩ e
      rw [stages, follow_of_examined accepts asked outcome, follow_of_examined calm rfl outcome,
        calm_shown]
      have rest := ih after keeps.accepts (keeps.traced traced)
        (fun step => requests (step + 1)) ⟨keeps.accepts.unlimited, keeps.accepts.unbroken⟩
      apply rest.of_keeps keeps
      use 1
      rw [after, starts]
      rfl

/-- Without pauses the run is shown to its verdict. -/
theorem answer_calm (s : Solver) (starts : p.solver = s) (accepts : p.Accepts) :
  (p.calm.follow (fun _ => false) s.stages).2 = .ok (some s.run.1)
  := by
  have calm : p.calm.Accepts := ⟨accepts.unlimited, accepts.unbroken⟩
  induction s using Solver.stages_induction generalizing p with
  | verdict s verdict =>
    obtain ⟨termination, reported⟩ := Solver.exists_termination verdict
    rw [Solver.stages_of_verdict verdict, follow_of_verdict calm rfl reported,
      Solver.run_of_verdict reported]
  | unended s unended ih =>
    obtain ⟨e, outcome⟩ := s.examined_or_verdict.resolve_right (Bool.eq_false_iff.mp unended)
    obtain ⟨keeps, after⟩ := keeps_shown accepts ⟨s.step.1, s.step.2⟩ e
    rw [Solver.stages_of_unended unended, follow_of_examined calm rfl outcome, calm_shown,
      Solver.run_of_unended unended]
    apply ih after keeps.accepts ⟨keeps.accepts.unlimited, keeps.accepts.unbroken⟩

theorem keeps_begun (accepts : p.Accepts) :
  p.Keeps p.begun ∧ p.begun.solver = p.solver ∧ p.begun.traced = true
  := by
  unfold begun
  cases traced : p.traced with
  | true => exact ⟨Keeps.refl accepts, rfl, traced⟩
  | false => exact ⟨⟨⟨accepts.unlimited, accepts.unbroken⟩, rfl, rfl, fun _ => rfl, rfl⟩, rfl, rfl⟩

/-- However a solve is paused, what is left comes to the same as a solve without pauses. -/
theorem halts_solve (accepts : p.Accepts) (requests : Nat → Bool) :
  p.Halts p.calm.solve (p.solve requests)
  := by
  obtain ⟨keeps, solver, traced⟩ := keeps_begun accepts
  have halts := halts_follow p.solver solver keeps.accepts traced requests
  rw [← calm_begun] at halts
  apply halts.of_keeps keeps
  use 0
  rw [solver]
  rfl

/-- A solve without pauses comes to the verdict. -/
theorem over_calm (accepts : p.Accepts) :
  ∃ q, p.calm.solve = (q, .ok (some p.solver.run.1)) ∧ p.calm.Over q
  := by
  obtain ⟨keeps, solver, -⟩ := keeps_begun accepts
  have answer : p.calm.solve.2 = .ok (some p.solver.run.1) := by
    have shown := answer_calm p.solver solver keeps.accepts
    rw [← calm_begun] at shown
    apply shown
  have halts := halts_solve (p := p.calm) ⟨accepts.unlimited, accepts.unbroken⟩ fun _ => false
  generalize p.calm.solve = straight at answer halts
  cases halts with
  | paused keeps run rest => cases answer
  | ended ended whole => exact ⟨_, rfl, ended⟩

/-- A solve that finds a pause asked for gives nothing and takes no step. -/
theorem solve_of_paused (asked : (p.paused || requests 0) = true) :
  (p.solve requests).2 = .ok none ∧ (p.solve requests).1.solver = p.solver
  := by
  have begun : (p.begun.paused || requests 0) = true ∧ p.begun.solver = p.solver := by
    unfold Presentation.begun
    cases p.traced with
    | true => exact ⟨asked, rfl⟩
    | false => exact ⟨asked, rfl⟩
  obtain ⟨rest, stages⟩ := p.solver.exists_stages_eq_cons
  rw [solve, stages, follow_of_paused begun.1]
  exact ⟨rfl, begun.2⟩

/-! ### What owners do -/

/-- What the owner of a presentation does with it. -/
inductive Act where
  | pause
  | resume
  /-- The run is shown; others ask for pauses meanwhile. -/
  | solve (requests : Nat → Bool)

/-- The presentation after an act, and the answer to it if it is a solve. -/
def act (p : Presentation) : Act → Presentation × List (Except Error (Option Termination))
  | .pause => (p.pause, [])
  | .resume => (p.resume, [])
  | .solve requests => ((p.solve requests).1, [(p.solve requests).2])

/-- The presentation after the given acts. -/
def after (p : Presentation) (acts : List Act) : Presentation :=
  acts.foldl (fun q act => (q.act act).1) p

/-- The answers to the solves among the given acts. -/
def answers (p : Presentation) : List Act → List (Except Error (Option Termination))
  | [] => []
  | act :: rest => (p.act act).2 ++ (p.act act).1.answers rest

theorem after_concat (p : Presentation) (acts : List Act) (act : Act) :
  p.after (acts ++ [act]) = ((p.after acts).act act).1
  := List.foldl_append

theorem answers_concat (p : Presentation) (acts : List Act) (act : Act) :
  p.answers (acts ++ [act]) = p.answers acts ++ ((p.after acts).act act).2
  := by
  induction acts generalizing p with
  | nil => exact (List.append_nil _)
  | cons first rest ih =>
    rw [List.cons_append, answers, ih, answers, List.append_assoc]
    rfl

/-! ### Before and after the verdict -/

/-- The verdict of the run of `p` has not been shown when `q` is left, and what is left of the run
comes to the same as the whole. -/
structure Underway (p q : Presentation) : Prop where
  keeps : p.Keeps q
  steps : p.Steps q
  rest : q.calm.solve = p.calm.solve

theorem Underway.halts (underway : p.Underway q) (requests : Nat → Bool) :
  p.Halts p.calm.solve (q.solve requests)
  := by
  rw [← underway.rest]
  apply (halts_solve underway.keeps.accepts requests).of_keeps underway.keeps underway.steps

theorem Over.of_keeps (ended : p.Over q) (keeps : q.Keeps r) (solver : r.solver = q.solver) :
  p.Over r
  := by
  constructor
  · apply keeps.accepts
  · apply keeps.config.trans ended.config
  · apply solver.trans ended.solver
  · apply keeps.traced ended.traced
  · apply keeps.reported.trans ended.reported
  · apply keeps.notices.trans ended.notices

theorem Over.run (ended : p.Over q) :
  q.solver.run = p.solver.run
  := by
  rw [ended.solver, Solver.run_eq, Solver.run_afterSteps]

/-- The verdict that is shown again is the same, and no more notice is given of it. -/
theorem Over.trans (ended : p.Over q) (again : q.Over r) :
  p.Over r
  := by
  constructor
  · apply again.accepts
  · apply again.config.trans ended.config
  · rw [again.solver, ended.run]
  · apply again.traced
  · apply again.reported
  · rw [again.notices, ended.reported, if_pos rfl, List.append_nil, ended.notices]

/-- A solve after the verdict is paused, or shows the verdict again. -/
theorem Over.solve (ended : p.Over q) (requests : Nat → Bool) :
  p.Over (q.solve requests).1
    ∧ ((q.solve requests).2 = .ok none ∨ (q.solve requests).2 = .ok (some p.solver.run.1))
  := by
  have terminal : q.solver.isTerminal = true := by
    rw [ended.solver, Solver.run_snd]
    apply Solver.isTerminal_afterStages
  have halts := halts_solve ended.accepts requests
  generalize q.solve requests = result at halts
  cases halts with
  | paused keeps steps rest =>
    obtain ⟨n, solver⟩ := steps
    rw [Solver.afterSteps_of_terminal terminal] at solver
    constructor
    · apply ended.of_keeps keeps solver.symm
    · left
      rfl
  | ended again whole =>
    rw [ended.run]
    constructor
    · apply ended.trans again
    · right
      rfl

/-- Acts after the verdict change no more than whether the presentation is paused. -/
theorem Over.act (ended : p.Over q) (act : Act) :
  p.Over (q.act act).1
    ∧ ∀ answer ∈ (q.act act).2, answer = .ok none ∨ answer = .ok (some p.solver.run.1)
  := by
  cases act with
  | pause => exact ⟨ended.of_keeps (keeps_pause ended.accepts) rfl, List.forall_mem_nil _⟩
  | resume => exact ⟨ended.of_keeps (keeps_resume ended.accepts) rfl, List.forall_mem_nil _⟩
  | solve requests =>
    obtain ⟨after, answer⟩ := ended.solve requests
    apply And.intro after
    intro answer' member
    obtain rfl := List.mem_singleton.mp member
    apply answer

/-- An act before the verdict leaves the run underway, or it is a solve that shows the verdict. -/
theorem Underway.act (underway : p.Underway q) (act : Act) :
  (p.Underway (q.act act).1 ∧ ∀ answer ∈ (q.act act).2, answer = .ok none)
    ∨ (p.Over (q.act act).1 ∧ (q.act act).2 = [.ok (some p.solver.run.1)])
  := by
  obtain ⟨keeps, steps, rest⟩ := underway
  cases act with
  | pause =>
    left
    exact ⟨⟨keeps.trans (keeps_pause keeps.accepts), steps, rest⟩, List.forall_mem_nil _⟩
  | resume =>
    left
    exact ⟨⟨keeps.trans (keeps_resume keeps.accepts), steps, rest⟩, List.forall_mem_nil _⟩
  | solve requests =>
    have halts := Underway.halts ⟨keeps, steps, rest⟩ requests
    rw [Presentation.act]
    generalize q.solve requests = result at halts
    cases halts with
    | paused keeps steps rest =>
      left
      apply And.intro ⟨keeps, steps, rest⟩
      intro answer member
      apply List.mem_singleton.mp member
    | ended ended whole =>
      right
      exact ⟨ended, rfl⟩

/-- What comes of acts: all solves were paused, and the run is underway; or the verdict was shown,
and solves were answered by nothing else. -/
inductive Comes (p : Presentation) (acts : List Act) : Prop where
  | underway (underway : p.Underway (p.after acts))
    (answers : ∀ answer ∈ p.answers acts, answer = .ok none)
  | ended (ended : p.Over (p.after acts)) (answered : .ok (some p.solver.run.1) ∈ p.answers acts)
    (answers : ∀ answer ∈ p.answers acts,
      answer = .ok none ∨ answer = .ok (some p.solver.run.1))

theorem comes (accepts : p.Accepts) (acts : List Act) :
  p.Comes acts
  := by
  induction acts using List.reverseRecOn with
  | nil => exact .underway ⟨Keeps.refl accepts, ⟨0, rfl⟩, rfl⟩ (List.forall_mem_nil _)
  | append_singleton acts act ih =>
    have after := p.after_concat acts act
    have concat := p.answers_concat acts act
    cases ih with
    | underway underway answers =>
      obtain ⟨underway, paused⟩ | ⟨ended, told⟩ := underway.act act
      · apply Comes.underway
        · rw [after]
          apply underway
        · rw [concat, List.forall_mem_append]
          apply And.intro answers paused
      · apply Comes.ended
        · rw [after]
          apply ended
        · rw [concat, told]
          apply List.mem_append_right _ (List.mem_singleton_self _)
        · rw [concat, told, List.forall_mem_append]
          constructor
          · intro answer member
            left
            apply answers answer member
          · intro answer member
            right
            apply List.mem_singleton.mp member
    | ended ended answered answers =>
      obtain ⟨ended, more⟩ := ended.act act
      apply Comes.ended
      · rw [after]
        apply ended
      · rw [concat]
        apply List.mem_append_left _ answered
      · rw [concat, List.forall_mem_append]
        apply And.intro answers more

/-! ### Pauses are invisible -/

/-- Pauses have no part in what is shown of the run of `p` by the solves among the given acts. -/
structure Unaffected (p : Presentation) (acts : List Act) : Prop where
  /-- A single solve that nothing pauses shows the run to its end. -/
  whole : p.calm.solve.2 = .ok (some p.solver.run.1) ∧ p.calm.solve.1.solver = p.solver.run.2
  /-- Solves are paused or answered by the end of the run. -/
  answers : ∀ answer ∈ p.answers acts, answer = .ok none ∨ answer = .ok (some p.solver.run.1)
  /-- A solve that finds a pause asked for gives nothing and takes no step. -/
  stopped : ∀ requests, ((p.after acts).paused || requests 0) = true →
    ((p.after acts).solve requests).2 = .ok none
      ∧ ((p.after acts).solve requests).1.solver = (p.after acts).solver
  /-- A solve that is not paused comes to the end of the run. -/
  ended : (p.after acts).paused = false → p.config.pauseOn = none →
    (p.after acts).solve.2 = .ok (some p.solver.run.1)
  /-- When the verdict is shown for the first time, all that was given out, the solver, the tracer
  and the answer are what they are after the single solve. -/
  same : (∀ answer ∈ p.answers acts, answer = .ok none) → ∀ requests termination,
    ((p.after acts).solve requests).2 = .ok (some termination) →
      ((p.after acts).solve requests).1.transcript = p.calm.solve.1.transcript
        ∧ ((p.after acts).solve requests).1.solver = p.calm.solve.1.solver
        ∧ ((p.after acts).solve requests).1.tracer = p.calm.solve.1.tracer
        ∧ ((p.after acts).solve requests).2 = p.calm.solve.2
  /-- Before the verdict no notice is given. -/
  unnoticed : (∀ answer ∈ p.answers acts, answer = .ok none) →
    (p.after acts).notices = p.notices
  /-- From then on, whoever waits for this verdict has been notified once, and no one else. -/
  noticed : .ok (some p.solver.run.1) ∈ p.answers acts →
    (p.after acts).notices = p.notices ++ p.config.due p.solver.run.2 p.solver.run.1

theorem calm_of_unpaused (resumed : p.paused = false) (undisturbed : p.config.pauseOn = none) :
  p.calm = p
  := by
  rw [calm, ← resumed, ← undisturbed]

/-- A solve that nothing pauses comes to the end of the run. -/
theorem answer_of_unpaused (accepts : p.Accepts) (resumed : p.paused = false)
    (undisturbed : p.config.pauseOn = none) :
  p.solve.2 = .ok (some p.solver.run.1)
  := by
  obtain ⟨q, whole, -⟩ := over_calm accepts
  rw [calm_of_unpaused resumed undisturbed] at whole
  rw [whole]

/-- However a presentation is paused and resumed, that cannot be seen in what it shows, up to the
first verdict, and the one notice that is due is given once. -/
theorem unaffected_by_pauses (accepts : p.Accepts) (new : p.reported = false) (acts : List Act) :
  p.Unaffected acts
  := by
  obtain ⟨final, all, ended⟩ := over_calm accepts
  have whole : p.calm.solve.2 = .ok (some p.solver.run.1)
      ∧ p.calm.solve.1.solver = p.solver.run.2 := by
    rw [all]
    apply And.intro rfl ended.solver
  have unpaused : .ok (some p.solver.run.1) ∈ p.answers acts →
      ¬ ∀ answer ∈ p.answers acts, answer = .ok none := by
    intro answered paused
    cases paused _ answered
  cases p.comes accepts acts with
  | underway underway answers =>
    have keeps := underway.keeps
    constructor
    case whole => apply whole
    case answers =>
      intro answer member
      left
      apply answers answer member
    case stopped => apply fun _ => solve_of_paused
    case ended =>
      intro resumed undisturbed
      rw [← keeps.config] at undisturbed
      rw [answer_of_unpaused keeps.accepts resumed undisturbed, underway.steps.run]
    case same =>
      intro _ requests termination reported
      have halts := underway.halts requests
      generalize (p.after acts).solve requests = result at halts reported
      cases halts with
      | paused keeps steps rest => cases reported
      | ended ended same =>
        rw [same]
        exact ⟨rfl, rfl, rfl, rfl⟩
    case unnoticed => apply fun _ => keeps.notices
    case noticed =>
      intro answered
      apply absurd answers (unpaused answered)
  | ended ended answered answers =>
    constructor
    case whole => apply whole
    case answers => apply answers
    case stopped => apply fun _ => solve_of_paused
    case ended =>
      intro resumed undisturbed
      rw [← ended.config] at undisturbed
      rw [answer_of_unpaused ended.accepts resumed undisturbed, ended.run]
    case same =>
      intro paused
      apply absurd paused (unpaused answered)
    case unnoticed =>
      intro paused
      apply absurd paused (unpaused answered)
    case noticed =>
      intro _
      rw [ended.notices, new, if_neg Bool.false_ne_true]

/-- A chain whose end someone waits for is paused by its owner, by another before its second step,
and then shown to the end, twice. -/
theorem unaffected_by_pauses_chain :
  let p := create (Solver.chain {}) { onSuccess := true, onFailure := true }
  p.Accepts ∧ p.reported = false ∧ p.Unaffected [.pause, .solve fun _ => false, .resume,
    .solve fun step => step == 1, .resume, .solve fun _ => false, .solve fun _ => false]
  := by
  have accepts :
      (create (Solver.chain {}) { onSuccess := true, onFailure := true }).Accepts := ⟨rfl, rfl⟩
  apply And.intro accepts
  apply And.intro rfl
  apply unaffected_by_pauses accepts rfl

end Presentation

end ForwardChaining
