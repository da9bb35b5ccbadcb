import ForwardChaining.Presentation
import ForwardChaining.Proofs.Trace.Streaming

/-!
# The lines of a presentation

A presentation gives out the lines of its tracer among its own (`Transcript.traced`).  One that can
write and is not paused shows a run to its end, and gives out all lines that its tracer writes when
it is told of the stages (`Presentation.shows_follow`).
-/

namespace ForwardChaining

/-- The lines of tracers among what is given out. -/
def Transcript.traced (transcript : Transcript) : List (TraceOutput × String) :=
  transcript.filterMap fun
    | .trace output line => some (output, line)
    | _ => none

namespace Transcript

theorem traced_append (transcript more : Transcript) :
  traced (transcript ++ more) = transcript.traced ++ more.traced
  := List.filterMap_append

theorem traced_echoes (before after : Solver) :
  (echoes before after).traced = []
  := by
  rw [traced, echoes, List.filterMap_map]
  exact List.filterMap_eq_nil_iff.mpr fun _ _ => rfl

theorem traced_traceLines (before after : Tracer) :
  (traceLines before after).traced = after.written.since before.written
  := by
  rw [traced, traceLines, List.filterMap_map]
  exact List.filterMap_some

end Transcript

namespace Tracer

/-- The lines that the tracer `t` has written, `u` has written too. -/
def Continues (t u : Tracer) : Prop :=
  u.written.toList = t.written.toList ++ u.written.since t.written

theorem continues_of_toList {t u : Tracer} {lines : List (TraceOutput × String)}
    (grown : u.written.toList = t.written.toList ++ lines) :
  t.Continues u
  := by
  rw [Continues, Log.since_of_toList grown]
  exact grown

end Tracer

namespace Presentation

variable {p q : Presentation} {s : Solver} {stages : List Stage}

/-- The presentation shows what it is told to show: it can write and is not paused, and its tracer
has an output. -/
structure Ready (p : Presentation) : Prop where
  unlimited : p.sink.limit = none
  unbroken : p.sink.broken = false
  ongoing : p.paused = false
  unpaused : p.config.pauseOn = none
  output : p.tracer.config.output ≠ .none
  keeps : 0 < p.tracer.buffer.maxSize
  /-- All lines of the tracer have been given out. -/
  complete : p.transcript.traced = p.tracer.written.toList

/-- Between `p` and `q` the presentation has given out something, but no lines of its tracer. -/
structure Talks (p q : Presentation) : Prop where
  solver : q.solver = p.solver
  traced : q.traced = p.traced
  tracer : q.tracer = p.tracer
  ready : q.Ready

/-! ### What is shown besides -/

theorem talks_output (emission : Emission) (ready : p.Ready)
    (silent : Transcript.traced [emission] = []) :
  p.Talks { p with output := p.output.push emission }
  := by
  refine ⟨rfl, rfl, rfl, ready.unlimited, ready.unbroken, ready.ongoing, ready.unpaused,
    ready.output, ready.keeps, ?_⟩
  change Transcript.traced (p.output.push emission).toList = _
  rw [Log.toList_push, Transcript.traced_append, silent, List.append_nil]
  exact ready.complete

theorem talks_writeLines (ready : p.Ready) (lines : List String) :
  (p.writeLines lines).2 = .ok () ∧ p.Talks (p.writeLines lines).1
  := by
  induction lines generalizing p with
  | nil => exact ⟨rfl, rfl, rfl, rfl, ready⟩
  | cons line lines ih =>
    have ready' : Ready { p with
        sink := { p.sink with offered := p.sink.offered + (line ++ "\n").utf8ByteSize } } :=
      ⟨ready.unlimited, ready.unbroken, ready.ongoing, ready.unpaused, ready.output, ready.keeps,
        ready.complete⟩
    have said := talks_output (.line line) ready' rfl
    obtain ⟨accepted, talks⟩ := ih said.ready
    rw [writeLines, Sink.offer_of_unlimited ready.unlimited ready.unbroken]
    exact ⟨accepted, talks.solver, talks.traced, talks.tracer, talks.ready⟩

theorem talks_pace (ready : p.Ready) :
  p.Talks p.pace
  := by
  unfold pace
  split
  · exact ⟨rfl, rfl, rfl, ready⟩
  · exact talks_output _ ready rfl

/-! ### The run -/

theorem ready_withTracer (ready : p.Ready) {t : Tracer} (config : t.config = p.tracer.config)
    (maxSize : t.buffer.maxSize = p.tracer.buffer.maxSize) (continues : p.tracer.Continues t) :
  (p.withTracer t).Ready
  := by
  refine ⟨ready.unlimited, ready.unbroken, ready.ongoing, ready.unpaused, ?_, ?_, ?_⟩
  · change t.config.output ≠ .none
    rw [config]
    exact ready.output
  · change 0 < t.buffer.maxSize
    rw [maxSize]
    exact ready.keeps
  · change Transcript.traced (p.output.append (Transcript.traceLines p.tracer t)).toList = _
    rw [Log.toList_append, Transcript.traced_append, Transcript.traced_traceLines]
    refine Eq.trans ?_ continues.symm
    exact congrArg (· ++ _) ready.complete

theorem ready_advance (ready : p.Ready) (s : Solver) :
  (p.advance ⟨s.step.1, s.step.2⟩).Ready
  := by
  -- before the tracer is told, what effects said is given out
  obtain ⟨q, echoed, tracer, advanced⟩ : ∃ q : Presentation, q.Ready ∧ q.tracer = p.tracer
      ∧ p.advance ⟨s.step.1, s.step.2⟩
        = q.withTracer (p.tracer.observe s.step.2 s.step.1) := by
    refine ⟨_, ?_, ?_, rfl⟩
    · refine ⟨ready.unlimited, ready.unbroken, ?_, ready.unpaused, ready.output, ready.keeps, ?_⟩
      · have none : p.asksForPause = fun _ => false := by
          funext invocation
          rw [asksForPause, ready.unpaused]
          rfl
        change (p.paused || List.any _ p.asksForPause) = false
        rw [ready.ongoing, none, Bool.false_or]
        exact List.any_eq_false.mpr fun _ _ => Bool.false_ne_true
      · change Transcript.traced (p.output.append (Transcript.echoes _ _)).toList = _
        rw [Log.toList_append, Transcript.traced_append, Transcript.traced_echoes, List.append_nil]
        exact ready.complete
    · rfl
  rw [advanced]
  cases enabled : p.tracer.config.enabled with
  | true =>
    have streams := (Tracer.streams_observe_any enabled s).1
    apply ready_withTracer echoed
    · rw [tracer, streams.config]
    · rw [tracer, streams.makes.maxSize]
    · rw [tracer]
      exact Tracer.continues_of_toList (streams.written ready.output ready.keeps)
  | false =>
    rw [Tracer.observe_of_disabled enabled]
    apply ready_withTracer echoed
    · rw [tracer]
    · rw [tracer]
    · rw [tracer]
      exact Tracer.continues_of_toList (List.append_nil _).symm

/-- The presentation `q` has shown the given stages, from `p` on. -/
structure Shows (p : Presentation) (stages : List Stage)
    (q : Presentation × Except Error (Option Termination)) : Prop where
  accepted : ∃ termination, q.2 = .ok termination
  tracer : q.1.tracer = p.tracer.observeAll stages
  complete : q.1.transcript.traced = q.1.tracer.written.toList

/-- An examination is shown, and then the rest. -/
theorem follow_examined {stage : Stage} {e : Examination} (ready : p.Ready)
    (advanced : (p.advance stage).Ready) (outcome : stage.outcome = .examined e)
    (rest : List Stage) :
  ∃ q, (p.advance stage).Talks q ∧ p.follow (fun _ => false) (stage :: rest) = q.follow (fun _ => false) rest
  := by
  obtain ⟨accepted, talks⟩ := talks_writeLines advanced ((p.advance stage).stepLines e)
  have paced := talks_pace talks.ready
  refine ⟨_, ⟨?_, ?_, ?_, paced.ready⟩, ?_⟩
  · exact paced.solver.trans talks.solver
  · exact paced.traced.trans talks.traced
  · exact paced.tracer.trans talks.tracer
  rw [follow, if_neg Bool.false_ne_true, ready.ongoing]
  dsimp only
  rw [if_neg Bool.false_ne_true, outcome]
  dsimp only [Outcome.examination?]
  generalize written : (p.advance stage).writeLines ((p.advance stage).stepLines e) = result
  obtain ⟨q, answer⟩ := result
  rw [written] at accepted
  cases accepted
  rfl

/-- A verdict is shown, and with it the presentation ends. -/
theorem follow_verdict {stage : Stage} (ready : p.Ready) (advanced : (p.advance stage).Ready)
    (verdict : stage.outcome.isTerminal = true) (rest : List Stage) :
  ∃ termination, (p.follow (fun _ => false) (stage :: rest)).2 = .ok termination
    ∧ (p.follow (fun _ => false) (stage :: rest)).1.tracer = (p.advance stage).tracer
    ∧ (p.follow (fun _ => false) (stage :: rest)).1.transcript.traced
      = (p.follow (fun _ => false) (stage :: rest)).1.tracer.written.toList
  := by
  have none : stage.outcome.examination? = none := by
    cases outcome : stage.outcome with
    | examined e =>
      rw [outcome] at verdict
      cases verdict
    | succeeded => rfl
    | failed d => rfl
  obtain ⟨accepted, talks⟩ := talks_writeLines advanced
    (stage.outcome.termination?.toList.map (p.advance stage).verdictLine)
  have notified : ∀ (q : Presentation) (termination : Termination),
      (q.notify termination).tracer = q.tracer
        ∧ (q.notify termination).transcript = q.transcript := by
    intro q termination
    unfold notify
    split <;> exact ⟨rfl, rfl⟩
  rw [follow, if_neg Bool.false_ne_true, ready.ongoing]
  dsimp only
  rw [if_neg Bool.false_ne_true, none]
  dsimp only
  generalize (p.advance stage).writeLines
    (stage.outcome.termination?.toList.map (p.advance stage).verdictLine) = result at accepted talks
  obtain ⟨q, answer⟩ := result
  cases accepted
  use stage.outcome.termination?, rfl
  dsimp only
  cases stage.outcome.termination? with
  | none => exact ⟨talks.tracer, talks.ready.complete⟩
  | some termination =>
    obtain ⟨tracer, transcript⟩ := notified q termination
    rw [Option.elim_some, tracer, transcript]
    exact ⟨talks.tracer, talks.ready.complete⟩

/-- A presentation that is ready shows all stages of a run, and gives out all lines that its tracer
writes of them. -/
theorem shows_follow (ready : p.Ready) (s : Solver) (stop : Solver → Bool) :
  p.Shows (s.stagesUntil stop) (p.follow (fun _ => false) (s.stagesUntil stop))
  := by
  revert p
  apply Solver.stagesUntil_induction (P := fun s stages =>
    ∀ {p : Presentation}, p.Ready → p.Shows stages (p.follow (fun _ => false) stages))
  · intro s _ p ready
    have advanced := ready_advance ready s
    obtain ⟨e, outcome⟩ | verdict := s.examined_or_verdict
    · obtain ⟨q, talks, followed⟩ := follow_examined ready advanced outcome []
      rw [followed]
      exact ⟨⟨none, rfl⟩, talks.tracer, talks.ready.complete⟩
    · obtain ⟨termination, accepted, tracer, complete⟩ := follow_verdict ready advanced verdict []
      exact ⟨⟨termination, accepted⟩, tracer, complete⟩
  · intro s goesOn ih p ready
    have advanced := ready_advance ready s
    obtain ⟨e, outcome⟩ | verdict := s.examined_or_verdict
    · obtain ⟨q, talks, followed⟩ :=
        follow_examined ready advanced outcome (s.step.2.stagesUntil stop)
      obtain ⟨accepted, tracer, complete⟩ := ih talks.ready
      rw [followed]
      refine ⟨accepted, tracer.trans ?_, complete⟩
      rw [talks.tracer]
      rfl
    · rw [verdict, Bool.true_or] at goesOn
      exact absurd rfl goesOn

/-- A presentation that starts tells its tracer of the start of the run. -/
theorem ready_begin (ready : p.Ready) :
  ({ p with traced := true }.withTracer (p.tracer.begin p.solver)).Ready
  := by
  have ready' : Ready { p with traced := true } :=
    ⟨ready.unlimited, ready.unbroken, ready.ongoing, ready.unpaused, ready.output, ready.keeps,
      ready.complete⟩
  cases enabled : p.tracer.config.enabled with
  | true =>
    have streams := (Tracer.streams_begin enabled p.solver).1
    exact ready_withTracer ready' streams.config streams.makes.maxSize
      (Tracer.continues_of_toList (streams.written ready.output ready.keeps))
  | false =>
    have same : p.tracer.begin p.solver = p.tracer := by
      rw [Tracer.begin, enabled]
      rfl
    rw [same]
    exact ready_withTracer ready' rfl rfl (Tracer.continues_of_toList (List.append_nil _).symm)

/-- A presentation shows its run from the start to the end. -/
theorem shows_solve (ready : p.Ready) (new : p.traced = false) :
  (∃ termination, p.solve.2 = .ok termination)
    ∧ p.solve.1.transcript.traced
      = ((p.tracer.begin p.solver).observeAll p.solver.stages).written.toList
  := by
  have started :
      p.solve = ({ p with traced := true }.withTracer (p.tracer.begin p.solver)).follow
        (fun _ => false) p.solver.stages := by
    rw [solve, begun, new]
    rfl
  obtain ⟨accepted, tracer, complete⟩ := shows_follow (ready_begin ready) p.solver fun _ => false
  rw [started]
  constructor
  · exact accepted
  · rw [← Solver.stages] at complete tracer
    rw [complete, tracer]
    rfl

end Presentation

end ForwardChaining
