import ForwardChaining.Proofs.Trace.Watching

/-!
# Verdicts that are told

A tracer tells of the end of the run once, until the solver is rewound.  If that is to a state in
which the run is over, it takes the end for told, though the solver may have been rewound before it
reported the verdict.  So a verdict is lost exactly if the solver was last rewound to the end of the
run before that was told (`Watch.verdict_after`).  That takes a snapshot of the end of the run, and
there is none unless all steps are snapshotted (`Solver.isTerminal_rewind`).
-/

namespace ForwardChaining

namespace TraceEvent

/-- The event tells of a rewind. -/
def isRewind : TraceEvent → Bool
  | custom name _ => name = "rewind"
  | _ => false

/-- The event tells that a rule is examined. -/
def isExamination : TraceEvent → Bool
  | ruleExamined .. => true
  | _ => false

end TraceEvent

/-! ### Ends between rewinds -/

/-- No two ends of the run are told without a rewind between them; and since the last rewind an end
is told at most if `ended` says so. -/
structure Spaced (ended : Bool) (events : List TraceEvent) : Prop where
  apart : ∀ segment, segment <:+: events → (∀ event ∈ segment, event.isRewind = false) →
    segment.countP (·.isTerminal) ≤ 1
  since : ∀ segment, segment <:+ events → (∀ event ∈ segment, event.isRewind = false) →
    segment.countP (·.isTerminal) ≤ ended.toNat

section

variable {ended : Bool} {events more : List TraceEvent} {event : TraceEvent}

theorem spaced_of_none (none : events.countP (·.isTerminal) = 0) :
  Spaced false events
  := by
  constructor
  · intro segment inside _
    have fewer := inside.sublist.countP_le (p := (·.isTerminal))
    omega
  · intro segment inside _
    have fewer := inside.sublist.countP_le (p := (·.isTerminal))
    rw [none] at fewer
    exact fewer

/-- One more event: what is told since the last rewind decides. -/
theorem Spaced.concat {ended' : Bool} (spaced : Spaced ended events)
    (since : ∀ segment, segment <:+ events ++ [event] →
      (∀ event ∈ segment, event.isRewind = false) →
      segment.countP (·.isTerminal) ≤ ended'.toNat) :
  Spaced ended' (events ++ [event])
  := by
  constructor
  · intro segment inside apart
    obtain atEnd | before := List.infix_concat_iff.mp inside
    · exact Nat.le_trans (since segment atEnd apart) ended'.toNat_le
    · exact spaced.apart segment before apart
  · exact since

/-- An event that is no end does not count. -/
theorem Spaced.concat_other (spaced : Spaced ended events) (other : event.isTerminal = false) :
  Spaced ended (events ++ [event])
  := by
  apply spaced.concat
  intro segment atEnd apart
  obtain rfl | ⟨before, rfl, earlier⟩ := List.suffix_concat_iff.mp atEnd
  · exact Nat.zero_le _
  · have earlier := spaced.since before earlier (List.forall_mem_append.mp apart).1
    rw [List.countP_append, List.countP_singleton, other]
    exact earlier

/-- The first end since the last rewind. -/
theorem Spaced.concat_terminal (spaced : Spaced false events) :
  Spaced true (events ++ [event])
  := by
  apply spaced.concat
  intro segment atEnd apart
  obtain rfl | ⟨before, rfl, earlier⟩ := List.suffix_concat_iff.mp atEnd
  · exact Nat.zero_le _
  · have earlier := spaced.since before earlier (List.forall_mem_append.mp apart).1
    have one := List.countP_le_length (p := (·.isTerminal)) (l := [event])
    rw [List.countP_append]
    change _ ≤ 1
    change _ ≤ 0 at earlier
    change _ ≤ 1 at one
    omega

/-- A rewind allows for one more end. -/
theorem Spaced.concat_rewind (spaced : Spaced ended events) (rewind : event.isRewind = true)
    (ended' : Bool) :
  Spaced ended' (events ++ [event])
  := by
  apply spaced.concat
  intro segment atEnd apart
  obtain rfl | ⟨before, rfl, -⟩ := List.suffix_concat_iff.mp atEnd
  · exact Nat.zero_le _
  · have last := apart event (List.mem_append_right _ List.mem_cons_self)
    rw [rewind] at last
    cases last

theorem Spaced.append (spaced : Spaced ended events)
    (none : ∀ event ∈ more, event.isTerminal = false) :
  Spaced ended (events ++ more)
  := by
  induction more using List.reverseRecOn with
  | nil => rwa [List.append_nil]
  | append_singleton more event ih =>
    obtain ⟨none, other⟩ := List.forall_mem_append.mp none
    rw [← List.append_assoc]
    exact (ih none).concat_other (other event List.mem_cons_self)

end

namespace Solver

variable {s t start : Solver} {e : Examination}

/-! ### Verdicts -/

/-- The event of the verdict that the next step reports, if it reports one. -/
def verdict? (s : Solver) : Option TraceEvent :=
  match s.step.1 with
  | .examined _ => none
  | .succeeded => some (.runSucceeded s.step.2.steps)
  | .failed d => some (.runFailed d.unsatisfied)

/-- The events tell of the verdict, and not of an examination after that. -/
def VerdictTold (s : Solver) (events : List TraceEvent) : Prop :=
  ∃ before verdict since, s.verdict? = some verdict ∧ events = before ++ verdict :: since
    ∧ ∀ event ∈ since, event.isExamination = false

theorem verdict?_congr (same : s.position = t.position) :
  s.verdict? = t.verdict?
  := by
  obtain ⟨outcome, position⟩ := step_congr same
  have steps : s.step.2.steps = t.step.2.steps := congrArg Position.steps position
  rw [verdict?, verdict?, outcome, steps]

/-- A step that reports a verdict tells of it, unless it has been reported. -/
theorem exists_verdict? (verdict : s.step.1.isTerminal = true) :
  ∃ event, s.verdict? = some event
    ∧ ∀ reported, s.stepStory reported = if reported then [] else [event]
  := by
  unfold verdict? stepStory
  cases outcome : s.step.1 with
  | examined e => rw [outcome] at verdict; cases verdict
  | succeeded => exact ⟨_, rfl, fun _ => rfl⟩
  | failed d => exact ⟨_, rfl, fun _ => rfl⟩

/-- What has been told of the verdict before it is reported again has been told then. -/
theorem verdictTold_step (verdict : s.step.1.isTerminal = true) (events : List TraceEvent) :
  s.step.2.VerdictTold events ↔ s.VerdictTold events
  := by
  rw [VerdictTold, VerdictTold, verdict?_congr (step_of_verdict verdict).1]

/-! ### Snapshots of the end -/

/-- A step that fires a rule does not end the run. -/
theorem isTerminal_of_fired (outcome : s.step.1 = .examined e) (fired : e.performing = true) :
  s.step.2.isTerminal = false
  := by
  obtain ⟨-, -, after⟩ | ⟨skipped, -⟩ := step_eq_of_examined outcome
  · have running : (s.fire e.rule (s.ruleAt e.rule)).settle.status = .running := by
      have status : (s.fire e.rule (s.ruleAt e.rule)).status = .running :=
        (step_of_examined outcome).1
      have counted : (s.fire e.rule (s.ruleAt e.rule)).firedThisPass ≠ 0 := Nat.succ_ne_zero _
      unfold settle finishPass
      split
      · dsimp only
        rw [if_neg fun deadlock => counted deadlock.1, status]
      · exact status
    rw [isTerminal, after, status_record, running]
    rfl
  · rw [fired] at skipped
    cases skipped

/-- Unless all steps are snapshotted, no snapshot is one of the end of the run. -/
theorem isTerminal_rewind (new : start.New) (onCourse : start.OnCourse s)
    (policy : start.config.snapshots ≠ .everyStep) {n : Nat} (rewound : s.rewind n = .ok t) :
  t.isTerminal = false
  := by
  obtain ⟨σ, found, rfl⟩ := rewind_eq_ok_iff.mp rewound
  obtain ⟨retained, -⟩ := History.mem_of_get? found
  obtain ⟨k, e, -, -, outcome, asked, rfl⟩ := onCourse.exists_step new retained
  have fired : e.performing = true := by
    unfold SolverConfig.snapshotsStep at asked
    split at asked
    · exact asked
    · rename_i everyStep
      exact absurd everyStep policy
    · cases asked
  exact isTerminal_of_fired outcome fired

end Solver

namespace Watch

/-- What a tracer has told of the end of the run when the solver was last rewound to `resumed`, and
the given events had been told by then. -/
structure Reports (resumed : Watch) (before : List TraceEvent) (w : Watch)
    (events : List TraceEvent) : Prop where
  spaced : Spaced w.tracer.finished events
  ended : w.tracer.finished = true → w.solver.step.1.isTerminal = true
  taken : resumed.solver.isTerminal = true → w.tracer.finished = true
  told : w.tracer.finished = true → (w.solver.VerdictTold events
    ↔ (resumed.solver.isTerminal = true → resumed.solver.VerdictTold before))

variable {w resumed : Watch} {before events : List TraceEvent} {t : Tracer} {start s : Solver}
  {acts : List Act} {act : Act} {n : Nat} {e : Examination}

/-! ### Steps -/

theorem finished_step (enabled : w.tracer.config.enabled = true)
    (started : w.tracer.started = true) :
  (w.act .step).tracer.finished = (w.tracer.finished || w.solver.step.1.isTerminal)
  := by
  have notes := (Tracer.tells_observe enabled started w.solver).2
  exact (congrArg Tracer.Notes.finished notes).trans (Tracer.finished_afterStep _ _)

/-- A tracer that is told of an examination has not taken the end of the run for told. -/
theorem Reports.examined (reports : Reports resumed before w events)
    (enabled : w.tracer.config.enabled = true) (started : w.tracer.started = true)
    (outcome : w.solver.step.1 = .examined e) :
  Reports resumed before (w.act .step) (events ++ (w.told .step).map (·.2))
  := by
  have unfinished : w.tracer.finished = false := by
    cases finished : w.tracer.finished with
    | false => rfl
    | true =>
      have ended := reports.ended finished
      rw [outcome] at ended
      cases ended
  have still : (w.act .step).tracer.finished = false := by
    rw [finished_step enabled started, unfinished, outcome]
    rfl
  have ongoing : resumed.solver.isTerminal = false := by
    cases ended : resumed.solver.isTerminal with
    | false => rfl
    | true => rw [reports.taken ended] at unfinished; cases unfinished
  constructor
  · rw [still, ← unfinished]
    apply reports.spaced.append
    intro event told
    obtain ⟨entry, member, rfl⟩ := List.mem_map.mp told
    exact Tracer.isTerminal_of_mem_stepEntries outcome member
  · intro finished
    rw [still] at finished
    cases finished
  · intro ended
    rw [ongoing] at ended
    cases ended
  · intro finished
    rw [still] at finished
    cases finished

/-- A tracer tells of the verdict unless it takes it for told. -/
theorem Reports.verdict (reports : Reports resumed before w events)
    (enabled : w.tracer.config.enabled = true) (started : w.tracer.started = true)
    (verdict : w.solver.step.1.isTerminal = true) :
  Reports resumed before (w.act .step) (events ++ (w.told .step).map (·.2))
  := by
  have finished : (w.act .step).tracer.finished = true := by
    rw [finished_step enabled started, verdict, Bool.or_true]
  have again : (w.act .step).solver.step.1.isTerminal = true :=
    Solver.verdict_of_terminal (Solver.step_of_verdict verdict).2.2
  obtain ⟨event, same, story⟩ := Solver.exists_verdict? verdict
  have tells : (w.told .step).map (·.2) = if w.tracer.finished then [] else [event] := by
    rw [Watch.told, Tracer.stepEntries_of_verdict verdict, List.map_map, ← story]
    exact List.map_id _
  rw [tells]
  cases before : w.tracer.finished with
  | true =>
    rw [if_pos rfl, List.append_nil]
    refine ⟨?_, fun _ => again, fun _ => finished, fun _ => ?_⟩
    · rw [finished, ← before]
      exact reports.spaced
    · rw [← reports.told before]
      exact Solver.verdictTold_step verdict events
  | false =>
    rw [if_neg Bool.false_ne_true]
    refine ⟨?_, fun _ => again, fun _ => finished, fun _ => ?_⟩
    · have spaced := reports.spaced
      rw [before] at spaced
      rw [finished]
      exact spaced.concat_terminal
    · apply iff_of_true
      · have now : w.solver.VerdictTold (events ++ [event]) :=
          ⟨events, event, [], same, rfl, List.forall_mem_nil _⟩
        exact (Solver.verdictTold_step verdict _).mpr now
      · intro ended
        rw [reports.taken ended] at before
        cases before

/-- A tracer takes the end of the run for told if the solver is rewound to it. -/
theorem Reports.rewind (reports : Reports resumed before w events)
    (rewound : w.solver.rewind n = .ok s) :
  Reports (w.act (.rewind n)) (events ++ (w.told (.rewind n)).map (·.2)) (w.act (.rewind n))
    (events ++ (w.told (.rewind n)).map (·.2))
  := by
  have notes := (w.tracer.tells_rewound s n).2
  have finished : (w.tracer.rewound s n).finished = s.isTerminal :=
    congrArg Tracer.Notes.finished notes
  rw [told_rewind rewound, act_rewind rewound]
  constructor
  · exact reports.spaced.concat_rewind rfl _
  · intro ended
    rw [finished] at ended
    exact Solver.verdict_of_terminal ended
  · intro ended
    rw [finished]
    exact ended
  · intro ended
    rw [finished] at ended
    exact ⟨fun told _ => told, fun told => told ended⟩

/-- What holds at the start of a run. -/
theorem reports_begin (enabled : t.config.enabled = true) (ongoing : start.isTerminal = false) :
  Reports (begin t start) (Watch.events t start []) (begin t start) (Watch.events t start [])
  := by
  have notes := (Tracer.tells_begin enabled start).2
  have unfinished : (t.begin start).finished = false := congrArg Tracer.Notes.finished notes
  constructor
  · change Spaced (t.begin start).finished _
    rw [unfinished]
    exact spaced_of_none rfl
  · intro finished
    rw [begin, unfinished] at finished
    cases finished
  · intro ended
    rw [begin, ongoing] at ended
    cases ended
  · intro finished
    rw [begin, unfinished] at finished
    cases finished

/-! ### Runs -/

/-- Whatever was done before, a tracer that is never disabled has told of the verdict unless it was
rewound to it. -/
theorem reports_after (enabled : t.config.enabled = true) (ongoing : start.isTerminal = false)
    (steady : .setEnabled false ∉ acts) :
  Reports ((begin t start).latest rewinds acts)
    (Watch.events t start ((begin t start).upTo rewinds acts)) ((begin t start).after acts)
    (Watch.events t start acts)
  := by
  induction acts using List.reverseRecOn with
  | nil => exact reports_begin enabled ongoing
  | append_singleton acts act ih =>
    obtain ⟨before, -⟩ := steady_of_concat steady
    have started := started_after enabled start acts
    have reports := ih before
    have enabled := enabled_after enabled start before
    obtain rfl | ⟨n, s, rfl, rewound⟩ | idle :=
      ((begin t start).after acts).step_or_rewind_or_idle act
    · rw [latest_concat_of_not_kind rfl, upTo_concat_of_not_kind rfl, events_concat, after_concat]
      obtain ⟨e, outcome⟩ | verdict := ((begin t start).after acts).solver.examined_or_verdict
      · exact reports.examined enabled started outcome
      · exact reports.verdict enabled started verdict
    · have is := rewinds_of_ok rewound
      rw [latest_concat_of_kind is, upTo_concat_of_kind is, events_concat, after_concat]
      exact reports.rewind rewound
    · rw [latest_concat_of_not_kind idle.noRewind, upTo_concat_of_not_kind idle.noRewind,
        events_concat, told_of_idle idle, List.map_nil, List.append_nil, after_concat]
      have finished : (((begin t start).after acts).act act).tracer.finished
          = ((begin t start).after acts).tracer.finished :=
        congrArg Tracer.Notes.finished idle.notes
      constructor
      · rw [finished]
        exact reports.spaced
      · rw [finished, idle.solver]
        exact reports.ended
      · rw [finished]
        exact reports.taken
      · rw [finished, idle.solver]
        exact reports.told

theorem isTerminal_latest (new : start.New) (ongoing : start.isTerminal = false)
    (policy : start.config.snapshots ≠ .everyStep) (t : Tracer) (acts : List Act) :
  ((begin t start).latest rewinds acts).solver.isTerminal = false
  := by
  induction acts using List.reverseRecOn with
  | nil => exact ongoing
  | append_singleton acts act ih =>
    obtain rfl | ⟨n, s, rfl, rewound⟩ | idle :=
      ((begin t start).after acts).step_or_rewind_or_idle act
    · rw [latest_concat_of_not_kind rfl]
      exact ih
    · rw [latest_concat_of_kind (rewinds_of_ok rewound), act_rewind rewound]
      exact Solver.isTerminal_rewind new (onCourse_after new t acts) policy rewound
    · rw [latest_concat_of_not_kind idle.noRewind]
      exact ih

/-- A tracer that is never disabled, has no filter and drops no record has recorded no two ends of
the run without a rewind between them.  After a step that reports a verdict, it has recorded that
since the last examination, unless the solver was last rewound to the end of the run and the verdict
had not been recorded then; and that takes a snapshot after every step. -/
theorem verdict_after {registry : Registry} {inputs : List FactId} {rules : List Rule}
    {config : SolverConfig} (created : Solver.create registry inputs rules config = .ok start)
    (t : Tracer) (acts : List Act) (enabled : t.config.enabled = true)
    (unfiltered : t.config.filter = []) (steady : .setEnabled false ∉ acts)
    (room : t.buffer.records.length + (Watch.events t start acts).length ≤ t.buffer.maxSize) :
  (∃ made, ((begin t start).after acts).tracer.buffer.records = t.buffer.records ++ made
      ∧ made.map (·.event) = Watch.events t start acts)
    ∧ (∀ segment, segment <:+: Watch.events t start acts →
      (∀ event ∈ segment, event.isRewind = false) → segment.countP (·.isTerminal) ≤ 1)
    ∧ ∀ before, acts = before ++ [.step] →
      ((begin t start).after before).solver.step.1.isTerminal = true →
      (((begin t start).after before).solver.VerdictTold (Watch.events t start acts)
          ↔ (((begin t start).latest rewinds before).solver.isTerminal = true →
            ((begin t start).latest rewinds before).solver.VerdictTold
              (Watch.events t start ((begin t start).upTo rewinds before))))
        ∧ (config.snapshots ≠ .everyStep →
          ((begin t start).after before).solver.VerdictTold (Watch.events t start acts))
  := by
  have new := Solver.new_of_create created
  have ongoing : start.isTerminal = false ∧ start.config = config := by
    obtain ⟨-, -, rfl⟩ := (Solver.create_eq_ok_iff ..).mp created
    exact ⟨rfl, rfl⟩
  have reports := reports_after enabled ongoing.1 steady
  have records := (tells_after enabled start steady).records unfiltered
  refine ⟨(records.added room).2, reports.spaced.apart, ?_⟩
  rintro before rfl verdict
  have enabled' := enabled_after enabled start (steady_of_concat steady).1
  have finished : ((begin t start).after (before ++ [.step])).tracer.finished = true := by
    rw [after_concat, finished_step enabled' (started_after enabled start before), verdict,
      Bool.or_true]
  have after := reports.told finished
  rw [latest_concat_of_not_kind rfl, upTo_concat_of_not_kind rfl, after_concat] at after
  have told := (Solver.verdictTold_step verdict _).symm.trans after
  refine ⟨told, fun policy => told.mpr fun ended => ?_⟩
  rw [isTerminal_latest new ongoing.1 (ongoing.2 ▸ policy)] at ended
  cases ended

/-! ### A chain that is rewound -/

/-- Seven steps, of which the last reports the deadlock of the chain; back to the end of the first
pass; and all steps but the last once more. -/
def deadlockedTwice : List Act :=
  List.replicate 7 .step ++ .rewind 3 :: List.replicate 3 .step

/-- The deadlock of the chain is recorded again when it is reported again. -/
theorem verdict_after_chain :
  ((Watch.events (.create { enabled := true }) (Solver.chain { snapshots := .everyStep })
      (deadlockedTwice ++ [.step])).countP (·.isTerminal) = 2)
    ∧ ((chainWatch { snapshots := .everyStep }).after deadlockedTwice).solver.VerdictTold
      (Watch.events (.create { enabled := true }) (Solver.chain { snapshots := .everyStep })
        (deadlockedTwice ++ [.step]))
  := by
  obtain ⟨-, -, told⟩ := verdict_after (Solver.create_chain { snapshots := .everyStep })
    (.create { enabled := true }) (deadlockedTwice ++ [.step]) rfl rfl (by decide)
    (by decide +kernel)
  constructor
  · decide +kernel
  · apply (told deadlockedTwice rfl (by decide +kernel)).1.mpr
    intro ended
    exact absurd ended (by decide +kernel)

/-- The deadlock of the chain is not recorded if the chain is rewound to the end of the run before
it was reported. -/
theorem verdict_lost_chain :
  ((chainWatch { snapshots := .everyStep }).after
      (List.replicate 6 .step ++ [.rewind 6])).solver.step.1 = .failed ⟨[⟨0⟩], 3⟩
    ∧ ((chainWatch { snapshots := .everyStep }).after
      (List.replicate 6 .step ++ [.rewind 6, .step])).tracer.buffer.records.countP
        (·.event.isTerminal) = 0
  := by
  decide +kernel

end Watch

end ForwardChaining
