import ForwardChaining.Proofs.Trace.Watching

/-!
# Passes of records

The pass under which a tracer tells of a step is the one that the solver was in when the tracer last
took note of that (`Watch.currentPass_after`).  A tracer that is disabled does not take note of it
when a step ends a pass, and is not told of that when it is enabled again.  So its records are
ascribed to the pass of the solver exactly if no pass has ended unseen (`Watch.ascribed_after`).
-/

namespace ForwardChaining

/-- The event tells of the examination of a rule. -/
def TraceEvent.isOfExamination : TraceEvent → Bool
  | ruleExamined .. | ruleFired .. | effectPerformed .. | factAsserted .. => true
  | _ => false

theorem TraceEvent.endedPass?_eq_some_iff {event : TraceEvent} {pass : Nat} :
  event.endedPass? = some pass ↔ ∃ fired, event = .passEnd pass fired
  := by
  cases event <;> simp [endedPass?]

namespace Watch

/-- The tracer takes note of the pass: it is told of an examination, or of a rewind. -/
def notices (w : Watch) : Act → Bool
  | .step => w.tracer.config.enabled && !w.solver.step.1.isTerminal
  | act => w.rewinds act

variable {w : Watch} {t : Tracer} {start s : Solver} {acts : List Act} {act : Act} {n : Nat}

theorem notices_of_idle (idle : w.Idle act) :
  w.notices act = false
  := by
  cases act with
  | step => exact absurd rfl idle.noStep
  | rewind n => exact idle.noRewind
  | setEnabled enabled => rfl
  | atTime nanoseconds => rfl

theorem notices_of_ok (rewound : w.solver.rewind n = .ok s) :
  w.notices (.rewind n) = true
  := rewinds_of_ok rewound

/-! ### The pass that is noted -/

/-- What a step leads a tracer to note of the pass. -/
theorem currentPass_step (started : w.tracer.started = true) :
  (w.act .step).tracer.currentPass
    = if w.notices .step then (w.act .step).solver.iteration else w.tracer.currentPass
  := by
  rw [notices]
  cases enabled : w.tracer.config.enabled with
  | false =>
    have same := Tracer.observe_of_disabled enabled w.solver.step.2 w.solver.step.1
    exact congrArg Tracer.currentPass same
  | true =>
    have notes := (Tracer.tells_observe enabled started w.solver).2
    refine (congrArg Tracer.Notes.currentPass notes).trans ?_
    obtain ⟨e, outcome⟩ | verdict := w.solver.examined_or_verdict
    · rw [Tracer.currentPass_afterStep _ outcome, outcome]
      rfl
    · rw [Tracer.afterStep_of_verdict _ verdict, verdict]
      rfl

/-- A tracer notes the pass that the solver was in when it last took note of that. -/
theorem currentPass_after (enabled : t.config.enabled = true) (start : Solver) (acts : List Act) :
  ((begin t start).after acts).tracer.currentPass
    = ((begin t start).latest notices acts).solver.iteration
  := by
  induction acts using List.reverseRecOn with
  | nil => exact congrArg Tracer.Notes.currentPass (Tracer.tells_begin enabled start).2
  | append_singleton acts act ih =>
    have started := started_after enabled start acts
    rw [after_concat]
    obtain rfl | ⟨n, s, rfl, rewound⟩ | idle :=
      ((begin t start).after acts).step_or_rewind_or_idle act
    · rw [currentPass_step started]
      split
      · rename_i noticed
        rw [latest_concat_of_kind noticed]
      · rename_i unnoticed
        rw [latest_concat_of_not_kind (Bool.eq_false_iff.mpr unnoticed), ih]
    · have notes := (((begin t start).after acts).tracer.tells_rewound s n).2
      rw [latest_concat_of_kind (notices_of_ok rewound), act_rewind rewound]
      exact congrArg Tracer.Notes.currentPass notes
    · rw [latest_concat_of_not_kind (notices_of_idle idle), ← ih]
      exact congrArg Tracer.Notes.currentPass idle.notes

/-- A tracer that is never disabled takes note of every turn of the pass. -/
theorem iteration_latest_of_steady (enabled : t.config.enabled = true)
    (steady : .setEnabled false ∉ acts) :
  ((begin t start).latest notices acts).solver.iteration
    = ((begin t start).after acts).solver.iteration
  := by
  induction acts using List.reverseRecOn with
  | nil => rfl
  | append_singleton acts act ih =>
    obtain ⟨before, -⟩ := steady_of_concat steady
    cases noticed : ((begin t start).after acts).notices act with
    | true => rw [latest_concat_of_kind noticed, after_concat]
    | false =>
      rw [latest_concat_of_not_kind noticed, ih before, after_concat]
      obtain rfl | ⟨n, s, rfl, rewound⟩ | idle :=
        ((begin t start).after acts).step_or_rewind_or_idle act
      · have verdict : ((begin t start).after acts).solver.step.1.isTerminal = true := by
          rw [notices, enabled_after enabled start before, Bool.true_and] at noticed
          simpa using noticed
        exact congrArg Position.iteration (Solver.step_of_verdict verdict).1.symm
      · rw [notices_of_ok rewound] at noticed
        cases noticed
      · rw [idle.solver]

/-! ### Records of a step -/

/-- What the records tell of examinations is ascribed to the pass of the solver `s`, and the end of
a pass is recorded when the next step of `s` ends that pass. -/
structure Ascribed (s : Solver) (made : List TraceRecord) : Prop where
  examination : ∀ r ∈ made, r.event.isOfExamination = true → r.pass = s.iteration
  passEnd : ∀ r ∈ made, ∀ pass, r.event.endedPass? = some pass →
    pass = s.iteration ∧ s.step.2.iteration = pass + 1

/-- Records that are ascribed to a pass are ascribed to that of the solver if it is the same, or if
they tell of nothing that happens in a pass. -/
theorem ascribed_iff {s : Solver} {made : List TraceRecord} {pass : Nat}
    (examination : ∀ r ∈ made, r.event.isOfExamination = true → r.pass = pass)
    (passEnd : ∀ r ∈ made, ∀ p, r.event.endedPass? = some p →
      p = pass ∧ s.step.2.iteration ≠ pass) :
  Ascribed s made ↔ pass = s.iteration
    ∨ ∀ r ∈ made, r.event.isOfExamination = false ∧ r.event.endedPass? = none
  := by
  constructor
  · intro ascribed
    by_cases same : pass = s.iteration
    · left
      exact same
    right
    intro r member
    constructor
    · cases told : r.event.isOfExamination with
      | false => rfl
      | true =>
        have noted := examination r member told
        exact absurd (noted.symm.trans (ascribed.examination r member told)) same
    · cases told : r.event.endedPass? with
      | none => rfl
      | some p =>
        have noted := (passEnd r member p told).1
        exact absurd (noted.symm.trans (ascribed.passEnd r member p told).1) same
  · rintro (rfl | apart)
    · constructor
      · exact examination
      · intro r member p told
        obtain ⟨rfl, ended⟩ := passEnd r member p told
        obtain ⟨same, -⟩ | ⟨turned, -⟩ := s.pass_step
        · exact absurd same ended
        · exact ⟨rfl, turned⟩
    · constructor
      · intro r member told
        rw [(apart r member).1] at told
        cases told
      · intro r member p told
        rw [(apart r member).2] at told
        cases told

/-- Whatever was done before, the records of a step are ascribed to the pass that the solver was in
when the tracer last took note of that.  So they are ascribed rightly exactly if no pass has ended
since, or if they tell of nothing that happens in a pass. -/
theorem ascribed_after (t : Tracer) (start : Solver) (acts : List Act)
    (enabled : t.config.enabled = true) :
  ∃ made, ((begin t start).after acts).tracer.Makes made
      ((begin t start).after (acts ++ [.step])).tracer
    ∧ (∀ r ∈ made, r.event.isOfExamination = true →
        r.pass = ((begin t start).latest notices acts).solver.iteration)
    ∧ (∀ r ∈ made, ∀ pass, r.event.endedPass? = some pass →
        pass = ((begin t start).latest notices acts).solver.iteration
          ∧ ((begin t start).after (acts ++ [.step])).solver.iteration ≠ pass)
    ∧ (Ascribed ((begin t start).after acts).solver made
      ↔ ((begin t start).latest notices acts).solver.iteration
          = ((begin t start).after acts).solver.iteration
        ∨ ∀ r ∈ made, r.event.isOfExamination = false ∧ r.event.endedPass? = none)
  := by
  have started := started_after enabled start acts
  have noted := currentPass_after enabled start acts
  rw [after_concat]
  generalize (begin t start).after acts = w at started noted ⊢
  obtain ⟨made, makes, told⟩ := exists_made_step started
  have examination : ∀ r ∈ made, r.event.isOfExamination = true →
      r.pass = ((begin t start).latest notices acts).solver.iteration := by
    intro r member isOf
    rw [← noted]
    obtain ⟨pass, -⟩ | ⟨ended, -⟩ | begun := Tracer.mem_stepEntries (told r member)
    · exact pass
    · exact congrArg Prod.fst ended
    · have event : r.event = .passStart _ := congrArg Prod.snd begun
      rw [event] at isOf
      cases isOf
  have passEnd : ∀ r ∈ made, ∀ p, r.event.endedPass? = some p →
      p = ((begin t start).latest notices acts).solver.iteration
        ∧ w.solver.step.2.iteration
          ≠ ((begin t start).latest notices acts).solver.iteration := by
    intro r member p tells
    obtain ⟨fired, event⟩ := TraceEvent.endedPass?_eq_some_iff.mp tells
    have entry := told r member
    rw [TraceRecord.entry, event] at entry
    obtain ⟨ended, -, other⟩ := Tracer.passEnd_of_mem_stepEntries entry
    rw [← noted]
    exact ⟨ended, other⟩
  refine ⟨made, makes, examination, ?_, ascribed_iff examination passEnd⟩
  intro r member p tells
  obtain ⟨rfl, other⟩ := passEnd r member p tells
  exact ⟨rfl, other⟩

/-! ### A chain watched in part -/

/-- So many steps, of which the tracer is not told. -/
def unseen (n : Nat) : List Act :=
  .setEnabled false :: List.replicate n .step ++ [.setEnabled true]

/-- A tracer that was not told of the first two steps of the first pass ascribes the third step,
which ends it, rightly. -/
theorem ascribed_after_chain :
  ∃ made, made.map (·.entry) = [(0, .ruleExamined ⟨2⟩ true), (0, .ruleFired ⟨2⟩),
      (0, .factAsserted (Solver.chainFact 1) ⟨2⟩), (0, .passEnd 0 1), (1, .passStart 1)]
    ∧ ((chainWatch {}).after (unseen 2)).tracer.Makes made
      ((chainWatch {}).after (unseen 2 ++ [.step])).tracer
    ∧ Ascribed ((chainWatch {}).after (unseen 2)).solver made
  := by
  obtain ⟨made, makes, -, -, ascribed⟩ :=
    ascribed_after (.create { enabled := true }) (Solver.chain {}) (unseen 2) rfl
  refine ⟨made, ?_, makes, ascribed.mpr (.inl ?_)⟩
  · rw [makes.eq_drop (by decide +kernel)]
    decide +kernel
  · decide +kernel

/-- A tracer that was not told of the first pass ascribes the first step of the second pass to it,
and then records its end. -/
theorem ascribed_wrongly_chain :
  ((chainWatch {}).after (unseen 3)).solver.iteration = 1
    ∧ ((chainWatch {}).after (unseen 3 ++ [.step])).solver.iteration = 1
    ∧ ((chainWatch {}).after (unseen 3 ++ [.step])).tracer.buffer.records.map (·.entry)
      = [(0, .runStart 3 1), (0, .passStart 0), (0, .ruleExamined ⟨0⟩ false), (0, .passEnd 0 0),
        (1, .passStart 1)]
  := by
  decide +kernel

end Watch

end ForwardChaining
