import ForwardChaining.Proofs.Solver.Chronicle
import ForwardChaining.Proofs.Trace.Telling

/-!
# Watching a solver

A tracer that watches a solver is told of the start of the run, and then of every step and of every
rewind; it may be disabled and enabled again at any time (`Watch.after`).  Every act is a step, a
rewind, or one that changes neither the solver nor what the tracer has noted of it
(`Watch.step_or_rewind_or_idle`).
-/

namespace ForwardChaining

/-- A solver, and the tracer that watches it. -/
structure Watch where
  solver : Solver
  tracer : Tracer

/-- What a caller can do with a solver that is watched. -/
inductive Act where
  /-- One step, of whose outcome the tracer is told. -/
  | step
  /-- Back to the state after the given step, of which the tracer is told. -/
  | rewind (step : Nat)
  /-- The tracer is enabled or disabled. -/
  | setEnabled (enabled : Bool)
  /-- The tracer is told the time. -/
  | atTime (nanoseconds : Nat)
  deriving DecidableEq

namespace Watch

/-- The tracer is told of the start of a run. -/
def begin (t : Tracer) (start : Solver) : Watch :=
  ⟨start, t.begin start⟩

/-- A rewind that fails leaves the solver as it is, and the tracer is not told of it. -/
def act (w : Watch) : Act → Watch
  | .step => ⟨w.solver.step.2, w.tracer.observe w.solver.step.2 w.solver.step.1⟩
  | .rewind step =>
    match w.solver.rewind step with
    | .ok restored => ⟨restored, w.tracer.rewound restored step⟩
    | .error _ => w
  | .setEnabled enabled => ⟨w.solver, w.tracer.setEnabled enabled⟩
  | .atTime nanoseconds => ⟨w.solver, w.tracer.atTime nanoseconds⟩

/-- After the given acts, in order. -/
def after (w : Watch) (acts : List Act) : Watch :=
  acts.foldl act w

/-- The acts up to the last one of the kind; there are none if no act is of the kind. -/
def upTo (kind : Watch → Act → Bool) (w : Watch) : List Act → List Act
  | [] => []
  | act :: acts =>
    match upTo kind (w.act act) acts with
    | [] => if kind w act then [act] else []
    | later => act :: later

/-- After the last of the acts that is of the kind, or before all of them if none is. -/
def latest (kind : Watch → Act → Bool) (w : Watch) (acts : List Act) : Watch :=
  w.after (w.upTo kind acts)

/-- The act is a rewind, and it succeeds. -/
def rewinds (w : Watch) : Act → Bool
  | .rewind step => (w.solver.rewind step).toOption.isSome
  | _ => false

variable {w : Watch} {t : Tracer} {start s : Solver} {kind : Watch → Act → Bool}
  {acts : List Act} {act : Act} {n : Nat}

/-! ### Acts in a row -/

theorem after_concat (w : Watch) (acts : List Act) (act : Act) :
  w.after (acts ++ [act]) = (w.after acts).act act
  := List.foldl_append

theorem upTo_concat_of_kind (is : kind (w.after acts) act = true) :
  w.upTo kind (acts ++ [act]) = acts ++ [act]
  := by
  induction acts generalizing w with
  | nil =>
    change (if kind w act then [act] else []) = [act]
    exact if_pos is
  | cons first acts ih =>
    rw [List.cons_append, upTo, ih is]
    cases acts <;> rfl

theorem upTo_concat_of_not_kind (other : kind (w.after acts) act = false) :
  w.upTo kind (acts ++ [act]) = w.upTo kind acts
  := by
  induction acts generalizing w with
  | nil =>
    change (if kind w act then [act] else []) = []
    exact if_neg (Bool.eq_false_iff.mp other)
  | cons first acts ih => rw [List.cons_append, upTo, upTo, ih other]

theorem latest_concat_of_kind (is : kind (w.after acts) act = true) :
  w.latest kind (acts ++ [act]) = (w.after acts).act act
  := by
  rw [latest, upTo_concat_of_kind is, after_concat]

theorem latest_concat_of_not_kind (other : kind (w.after acts) act = false) :
  w.latest kind (acts ++ [act]) = w.latest kind acts
  := by
  rw [latest, latest, upTo_concat_of_not_kind other]

/-- Acts that do not disable the tracer did not before the last of them. -/
theorem steady_of_concat (steady : .setEnabled false ∉ acts ++ [act]) :
  .setEnabled false ∉ acts ∧ act ≠ .setEnabled false
  := by
  constructor
  · intro member
    exact steady (List.mem_append_left _ member)
  · rintro rfl
    exact steady (List.mem_append_right _ List.mem_cons_self)

/-! ### Kinds of acts -/

theorem act_rewind (rewound : w.solver.rewind n = .ok s) :
  w.act (.rewind n) = ⟨s, w.tracer.rewound s n⟩
  := by
  simp only [Watch.act, rewound]

theorem rewinds_of_ok (rewound : w.solver.rewind n = .ok s) :
  w.rewinds (.rewind n) = true
  := by
  rw [rewinds, rewound]
  rfl

/-- The act changes neither the solver nor what the tracer has noted of it. -/
structure Idle (w : Watch) (act : Act) : Prop where
  noStep : act ≠ .step
  noRewind : w.rewinds act = false
  solver : (w.act act).solver = w.solver
  notes : (w.act act).tracer.notes = w.tracer.notes
  buffer : (w.act act).tracer.buffer = w.tracer.buffer
  /-- To enable a tracer that is enabled does not change its settings. -/
  config : act ≠ .setEnabled false → w.tracer.config.enabled = true →
    (w.act act).tracer.config = w.tracer.config

theorem idle_rewind {e : Error} (failed : w.solver.rewind n = .error e) :
  w.Idle (.rewind n)
  := by
  have same : w.act (.rewind n) = w := by
    simp only [Watch.act, failed]
  constructor
  · exact Act.noConfusion
  · rw [rewinds, failed]
    rfl
  · rw [same]
  · rw [same]
  · rw [same]
  · intro _ _
    rw [same]

theorem idle_setEnabled (w : Watch) (enabled : Bool) :
  w.Idle (.setEnabled enabled)
  := by
  refine ⟨Act.noConfusion, rfl, rfl, rfl, rfl, ?_⟩
  intro other before
  have enabled : enabled = true := by
    cases enabled with
    | true => rfl
    | false => exact absurd rfl other
  rw [enabled, ← before]
  rfl

theorem idle_atTime (w : Watch) (nanoseconds : Nat) :
  w.Idle (.atTime nanoseconds)
  := ⟨Act.noConfusion, rfl, rfl, rfl, rfl, fun _ _ => rfl⟩

/-- Every act is a step, a rewind that succeeds, or idle. -/
theorem step_or_rewind_or_idle (w : Watch) (act : Act) :
  act = .step ∨ (∃ n s, act = .rewind n ∧ w.solver.rewind n = .ok s) ∨ w.Idle act
  := by
  cases act with
  | step =>
    left
    rfl
  | rewind n =>
    right
    cases rewound : w.solver.rewind n with
    | ok s =>
      left
      use n, s
    | error e =>
      right
      exact idle_rewind rewound
  | setEnabled enabled =>
    right
    right
    exact w.idle_setEnabled enabled
  | atTime nanoseconds =>
    right
    right
    exact w.idle_atTime nanoseconds

/-! ### What a run of acts keeps -/

/-- Whatever the acts, the solver stays on course. -/
theorem onCourse_after (new : start.New) (t : Tracer) (acts : List Act) :
  start.OnCourse ((begin t start).after acts).solver
  := by
  induction acts using List.reverseRecOn with
  | nil => exact new.onCourse
  | append_singleton acts act ih =>
    rw [after_concat]
    obtain rfl | ⟨n, s, rfl, rewound⟩ | idle :=
      ((begin t start).after acts).step_or_rewind_or_idle act
    · exact ih.step
    · rw [act_rewind rewound]
      exact ih.rewind new rewound
    · rw [idle.solver]
      exact ih

/-- A tracer that has been told of the start of the run knows of it. -/
theorem started_after (enabled : t.config.enabled = true) (start : Solver) (acts : List Act) :
  ((begin t start).after acts).tracer.started = true
  := by
  induction acts using List.reverseRecOn with
  | nil => exact congrArg Tracer.Notes.started (Tracer.tells_begin enabled start).2
  | append_singleton acts act ih =>
    generalize before : (begin t start).after acts = w at ih
    rw [after_concat, before]
    obtain rfl | ⟨n, s, rfl, rewound⟩ | idle := w.step_or_rewind_or_idle act
    · cases enabled : w.tracer.config.enabled with
      | true =>
        have notes := (Tracer.tells_observe enabled ih w.solver).2
        have kept := Tracer.started_afterStep w.tracer.notes w.solver
        exact (congrArg Tracer.Notes.started notes).trans (kept.trans ih)
      | false =>
        have same := Tracer.observe_of_disabled enabled w.solver.step.2 w.solver.step.1
        exact (congrArg Tracer.started same).trans ih
    · have notes := (w.tracer.tells_rewound s n).2
      rw [act_rewind rewound]
      exact (congrArg Tracer.Notes.started notes).trans ih
    · exact (congrArg Tracer.Notes.started idle.notes).trans ih

/-- What is recorded of a step is among what there is to tell of it. -/
theorem exists_made_step (started : w.tracer.started = true) :
  ∃ made, w.tracer.Makes made (w.act .step).tracer
    ∧ ∀ r ∈ made, r.entry ∈ w.tracer.notes.stepEntries w.solver
  := by
  cases enabled : w.tracer.config.enabled with
  | false =>
    have same := Tracer.observe_of_disabled enabled w.solver.step.2 w.solver.step.1
    exact ⟨[], Tracer.makes_nil (congrArg Tracer.buffer same), List.forall_mem_nil _⟩
  | true =>
    obtain ⟨-, made, makes, told⟩ := (Tracer.tells_observe enabled started w.solver).1
    use made, makes
    intro r member
    have entry : r.entry ∈ made.map (·.entry) := List.mem_map_of_mem member
    rw [told] at entry
    exact (List.mem_filter.mp entry).1

/-! ### What there is to tell -/

/-- What there is to tell of an act, and under which passes. -/
def told (w : Watch) : Act → List (Nat × TraceEvent)
  | .step => w.tracer.notes.stepEntries w.solver
  | .rewind step =>
    match w.solver.rewind step with
    | .ok restored => Tracer.rewindEntries restored step
    | .error _ => []
  | _ => []

/-- What there is to tell of the given acts. -/
def toldAll (w : Watch) : List Act → List (Nat × TraceEvent)
  | [] => []
  | act :: acts => w.told act ++ (w.act act).toldAll acts

/-- The events that there are to tell from the start of the run on. -/
def events (t : Tracer) (start : Solver) (acts : List Act) : List TraceEvent :=
  (Tracer.startEntries start start.memory.size ++ (begin t start).toldAll acts).map (·.2)

theorem toldAll_concat (w : Watch) (acts : List Act) (act : Act) :
  w.toldAll (acts ++ [act]) = w.toldAll acts ++ (w.after acts).told act
  := by
  induction acts generalizing w with
  | nil => exact List.append_nil _
  | cons first acts ih =>
    rw [List.cons_append, toldAll, toldAll, ih, List.append_assoc]
    rfl

theorem events_concat (t : Tracer) (start : Solver) (acts : List Act) (act : Act) :
  events t start (acts ++ [act])
    = events t start acts ++ (((begin t start).after acts).told act).map (·.2)
  := by
  rw [events, toldAll_concat, ← List.append_assoc, List.map_append]
  rfl

theorem told_rewind (rewound : w.solver.rewind n = .ok s) :
  w.told (.rewind n) = Tracer.rewindEntries s n
  := by
  simp only [told, rewound]

theorem told_of_idle (idle : w.Idle act) :
  w.told act = []
  := by
  cases act with
  | step => exact absurd rfl idle.noStep
  | rewind n =>
    cases rewound : w.solver.rewind n with
    | ok s =>
      have rewinds := idle.noRewind
      rw [rewinds_of_ok rewound] at rewinds
      cases rewinds
    | error e => simp only [told, rewound]
  | setEnabled enabled => rfl
  | atTime nanoseconds => rfl

/-- A tracer that is never disabled is told all that there is to tell. -/
theorem tells_after (enabled : t.config.enabled = true) (start : Solver)
    (steady : .setEnabled false ∉ acts) :
  t.Tells (Tracer.startEntries start start.memory.size ++ (begin t start).toldAll acts)
    ((begin t start).after acts).tracer
  := by
  induction acts using List.reverseRecOn with
  | nil =>
    have begun := (Tracer.tells_begin enabled start).1
    rw [toldAll, List.append_nil]
    exact begun
  | append_singleton acts act ih =>
    obtain ⟨before, last⟩ := steady_of_concat steady
    have started := started_after enabled start acts
    have enabled : ((begin t start).after acts).tracer.config.enabled = true := by
      rw [(ih before).config, enabled]
    rw [toldAll_concat, ← List.append_assoc, after_concat]
    apply (ih before).append
    obtain rfl | ⟨n, s, rfl, rewound⟩ | idle :=
      ((begin t start).after acts).step_or_rewind_or_idle act
    · exact (Tracer.tells_observe enabled started _).1
    · have told := (((begin t start).after acts).tracer.tells_rewound s n).1
      rw [if_pos enabled] at told
      rw [told_rewind rewound, act_rewind rewound]
      exact told
    · rw [told_of_idle idle]
      exact Tracer.tells_nil (idle.config last enabled) idle.buffer

theorem enabled_after (enabled : t.config.enabled = true) (start : Solver)
    (steady : .setEnabled false ∉ acts) :
  ((begin t start).after acts).tracer.config.enabled = true
  := by
  rw [(tells_after enabled start steady).config, enabled]

/-- The chain, watched from the start by a tracer of the default size. -/
def chainWatch (config : SolverConfig) : Watch :=
  begin (.create { enabled := true }) (Solver.chain config)

end Watch

end ForwardChaining
