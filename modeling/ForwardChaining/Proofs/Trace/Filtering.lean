import ForwardChaining.Proofs.Solver.Creation
import ForwardChaining.Proofs.Trace.Buffering
import ForwardChaining.Proofs.Trace.Telling

/-!
# Filters

A filter has no part in what a tracer notes of a run.  What a tracer hears of some calls, and under
which passes, depends on the calls, on whether it is enabled and on what it has noted before
(`Tracer.hears_afterCalls`); of that, the filter chooses what is recorded, and the buffer keeps the
last of it.  So a tracer with a filter keeps the last of what the filter admits of the records that
a tracer without one makes of the same calls (`Tracer.filtered_after`).
-/

namespace ForwardChaining

namespace Tracer

/-- What a tracer can be told.  The solvers and the outcomes need not be those of one run. -/
inductive Call where
  /-- A run starts in this state. -/
  | begin (s : Solver)
  /-- A step with this outcome led to the state `after`. -/
  | observe (after : Solver) (o : Outcome)
  /-- The solver has been rewound to the state `s` after the given step. -/
  | rewound (s : Solver) (step : Nat)
  /-- An event that does not come from a step. -/
  | record (event : TraceEvent)
  /-- The tracer is enabled or disabled. -/
  | setEnabled (enabled : Bool)
  /-- The tracer is told the time. -/
  | atTime (nanoseconds : Nat)

/-- The tracer after a call. -/
def call (t : Tracer) : Call → Tracer
  | .begin s => t.begin s
  | .observe after o => t.observe after o
  | .rewound s step => t.rewound s step
  | .record event => t.record event
  | .setEnabled enabled => t.setEnabled enabled
  | .atTime nanoseconds => t.atTime nanoseconds

/-- The tracer after the given calls, in order. -/
def afterCalls (t : Tracer) (calls : List Call) : Tracer :=
  calls.foldl call t

/-- What the tracer keeps: the pass of each record, and its event. -/
def pairs (t : Tracer) : List (Nat × TraceEvent) :=
  t.buffer.records.map (·.entry)

/-- The tracer still keeps every record that it has made. -/
def KeepsAll (t : Tracer) : Prop :=
  t.buffer.records.length = t.buffer.nextId

instance {t : Tracer} : Decidable t.KeepsAll :=
  inferInstanceAs (Decidable (_ = _))

/-! ### What is heard -/

/-- What decides what a tracer hears: whether it is enabled, and what it has noted. -/
structure Attention where
  enabled : Bool
  notes : Notes

namespace Attention

/-- What is told of the start of a run before its first outcome, unless that has been done. -/
def lateStart (a : Attention) (after : Solver) (o : Outcome) : List (Nat × TraceEvent) :=
  if a.notes.started then []
  else startEntries after (after.memory.size - o.examination?.elim 0 (·.asserted.length))

/-- The notes when the run is known to have started. -/
def begun (a : Attention) (after : Solver) : Notes :=
  if a.notes.started then a.notes else .starting after

/-- What is heard of a call; a tracer that is disabled hears nothing. -/
def hears (a : Attention) (c : Call) : List (Nat × TraceEvent) :=
  if a.enabled then
    match c with
    | .begin s => startEntries s s.memory.size
    | .observe after o => a.lateStart after o ++ (a.begun after).outcomeEntries after o
    | .rewound s step => rewindEntries s step
    | .record event => [(a.notes.currentPass, event)]
    | .setEnabled _ => []
    | .atTime _ => []
  else []

/-- What is noted of a call.  A rewind is noted by a disabled tracer too. -/
def next (a : Attention) : Call → Attention
  | .begin s => if a.enabled then { a with notes := .starting s } else a
  | .observe after o =>
    if a.enabled then { a with notes := (a.begun after).afterOutcome after o } else a
  | .rewound s _ => { a with notes := a.notes.rewound s }
  | .record _ => a
  | .setEnabled enabled => { a with enabled := enabled }
  | .atTime _ => a

/-- What is heard of the given calls. -/
def hearsAll (a : Attention) : List Call → List (Nat × TraceEvent)
  | [] => []
  | c :: calls => a.hears c ++ (a.next c).hearsAll calls

theorem hears_of_disabled {a : Attention} (disabled : a.enabled = false) (c : Call) :
  a.hears c = []
  := by
  unfold hears
  rw [disabled]
  rfl

end Attention

/-- The attention of a tracer. -/
def attention (t : Tracer) : Attention :=
  ⟨t.config.enabled, t.notes⟩

variable {t u v : Tracer} {entries entries' : List (Nat × TraceEvent)} {registry : Option Registry}

/-- Between `t` and `u` the tracer heard these events, each under a pass, and recorded those that
its filter admits.  It may have been enabled or disabled meanwhile. -/
structure Hears (t : Tracer) (entries : List (Nat × TraceEvent)) (u : Tracer) : Prop where
  filter : u.config.filter = t.config.filter
  made : ∃ made, t.Makes made u
    ∧ made.map (·.entry) = entries.filter fun entry => t.admits entry.2

theorem Tells.hears (tells : t.Tells entries u) :
  t.Hears entries u
  := ⟨congrArg TracerConfig.filter tells.config, tells.made⟩

/-- What is admitted depends on the filter alone. -/
theorem admits_of_filter (filter : u.config.filter = t.config.filter) :
  u.admits = t.admits
  := by
  funext event
  rw [admits, admits, filter]

theorem Hears.append (first : t.Hears entries u) (second : u.Hears entries' v) :
  t.Hears (entries ++ entries') v
  := by
  obtain ⟨filter, made, makes, heard⟩ := first
  obtain ⟨filter', made', makes', heard'⟩ := second
  refine ⟨filter'.trans filter, made ++ made', makes.append makes', ?_⟩
  rw [List.map_append, heard, heard', List.filter_append, admits_of_filter filter]

theorem hears_nil (filter : u.config.filter = t.config.filter) (buffer : u.buffer = t.buffer) :
  t.Hears [] u
  := ⟨filter, [], makes_nil buffer, rfl⟩

theorem attention_of_streams {ν : Notes} (streams : t.Streams registry entries u)
    (notes : u.notes = ν) :
  u.attention = ⟨t.config.enabled, ν⟩
  := by
  rw [attention, streams.config, notes]

/-- A tracer that has not been told of the start of the run takes the state after the outcome for
the one in which the run started. -/
theorem streams_observed (enabled : t.config.enabled = true) (after : Solver) (o : Outcome) :
  t.Streams (some after.registry)
      (t.attention.lateStart after o ++ (t.attention.begun after).outcomeEntries after o)
      (t.observe after o)
    ∧ (t.observe after o).notes = (t.attention.begun after).afterOutcome after o
  := by
  have flag : t.attention.notes.started = t.started := rfl
  rw [observe, if_pos enabled, Attention.lateStart, Attention.begun, flag]
  dsimp only
  cases started : t.started with
  | true => exact t.streams_outcome after o
  | false =>
    obtain ⟨begun, notes⟩ :=
      t.streams_start after (after.memory.size - o.examination?.elim 0 (·.asserted.length))
    obtain ⟨told, notes'⟩ := (t.start after
      (after.memory.size - o.examination?.elim 0 (·.asserted.length))).streams_outcome after o
    rw [notes] at told notes'
    exact ⟨begun.append told, notes'⟩

/-- A call is heard, and noted, as the attention of the tracer has it. -/
theorem hears_call (t : Tracer) (c : Call) :
  t.Hears (t.attention.hears c) (t.call c) ∧ (t.call c).attention = t.attention.next c
  := by
  cases enabled : t.config.enabled with
  | true =>
    have attends : t.attention.enabled = true := enabled
    unfold Attention.hears
    rw [if_pos attends]
    cases c with
    | begin s =>
      obtain ⟨streams, notes⟩ := streams_begin enabled s
      rw [Attention.next, if_pos attends]
      exact ⟨streams.tells.hears, attention_of_streams streams notes⟩
    | observe after o =>
      obtain ⟨streams, notes⟩ := streams_observed enabled after o
      rw [Attention.next, if_pos attends]
      exact ⟨streams.tells.hears, attention_of_streams streams notes⟩
    | rewound s step =>
      obtain ⟨streams, notes⟩ := t.streams_rewound s step
      rw [if_pos enabled] at streams
      exact ⟨streams.tells.hears, attention_of_streams streams notes⟩
    | record event =>
      have recorded : t.call (.record event) = t.emit none event := if_pos enabled
      have streams := t.streams_emit none event
      rw [recorded]
      exact ⟨streams.tells.hears, attention_of_streams streams (t.notes_emit none event)⟩
    | setEnabled enabled => exact ⟨hears_nil rfl rfl, rfl⟩
    | atTime nanoseconds => exact ⟨hears_nil rfl rfl, rfl⟩
  | false =>
    have unattended : t.attention.enabled = false := enabled
    have off : ¬t.config.enabled = true := Bool.eq_false_iff.mp enabled
    rw [Attention.hears_of_disabled unattended]
    cases c with
    | begin s =>
      have same : t.call (.begin s) = t := if_neg off
      rw [same, Attention.next, unattended]
      exact ⟨hears_nil rfl rfl, rfl⟩
    | observe after o =>
      have same : t.call (.observe after o) = t := observe_of_disabled enabled after o
      rw [same, Attention.next, unattended]
      exact ⟨hears_nil rfl rfl, rfl⟩
    | rewound s step =>
      obtain ⟨streams, notes⟩ := t.streams_rewound s step
      rw [if_neg off] at streams
      exact ⟨streams.tells.hears, attention_of_streams streams notes⟩
    | record event =>
      have same : t.call (.record event) = t := if_neg off
      rw [same]
      exact ⟨hears_nil rfl rfl, rfl⟩
    | setEnabled enabled => exact ⟨hears_nil rfl rfl, rfl⟩
    | atTime nanoseconds => exact ⟨hears_nil rfl rfl, rfl⟩

/-- The calls are heard one after another, whatever the filter and the size of the buffer. -/
theorem hears_afterCalls (t : Tracer) (calls : List Call) :
  t.Hears (t.attention.hearsAll calls) (t.afterCalls calls)
  := by
  induction calls generalizing t with
  | nil => exact hears_nil rfl rfl
  | cons c calls ih =>
    obtain ⟨heard, next⟩ := t.hears_call c
    have rest := ih (t.call c)
    rw [next] at rest
    exact heard.append rest

/-! ### What is kept -/

/-- The last of the records that were made are kept. -/
theorem foldl_keep_nil (capacity : Nat) (made : List TraceRecord) :
  made.foldl (TraceBuffer.keep capacity) [] = made.rtake capacity
  := by
  have least : ∀ records : List TraceRecord,
      records.rtake (min capacity records.length) = records.rtake capacity := by
    intro records
    have place : records.length - min capacity records.length = records.length - capacity := by
      omega
    rw [List.rtake, List.rtake, place]
  induction made using List.reverseRecOn with
  | nil => exact (List.rtake_nil capacity).symm
  | append_singleton made r ih =>
    rw [List.foldl_append, ih, ← least made]
    refine (TraceBuffer.keep_rtake made capacity made.length r).trans ?_
    rw [← least (made ++ [r]), List.length_append, List.length_singleton]

/-- A new tracer keeps the last of what it hears and admits. -/
theorem Hears.pairs_eq {config : TracerConfig} (heard : (create config).Hears entries u) :
  u.pairs = (entries.filter fun entry => (create config).admits entry.2).rtake config.bufferSize
  := by
  obtain ⟨-, made, makes, told⟩ := heard
  have kept : u.buffer.records = made.rtake config.bufferSize :=
    makes.records.trans (foldl_keep_nil config.bufferSize made)
  rw [pairs, kept, List.rtake, List.map_drop, told, List.rtake, ← told, List.length_map]

/-- A new tracer numbers what it admits. -/
theorem Hears.nextId_eq {config : TracerConfig} (heard : (create config).Hears entries u) :
  u.buffer.nextId = (entries.filter fun entry => (create config).admits entry.2).length
  := by
  obtain ⟨-, made, makes, told⟩ := heard
  rw [← told, List.length_map, makes.nextId]
  exact Nat.zero_add _

/-- The settings without the filter, and with room for so many records. -/
def unfiltered (config : TracerConfig) (room : Nat) : TracerConfig :=
  { config with filter := [], bufferSize := room }

/-- A new tracer without a filter keeps all that it hears exactly if it has room for that. -/
theorem keepsAll_unfiltered {config : TracerConfig} {room : Nat}
    (heard : (create (unfiltered config room)).Hears entries u) :
  u.KeepsAll ↔ entries.length ≤ room
  := by
  have all : (entries.filter fun entry => (create (unfiltered config room)).admits entry.2)
      = entries := List.filter_eq_self.mpr fun _ _ => rfl
  have kept := congrArg List.length heard.pairs_eq
  rw [pairs, List.length_map, all, List.rtake, List.length_drop] at kept
  rw [KeepsAll, kept, heard.nextId_eq, all]
  change entries.length - (entries.length - room) = entries.length ↔ entries.length ≤ room
  omega

/-- Whatever the calls, a tracer with a filter keeps the last of those records that the filter
admits among all that a tracer without a filter makes of the same calls, as many as its buffer may
keep; and a tracer without a filter keeps them all if it has enough room. -/
theorem filtered_after (config : TracerConfig) (calls : List Call) :
  (∀ room, ((create (unfiltered config room)).afterCalls calls).KeepsAll →
    ((create config).afterCalls calls).pairs
      = (((create (unfiltered config room)).afterCalls calls).pairs.filter fun pair =>
          config.filter = [] ∨ pair.2.kind ∈ config.filter).rtake config.bufferSize)
    ∧ ∃ enough, ∀ room, enough ≤ room →
      ((create (unfiltered config room)).afterCalls calls).KeepsAll
  := by
  -- both tracers hear the same, since neither the filter nor the room is part of the attention
  have heard := (create config).hears_afterCalls calls
  have heardAll : ∀ room, (create (unfiltered config room)).Hears
      ((create config).attention.hearsAll calls)
      ((create (unfiltered config room)).afterCalls calls) :=
    fun room => (create (unfiltered config room)).hears_afterCalls calls
  generalize (create config).attention.hearsAll calls = entries at heard heardAll
  constructor
  · intro room all
    have unfiltered_pairs : ((create (unfiltered config room)).afterCalls calls).pairs = entries := by
      have within := (keepsAll_unfiltered (heardAll room)).mp all
      have admitted : (entries.filter fun entry => (create (unfiltered config room)).admits entry.2)
          = entries := List.filter_eq_self.mpr fun _ _ => rfl
      have none : entries.length - (unfiltered config room).bufferSize = 0 :=
        Nat.sub_eq_zero_of_le within
      rw [(heardAll room).pairs_eq, admitted, List.rtake, none, List.drop_zero]
    have admits : (fun pair : Nat × TraceEvent => (create config).admits pair.2)
        = fun pair => decide (config.filter = [] ∨ pair.2.kind ∈ config.filter) := by
      funext pair
      rw [Tracer.admits, Bool.eq_iff_iff]
      simp [create]
    rw [heard.pairs_eq, unfiltered_pairs, admits]
  · use entries.length
    intro room within
    exact (keepsAll_unfiltered (heardAll room)).mpr within

/-- Calls about the chain: its first step and its third are told, a note is recorded, and the chain
is rewound while the tracer is disabled. -/
def chainCalls : List Call :=
  let s := Solver.chain {}
  [.begin s, .observe (s.afterSteps 1) s.step.1, .record (.custom "note" "so far"),
    .observe (s.afterSteps 3) (s.afterSteps 2).step.1, .setEnabled false, .rewound s 0,
    .setEnabled true, .observe (s.afterSteps 1) s.step.1]

/-- Of the four records that are admitted, two are kept. -/
theorem filtered_after_chain :
  let config : TracerConfig :=
    { enabled := true, bufferSize := 2, filter := ["rule-examined", "custom"] }
  ((create (unfiltered config 100)).afterCalls chainCalls).KeepsAll
    ∧ ((create config).afterCalls chainCalls).pairs
      = [(0, .ruleExamined ⟨2⟩ true), (0, .ruleExamined ⟨0⟩ false)]
    ∧ ((create config).afterCalls chainCalls).pairs
      = (((create (unfiltered config 100)).afterCalls chainCalls).pairs.filter fun pair =>
          config.filter = [] ∨ pair.2.kind ∈ config.filter).rtake 2
  := by
  intro config
  have all : ((create (unfiltered config 100)).afterCalls chainCalls).KeepsAll := by
    decide +kernel
  refine ⟨all, by decide +kernel, ?_⟩
  exact (filtered_after config chainCalls).1 100 all

end Tracer

end ForwardChaining
