import Mathlib.Tactic.Common
import ForwardChaining.Trace.Tracer

/-!
# Recording

A buffer keeps the latest of the records that are pushed to it (`TraceBuffer.records_push`).  What
a tracer is told, it records if its filter admits the event, under the pass that it has noted, and
numbers on: `Tracer.Tells`.  If it has an output, it writes a line for each record that it makes:
`Tracer.Streams`.  A tracer without a filter adds all that it is told to its records, as long as
there is room for all of it: `Tracer.Records`.  To record an event does not change what the tracer
has noted of the run (`Tracer.notes_emit`).
-/

namespace ForwardChaining

/-- What a record says: the pass to which it is ascribed, and the event. -/
def TraceRecord.entry (r : TraceRecord) : Nat × TraceEvent :=
  (r.pass, r.event)

namespace TraceBuffer

variable {records made : List TraceRecord} {maxSize : Nat}

/-- The records that a buffer of the given size keeps when one is added to those it has. -/
def keep (maxSize : Nat) (records : List TraceRecord) (r : TraceRecord) : List TraceRecord :=
  (records ++ [r]).drop (records.length + 1 - maxSize)

/-- As long as there is room, no record is dropped. -/
theorem foldl_keep_of_room (room : records.length + made.length ≤ maxSize) :
  made.foldl (keep maxSize) records = records ++ made
  := by
  induction made generalizing records with
  | nil => exact (List.append_nil _).symm
  | cons r made ih =>
    rw [List.length_cons] at room
    have all : keep maxSize records r = records ++ [r] := by
      rw [keep, Nat.sub_eq_zero_of_le (by omega), List.drop_zero]
    rw [List.foldl_cons, all, ih]
    · exact List.append_cons _ _ _ |>.symm
    · rw [List.length_append, List.length_singleton]
      omega

/-- To drop the oldest records, so many times, is to drop so many. -/
theorem dropOldest_repeat (b : TraceBuffer) (n : Nat) :
  (Nat.repeat dropOldest n b).records = b.records.drop n
    ∧ (Nat.repeat dropOldest n b).maxSize = b.maxSize
    ∧ (Nat.repeat dropOldest n b).nextId = b.nextId
  := by
  have once : ∀ b : TraceBuffer, b.dropOldest.records = b.records.tail
      ∧ b.dropOldest.maxSize = b.maxSize ∧ b.dropOldest.nextId = b.nextId := by
    intro b
    unfold dropOldest
    cases oldest : b.log.oldest? with
    | none =>
      rw [Log.oldest?_eq, List.head?_eq_none_iff] at oldest
      refine ⟨?_, rfl, rfl⟩
      change b.log.toList = b.log.toList.tail
      rw [oldest]
      rfl
    | some r => exact ⟨Log.toList_dropOldest _, rfl, rfl⟩
  induction n with
  | zero => exact ⟨List.drop_zero.symm, rfl, rfl⟩
  | succ n ih =>
    obtain ⟨records, maxSize, nextId⟩ := ih
    obtain ⟨records', maxSize', nextId'⟩ := once (Nat.repeat dropOldest n b)
    refine ⟨?_, maxSize'.trans maxSize, nextId'.trans nextId⟩
    change (Nat.repeat dropOldest n b).dropOldest.records = _
    rw [records', records, List.tail_drop]

/-- The buffer with one more record, before the oldest are dropped. -/
def store (b : TraceBuffer) (pass timestamp : Nat) (event : TraceEvent) : TraceBuffer :=
  { b with
    log := b.log.push ⟨b.nextId, pass, timestamp, event⟩
    nextId := b.nextId + 1
    perPass := b.perPass.add pass }

theorem records_store (b : TraceBuffer) (pass timestamp : Nat) (event : TraceEvent) :
  (b.store pass timestamp event).records = b.records ++ [⟨b.nextId, pass, timestamp, event⟩]
  := Log.toList_push _ _

/-- To push a record is to store it and to drop the oldest, one after another, until no more are
left than may be kept. -/
theorem push_eq (b : TraceBuffer) (pass timestamp : Nat) (event : TraceEvent) :
  b.push pass timestamp event = (b.store pass timestamp event).trim
  := rfl

/-- A buffer keeps the latest records, and numbers them on. -/
theorem records_push (b : TraceBuffer) (pass timestamp : Nat) (event : TraceEvent) :
  (b.push pass timestamp event).records
      = keep b.maxSize b.records ⟨b.nextId, pass, timestamp, event⟩
    ∧ (b.push pass timestamp event).maxSize = b.maxSize
    ∧ (b.push pass timestamp event).nextId = b.nextId + 1
  := by
  have size : (b.store pass timestamp event).log.size = b.records.length + 1 := by
    rw [← Log.length_toList]
    exact (congrArg List.length (b.records_store pass timestamp event)).trans
      List.length_append
  obtain ⟨dropped, maxSize, nextId⟩ :=
    (b.store pass timestamp event).dropOldest_repeat (b.records.length + 1 - b.maxSize)
  rw [push_eq, trim, size, keep, ← records_store]
  exact ⟨dropped, maxSize, nextId⟩

/-- A buffer that keeps any records keeps the one that is pushed last. -/
theorem latest?_push (b : TraceBuffer) (pass timestamp : Nat) (event : TraceEvent)
    (keeps : 0 < b.maxSize) :
  (b.push pass timestamp event).latest? = some ⟨b.nextId, pass, timestamp, event⟩
  := by
  have last : (b.push pass timestamp event).latest?
      = (b.push pass timestamp event).records.getLast? := Log.latest?_eq _
  rw [last, (b.records_push pass timestamp event).1, keep, List.getLast?_drop, if_neg]
  · exact List.getLast?_concat
  · rw [List.length_append, List.length_singleton]
    omega

end TraceBuffer

namespace Tracer

variable {t u v : Tracer} {events more : List TraceEvent} {made made' : List TraceRecord}
  {entries entries' : List (Nat × TraceEvent)}

/-! ### Made records -/

/-- Between `t` and `u` the tracer made these records. -/
structure Makes (t : Tracer) (made : List TraceRecord) (u : Tracer) : Prop where
  maxSize : u.buffer.maxSize = t.buffer.maxSize
  nextId : u.buffer.nextId = t.buffer.nextId + made.length
  numbered : made.map (·.id) = List.range' t.buffer.nextId made.length
  /-- The buffer keeps the latest records. -/
  records : u.buffer.records
    = made.foldl (TraceBuffer.keep t.buffer.maxSize) t.buffer.records

/-- A tracer with the same buffer has made no record. -/
theorem makes_nil (buffer : u.buffer = t.buffer) :
  t.Makes [] u
  := by
  constructor
  · rw [buffer]
  · rw [buffer]
    rfl
  · rfl
  · rw [buffer]
    rfl

theorem Makes.append (first : t.Makes made u) (second : u.Makes made' v) :
  t.Makes (made ++ made') v
  := by
  constructor
  · exact second.maxSize.trans first.maxSize
  · rw [second.nextId, first.nextId, List.length_append, Nat.add_assoc]
  · rw [List.map_append, first.numbered, second.numbered, first.nextId, List.length_append,
      List.range'_append_1]
  · rw [second.records, first.records, first.maxSize, List.foldl_append]

/-- A buffer that has room for the records that are made keeps them all. -/
theorem Makes.records_of_room (makes : t.Makes made u)
    (room : t.buffer.records.length + made.length ≤ t.buffer.maxSize) :
  u.buffer.records = t.buffer.records ++ made
  := by
  rw [makes.records, TraceBuffer.foldl_keep_of_room room]

/-- If the buffer has room for the records that are made, they are the ones that it then has in
addition. -/
theorem Makes.eq_drop (makes : t.Makes made u)
    (room : t.buffer.records.length + (u.buffer.nextId - t.buffer.nextId) ≤ t.buffer.maxSize) :
  made = u.buffer.records.drop t.buffer.records.length
  := by
  have next := makes.nextId
  rw [makes.records_of_room (by omega), List.drop_left]

/-! ### Told entries -/

/-- Between `t` and `u` the tracer was told these events, each under a pass, and recorded those
that its filter admits. -/
structure Tells (t : Tracer) (entries : List (Nat × TraceEvent)) (u : Tracer) : Prop where
  config : u.config = t.config
  made : ∃ made, t.Makes made u
    ∧ made.map (·.entry) = entries.filter fun entry => t.admits entry.2

/-- A tracer with the same settings and the same buffer has been told nothing. -/
theorem tells_nil (config : u.config = t.config) (buffer : u.buffer = t.buffer) :
  t.Tells [] u
  := ⟨config, [], makes_nil buffer, rfl⟩

theorem Tells.append (first : t.Tells entries u) (second : u.Tells entries' v) :
  t.Tells (entries ++ entries') v
  := by
  obtain ⟨config, made, makes, told⟩ := first
  obtain ⟨config', made', makes', told'⟩ := second
  refine ⟨config'.trans config, made ++ made', makes.append makes', ?_⟩
  have admits : u.admits = t.admits := by
    funext event
    rw [admits, admits, config]
  rw [List.map_append, told, told', List.filter_append, admits]

/-- Without a filter, all that the tracer is told is recorded. -/
theorem Tells.exists_made (tells : t.Tells entries u) (unfiltered : t.config.filter = []) :
  ∃ made, t.Makes made u ∧ made.map (·.entry) = entries
  := by
  obtain ⟨-, made, makes, told⟩ := tells
  refine ⟨made, makes, told.trans (List.filter_eq_self.mpr ?_)⟩
  intro entry _
  rw [admits, unfiltered]
  rfl

/-! ### Added records -/

/-- The tracer `u` comes from `t` by the recording of events: as long as there is room, it has
a record of each of them in addition to the records of `t`. -/
structure Records (t : Tracer) (events : List TraceEvent) (u : Tracer) : Prop where
  config : u.config = t.config
  added : t.buffer.records.length + events.length ≤ t.buffer.maxSize →
    u.buffer.maxSize = t.buffer.maxSize
      ∧ ∃ added, u.buffer.records = t.buffer.records ++ added ∧ added.map (·.event) = events

/-- A tracer without a filter adds all that it is told to its records. -/
theorem Tells.records (tells : t.Tells entries u) (unfiltered : t.config.filter = []) :
  t.Records (entries.map (·.2)) u
  := by
  obtain ⟨made, makes, told⟩ := tells.exists_made unfiltered
  have events : made.map (·.event) = entries.map (·.2) := by
    rw [← told, List.map_map]
    rfl
  apply Records.mk tells.config
  intro room
  rw [← events, List.length_map] at room
  exact ⟨makes.maxSize, made, makes.records_of_room room, events⟩

/-! ### What the tracer has noted -/

/-- What a tracer notes of a run. -/
structure Notes where
  /-- The pass to which the next step belongs. -/
  currentPass : Nat
  /-- The number of rules that fired in this pass. -/
  firedInPass : Nat
  /-- The start of the run has been recorded. -/
  started : Bool
  /-- The end of the run has been recorded. -/
  finished : Bool

/-- What the tracer has noted of the run. -/
def notes (t : Tracer) : Notes where
  currentPass := t.currentPass
  firedInPass := t.firedInPass
  started := t.started
  finished := t.finished

theorem notes_emit (t : Tracer) (registry : Option Registry) (event : TraceEvent) :
  (t.emit registry event).notes = t.notes
  := by
  unfold emit
  split
  · dsimp only
    split <;> rfl
  · rfl

theorem notes_emitAll (t : Tracer) (registry : Registry) (events : List TraceEvent) :
  (t.emitAll registry events).notes = t.notes
  := by
  induction events generalizing t with
  | nil => rfl
  | cons event events ih => exact (ih _).trans (t.notes_emit _ event)

/-! ### Written lines -/

/-- The records that the tracer makes when it is told these events. -/
def recordsOf (t : Tracer) (entries : List (Nat × TraceEvent)) : List TraceRecord :=
  ((entries.filter fun entry => t.admits entry.2).zipIdx t.buffer.nextId).map fun (entry, id) =>
    ⟨id, entry.1, t.clock, entry.2⟩

/-- Between `t` and `u` the tracer was told these events, each under a pass, and wrote a line for
each record that it made of them, with the names that the registry gives to facts. -/
structure Streams (t : Tracer) (registry : Option Registry) (entries : List (Nat × TraceEvent))
    (u : Tracer) : Prop where
  config : u.config = t.config
  clock : u.clock = t.clock
  makes : t.Makes (t.recordsOf entries) u
  /-- A tracer without an output writes no lines, and one that keeps no records does not either. -/
  written : t.config.output ≠ .none → 0 < t.buffer.maxSize →
    u.written.toList = t.written.toList
      ++ (t.recordsOf entries).map fun r => (t.config.output, t.lineFor registry r)

variable {registry : Option Registry}

theorem map_entry_recordsOf (t : Tracer) (entries : List (Nat × TraceEvent)) :
  (t.recordsOf entries).map (·.entry) = entries.filter fun entry => t.admits entry.2
  := by
  rw [recordsOf, List.map_map]
  exact List.zipIdx_map_fst _ _

theorem Streams.tells (streams : t.Streams registry entries u) :
  t.Tells entries u
  := ⟨streams.config, t.recordsOf entries, streams.makes, t.map_entry_recordsOf entries⟩

/-- To note something of the run does not show in the records. -/
theorem streams_nil (config : u.config = t.config) (clock : u.clock = t.clock)
    (buffer : u.buffer = t.buffer) (written : u.written = t.written) :
  t.Streams registry [] u
  := by
  refine ⟨config, clock, makes_nil buffer, ?_⟩
  intro _ _
  rw [written]
  exact (List.append_nil _).symm

theorem Streams.append (first : t.Streams registry entries u)
    (second : u.Streams registry entries' v) :
  t.Streams registry (entries ++ entries') v
  := by
  have admits : u.admits = t.admits := by
    funext event
    rw [admits, admits, first.config]
  have line : u.lineFor registry = t.lineFor registry := by
    funext r
    unfold lineFor format
    rw [first.config]
  have joined :
      t.recordsOf (entries ++ entries') = t.recordsOf entries ++ u.recordsOf entries' := by
    have next : t.buffer.nextId + (entries.filter fun entry => t.admits entry.2).length
        = u.buffer.nextId := by
      rw [first.makes.nextId, recordsOf, List.length_map, List.length_zipIdx]
    unfold recordsOf
    rw [List.filter_append, List.zipIdx_append, List.map_append, next, first.clock, admits]
  constructor
  · exact second.config.trans first.config
  · exact second.clock.trans first.clock
  · rw [joined]
    exact first.makes.append second.makes
  · intro output keeps
    have output' : u.config.output ≠ .none := first.config ▸ output
    have keeps' : 0 < u.buffer.maxSize := first.makes.maxSize ▸ keeps
    rw [second.written output' keeps', first.written output keeps, joined, first.config, line,
      List.map_append, List.append_assoc]

/-- To note something before being told of events does not show in the records. -/
theorem Streams.of_noted (streams : u.Streams registry entries v) (config : u.config = t.config)
    (clock : u.clock = t.clock) (buffer : u.buffer = t.buffer) (written : u.written = t.written) :
  t.Streams registry entries v
  := (streams_nil config clock buffer written).append streams

/-- An event that the tracer is told is ascribed to the pass that it has noted. -/
theorem streams_emit (t : Tracer) (registry : Option Registry) (event : TraceEvent) :
  t.Streams registry [(t.currentPass, event)] (t.emit registry event)
  := by
  by_cases admitted : t.admits event = true
  · have told : [(t.currentPass, event)].filter (fun entry => t.admits entry.2)
        = [(t.currentPass, event)] := List.filter_cons_of_pos admitted
    have made : t.recordsOf [(t.currentPass, event)]
        = [⟨t.buffer.nextId, t.currentPass, t.clock, event⟩] := by
      rw [recordsOf, told]
      rfl
    -- to write a line changes neither the settings nor the clock nor the buffer
    have kept : (t.emit registry event).config = t.config
        ∧ (t.emit registry event).clock = t.clock
        ∧ (t.emit registry event).buffer = t.buffer.push t.currentPass t.clock event := by
      rw [emit, if_pos admitted]
      dsimp only
      split <;> exact ⟨rfl, rfl, rfl⟩
    obtain ⟨config, clock, buffer⟩ := kept
    obtain ⟨records, maxSize, nextId⟩ := t.buffer.records_push t.currentPass t.clock event
    refine ⟨config, clock, ?_, ?_⟩
    · rw [made]
      constructor
      · rw [buffer, maxSize]
      · rw [buffer, nextId]
        rfl
      · rfl
      · rw [buffer, records]
        rfl
    · intro output keeps
      have latest := t.buffer.latest?_push t.currentPass t.clock event keeps
      rw [made, emit, if_pos admitted]
      dsimp only
      rw [latest]
      split
      · rename_i none
        exact absurd none output
      · rename_i none _
        cases none
      · rename_i kept _
        cases kept
        exact Log.toList_push _ _
  · have told : [(t.currentPass, event)].filter (fun entry => t.admits entry.2) = [] :=
      List.filter_cons_of_neg admitted
    have made : t.recordsOf [(t.currentPass, event)] = [] := by
      rw [recordsOf, told]
      rfl
    rw [emit, if_neg admitted]
    refine ⟨rfl, rfl, ?_, ?_⟩
    · rw [made]
      exact makes_nil rfl
    · intro _ _
      rw [made]
      exact (List.append_nil _).symm

theorem streams_emitAll (t : Tracer) (registry : Registry) (events : List TraceEvent) :
  t.Streams (some registry) (events.map fun event => (t.currentPass, event))
    (t.emitAll registry events)
  := by
  induction events generalizing t with
  | nil => exact streams_nil rfl rfl rfl rfl
  | cons event events ih =>
    have pass : (t.emit (some registry) event).currentPass = t.currentPass :=
      congrArg Notes.currentPass (t.notes_emit _ event)
    have rest := ih (t.emit (some registry) event)
    rw [pass] at rest
    exact (t.streams_emit (some registry) event).append rest

/-- To note something before being told of events does not show in the records. -/
theorem Tells.of_noted (tells : u.Tells entries v) (config : u.config = t.config)
    (buffer : u.buffer = t.buffer) :
  t.Tells entries v
  := (tells_nil config buffer).append tells

end Tracer

end ForwardChaining
