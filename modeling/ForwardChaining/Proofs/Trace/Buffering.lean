import Mathlib.Data.List.DropRight
import Mathlib.Data.List.Nodup
import ForwardChaining.Proofs.Trace.Recording

/-!
# What a buffer keeps

A buffer is pushed records and is cleared, in any order.  All the records that are ever pushed to it
stand in a list of their own (`BufferAct.made`), each numbered by its place there.  What the buffer
keeps are the last of these, as many as it may keep and have been pushed since it was last cleared
(`TraceBuffer.records_after`).  So their numbers follow one another, and that is why a record can be
found by its distance from the oldest (`TraceBuffer.get?_eq_find?`).
-/

namespace ForwardChaining

/-- Something that is done to a trace buffer. -/
inductive BufferAct where
  | push (pass timestamp : Nat) (event : TraceEvent)
  | clear
  deriving DecidableEq

namespace BufferAct

/-- What is pushed: the pass, the time and the event. -/
def pushed? : BufferAct → Option (Nat × Nat × TraceEvent)
  | push pass timestamp event => some (pass, timestamp, event)
  | clear => none

/-- The act is a push. -/
def isPush (act : BufferAct) : Bool :=
  act.pushed?.isSome

/-- The records of all the pushes, whatever becomes of them, numbered from nought. -/
def made (acts : List BufferAct) : List TraceRecord :=
  (acts.filterMap pushed?).zipIdx.map fun ((pass, timestamp, event), id) =>
    ⟨id, pass, timestamp, event⟩

/-- The number of pushes since the last clear. -/
def uncleared (acts : List BufferAct) : Nat :=
  (acts.rtakeWhile isPush).length

variable {acts : List BufferAct} {pass timestamp : Nat} {event : TraceEvent} {r : TraceRecord}

theorem length_pushed (acts : List BufferAct) :
  (acts.filterMap pushed?).length = acts.countP isPush
  := List.length_filterMap_eq_countP

theorem length_made (acts : List BufferAct) : (made acts).length = acts.countP isPush := by
  rw [made, List.length_map, List.length_zipIdx, length_pushed]

/-- A record is numbered by its place among all that are pushed. -/
theorem map_id_made (acts : List BufferAct) :
  (made acts).map (·.id) = List.range' 0 (acts.countP isPush)
  := by
  rw [made, List.map_map, ← length_pushed]
  exact List.zipIdx_map_snd _ _

theorem made_append (acts later : List BufferAct) : made acts <+: made (acts ++ later) := by
  rw [made, made, List.filterMap_append, List.zipIdx_append, List.map_append]
  apply List.prefix_append

theorem made_concat_push (acts : List BufferAct) (pass timestamp : Nat) (event : TraceEvent) :
  made (acts ++ [push pass timestamp event])
    = made acts ++ [⟨acts.countP isPush, pass, timestamp, event⟩]
  := by
  rw [made, List.filterMap_append, List.zipIdx_append, List.map_append, length_pushed, Nat.zero_add]
  rfl

theorem made_concat_clear (acts : List BufferAct) : made (acts ++ [clear]) = made acts := by
  rw [made, List.filterMap_append]
  exact congrArg (fun pushed => (List.zipIdx pushed).map _) (List.append_nil _)

/-- The number of a record is the number of the pushes before its own. -/
theorem mem_made_iff :
  r ∈ made acts ↔ ∃ before later,
    acts = before ++ push r.pass r.timestamp r.event :: later ∧ r.id = before.countP isPush
  := by
  constructor
  · intro member
    induction acts using List.reverseRecOn with
    | nil => cases member
    | append_singleton acts act ih =>
      cases act with
      | push pass timestamp event =>
        rw [made_concat_push, List.mem_append, List.mem_singleton] at member
        obtain earlier | rfl := member
        · obtain ⟨before, later, rfl, id⟩ := ih earlier
          refine ⟨before, later ++ [push pass timestamp event], ?_, id⟩
          rw [List.append_assoc, List.cons_append]
        · exact ⟨acts, [], rfl, rfl⟩
      | clear =>
        rw [made_concat_clear] at member
        obtain ⟨before, later, rfl, id⟩ := ih member
        refine ⟨before, later ++ [clear], ?_, id⟩
        rw [List.append_assoc, List.cons_append]
  · rintro ⟨before, later, rfl, id⟩
    rw [List.append_cons]
    apply (made_append _ later).subset
    rw [made_concat_push, ← id]
    exact List.mem_concat_self

theorem uncleared_le (acts : List BufferAct) : uncleared acts ≤ (made acts).length := by
  have pushes : (acts.rtakeWhile isPush).countP isPush = uncleared acts :=
    List.countP_eq_length.mpr fun _ => List.mem_rtakeWhile_imp
  rw [length_made, ← pushes]
  exact (List.rtakeWhile_suffix isPush acts).sublist.countP_le

theorem uncleared_concat_push (acts : List BufferAct) (pass timestamp : Nat) (event : TraceEvent) :
  uncleared (acts ++ [push pass timestamp event]) = uncleared acts + 1
  := by
  rw [uncleared, List.rtakeWhile_concat_pos isPush acts _ rfl, List.length_append]
  rfl

theorem uncleared_concat_clear (acts : List BufferAct) : uncleared (acts ++ [clear]) = 0 := by
  rw [uncleared, List.rtakeWhile_concat_neg isPush acts clear Bool.false_ne_true]
  rfl

end BufferAct

namespace TraceBuffer

open BufferAct

/-- What an act does to a buffer. -/
def act (b : TraceBuffer) : BufferAct → TraceBuffer
  | .push pass timestamp event => b.push pass timestamp event
  | .clear => b.clear

/-- The buffer after the given acts. -/
def after (b : TraceBuffer) (acts : List BufferAct) : TraceBuffer :=
  acts.foldl act b

variable {capacity : Nat} {acts : List BufferAct} {b : TraceBuffer}

theorem after_concat (b : TraceBuffer) (acts : List BufferAct) (act : BufferAct) :
  b.after (acts ++ [act]) = (b.after acts).act act
  := List.foldl_concat ..

/-! ### The last records -/

theorem rtake_rtake (records : List TraceRecord) (m n : Nat) :
  (records.rtake n).rtake m = records.rtake (min m n)
  := by
  rw [List.rtake_eq_reverse_take_reverse, List.rtake_eq_reverse_take_reverse, List.reverse_reverse,
    List.take_take, ← List.rtake_eq_reverse_take_reverse]

/-- To keep what there is room for is to take the last records. -/
theorem keep_eq_rtake (records : List TraceRecord) (r : TraceRecord) :
  keep capacity records r = (records ++ [r]).rtake capacity
  := by
  rw [keep, List.rtake, List.length_append, List.length_singleton]

/-- What is kept when a record is added to the last of those there are, are the last of them all. -/
theorem keep_rtake (records : List TraceRecord) (capacity n : Nat) (r : TraceRecord) :
  keep capacity (records.rtake (min capacity n)) r = (records ++ [r]).rtake (min capacity (n + 1))
  := by
  rw [keep_eq_rtake]
  cases capacity with
  | zero => rw [Nat.zero_min, Nat.zero_min, List.rtake_zero, List.rtake_zero]
  | succ capacity =>
    have shorter : min capacity (min (capacity + 1) n) = min capacity n := by omega
    rw [Nat.add_min_add_right, List.rtake_concat_succ, List.rtake_concat_succ, rtake_rtake, shorter]

/-- The state of a buffer that may keep `capacity` records, after the given acts. -/
structure Follows (b : TraceBuffer) (capacity : Nat) (acts : List BufferAct) : Prop where
  maxSize : b.maxSize = capacity
  nextId : b.nextId = (made acts).length
  records : b.records = (made acts).rtake (min capacity (uncleared acts))

theorem follows_after (capacity : Nat) (acts : List BufferAct) :
  ((empty capacity).after acts).Follows capacity acts
  := by
  induction acts using List.reverseRecOn with
  | nil => exact ⟨rfl, rfl, (List.rtake_nil _).symm⟩
  | append_singleton acts act ih =>
    rw [after_concat]
    cases act with
    | push pass timestamp event =>
      obtain ⟨records, maxSize, nextId⟩ :=
        ((empty capacity).after acts).records_push pass timestamp event
      constructor
      · exact maxSize.trans ih.maxSize
      · rw [made_concat_push, List.length_append, ← ih.nextId]
        exact nextId
      · rw [ih.maxSize, ih.nextId, ih.records, length_made, keep_rtake] at records
        rw [made_concat_push, uncleared_concat_push]
        exact records
    | clear =>
      constructor
      · exact ih.maxSize
      · rw [made_concat_clear]
        exact ih.nextId
      · rw [uncleared_concat_clear, Nat.min_zero, List.rtake_zero]
        rfl

/-! ### Finding a record -/

/-- If the numbers of records follow one another, a record can be found by its distance from the
first. -/
theorem getElem?_eq_find? {records : List TraceRecord} {first : Nat}
    (numbered : records.map (·.id) = List.range' first records.length) (id : Nat) :
  (if first ≤ id then records[id - first]? else none) = records.find? (·.id = id)
  := by
  induction records generalizing first with
  | nil => rw [List.getElem?_nil, ite_self, List.find?_nil]
  | cons r records ih =>
    rw [List.map_cons, List.length_cons, List.range'_succ, List.cons.injEq] at numbered
    obtain ⟨rfl, rest⟩ := numbered
    rw [List.find?_cons]
    obtain before | rfl | later := Nat.lt_trichotomy id r.id
    · rw [if_neg (by omega), decide_eq_false (by omega), ← ih rest, if_neg (by omega)]
    · rw [if_pos (Nat.le_refl _), decide_eq_true rfl, Nat.sub_self]
      rfl
    · obtain ⟨distance, rfl⟩ := Nat.exists_eq_add_of_lt later
      have place : r.id + distance + 1 - r.id = distance + 1 := by omega
      have place' : r.id + distance + 1 - (r.id + 1) = distance := by omega
      rw [if_pos (by omega), decide_eq_false (by omega), ← ih rest, if_pos (by omega), place, place']
      rfl

/-- The numbers of the records that a buffer keeps follow one another. -/
theorem Follows.numbered (follows : b.Follows capacity acts) :
  ∃ first, b.records.map (·.id) = List.range' first b.records.length
  := by
  rw [follows.records, List.rtake, List.map_drop, map_id_made, List.length_drop, length_made,
    List.drop_range']
  exact ⟨_, rfl⟩

theorem Follows.get?_eq_find? (follows : b.Follows capacity acts) (id : Nat) :
  b.get? id = b.records.find? (·.id = id)
  := by
  obtain ⟨first, numbered⟩ := follows.numbered
  have oldest : b.log.oldest? = b.records.head? := Log.oldest?_eq _
  rw [get?, oldest]
  cases shape : b.records with
  | nil => rfl
  | cons r records =>
    rw [shape] at numbered
    have place : r.id = first := (List.cons.inj numbered).1
    rw [← place] at numbered
    exact getElem?_eq_find? numbered id

theorem Follows.mem_made (follows : b.Follows capacity acts) {r : TraceRecord}
    (member : r ∈ b.records) :
  r ∈ made acts
  := by
  rw [follows.records] at member
  exact List.mem_of_mem_drop member

/-- A record that was pushed is known by its number. -/
theorem eq_of_mem_made {r r' : TraceRecord} (member : r ∈ made acts) (member' : r' ∈ made acts)
    (same : r.id = r'.id) :
  r = r'
  := by
  have distinct : ((made acts).map (·.id)).Nodup := by
    rw [map_id_made]
    exact List.nodup_range'
  exact List.inj_on_of_nodup_map distinct member member' same

theorem Follows.get?_eq_some_iff (follows : b.Follows capacity acts) {id : Nat} {r : TraceRecord} :
  b.get? id = some r ↔ r ∈ b.records ∧ r.id = id
  := by
  rw [follows.get?_eq_find?]
  constructor
  · intro found
    refine ⟨List.mem_of_find?_eq_some found, ?_⟩
    simpa using List.find?_some found
  · rintro ⟨member, rfl⟩
    cases found : b.records.find? (·.id = r.id) with
    | none => exact absurd (decide_eq_true rfl) (List.find?_eq_none.mp found r member)
    | some r' =>
      have same : r'.id = r.id := by simpa using List.find?_some found
      have member' := List.mem_of_find?_eq_some found
      rw [eq_of_mem_made (follows.mem_made member') (follows.mem_made member) same]

/-! ### What is kept -/

/-- What there is to see of a buffer that may keep `capacity` records, after the given acts. -/
structure Holds (b : TraceBuffer) (capacity : Nat) (acts : List BufferAct) : Prop where
  /-- The buffer keeps the last records that were pushed, as many of those that were pushed since
  the last clear as it may. -/
  records : b.records = (made acts).rtake (min capacity (uncleared acts))
  length : b.records.length = min capacity (uncleared acts)
  /-- The number of a record is the number of the pushes before its own. -/
  numbered : ∀ r ∈ b.records, ∃ before later,
    acts = before ++ .push r.pass r.timestamp r.event :: later ∧ r.id = before.countP isPush
  /-- A record that the buffer has kept at any time does not share its number with another. -/
  unshared : ∀ earlier, earlier <+: acts → ∀ r ∈ ((empty capacity).after earlier).records,
    ∀ r' ∈ b.records, r.id = r'.id → r = r'
  /-- The next record gets the number of the pushes before it. -/
  nextId : b.nextId = acts.countP isPush
  found : ∀ id r, b.get? id = some r ↔ r ∈ b.records ∧ r.id = id
  searched : ∀ id, b.get? id = b.records.find? (·.id = id)
  recent : ∀ n, b.recent n = b.records.rtake (min n b.records.length)

/-- A buffer keeps the last records that were pushed to it since it was last cleared, each numbered
by the pushes before it, and finds them by their numbers. -/
theorem holds_after (capacity : Nat) (acts : List BufferAct) :
  ((empty capacity).after acts).Holds capacity acts
  := by
  have follows := follows_after capacity acts
  have within := uncleared_le acts
  constructor
  · exact follows.records
  · rw [follows.records, List.rtake, List.length_drop]
    omega
  · intro r member
    exact mem_made_iff.mp (follows.mem_made member)
  · rintro earlier ⟨later, rfl⟩ r member r' member' same
    have member := (follows_after capacity earlier).mem_made member
    exact eq_of_mem_made ((made_append earlier later).subset member) (follows.mem_made member') same
  · rw [follows.nextId, length_made]
  · intro id r
    exact follows.get?_eq_some_iff
  · exact follows.get?_eq_find?
  · intro n
    have place : ((empty capacity).after acts).log.size - n
        = ((empty capacity).after acts).records.length
          - min n ((empty capacity).after acts).records.length := by
      rw [TraceBuffer.records, Log.length_toList]
      omega
    rw [recent, Log.latest_eq, place]
    rfl

end TraceBuffer

end ForwardChaining
