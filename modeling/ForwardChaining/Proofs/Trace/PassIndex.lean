import Mathlib.Data.List.Dedup
import ForwardChaining.Proofs.Trace.Buffering

/-!
# Counts by pass agree with the records

The index of a buffer is kept beside its records: a push counts one record more, and an eviction one
less.  It tallies the passes of the records (`PassIndex.Tallies`), whatever is done to the buffer and
in whatever order the passes come, so what it says of the records is what there is to find among them
(`TraceBuffer.indexed_after`).
-/

namespace ForwardChaining

namespace PassIndex

variable {counts : List (Nat × Nat)} {x : PassIndex} {passes : List Nat} {pass p n : Nat}

/-- The count of a pass in a list of counts. -/
def countIn (counts : List (Nat × Nat)) (pass : Nat) : Nat :=
  (counts.lookup pass).getD 0

theorem countIn_cons (entry : Nat × Nat) (counts : List (Nat × Nat)) (p : Nat) :
  countIn (entry :: counts) p = if p = entry.1 then entry.2 else countIn counts p
  := by
  rw [countIn, List.lookup_cons]
  split
  · rename_i same
    rw [if_pos (beq_iff_eq.mp same)]
    rfl
  · rename_i other
    rw [if_neg (ne_of_beq_false other)]
    rfl

/-- A pass that is not listed has no count. -/
theorem countIn_of_not_mem (unlisted : p ∉ counts.map (·.1)) : countIn counts p = 0 := by
  induction counts with
  | nil => rfl
  | cons entry counts ih =>
    rw [List.map_cons, List.mem_cons, not_or] at unlisted
    rw [countIn_cons, if_neg unlisted.1, ih unlisted.2]

/-- A count that is not nought is listed. -/
theorem mem_of_countIn (positive : 0 < countIn counts p) : (p, countIn counts p) ∈ counts := by
  induction counts with
  | nil => exact absurd positive (Nat.lt_irrefl 0)
  | cons entry counts ih =>
    rw [countIn_cons] at positive ⊢
    split
    · rename_i same
      rw [same]
      exact List.mem_cons_self
    · rename_i other
      rw [if_neg other] at positive
      exact List.mem_cons_of_mem _ (ih positive)

/-- If each pass is listed once, its count is the one that is listed. -/
theorem countIn_of_mem (distinct : (counts.map (·.1)).Nodup) (member : (p, n) ∈ counts) :
  countIn counts p = n
  := by
  induction counts with
  | nil => cases member
  | cons entry counts ih =>
    obtain ⟨unlisted, rest⟩ := List.nodup_cons.mp distinct
    rw [countIn_cons]
    obtain rfl | later := List.mem_cons.mp member
    · exact if_pos rfl
    · rw [if_neg, ih rest later]
      rintro rfl
      exact unlisted (List.mem_map.mpr ⟨_, later, rfl⟩)

/-! ### One record more -/

theorem mem_addTo_fst (member : p ∈ (addTo pass counts).map (·.1)) :
  p = pass ∨ p ∈ counts.map (·.1)
  := by
  induction counts with
  | nil => exact .inl (List.mem_singleton.mp member)
  | cons entry counts ih =>
    rw [addTo] at member
    split at member
    · exact List.mem_cons.mp member
    · split at member
      · exact .inr member
      · obtain rfl | later := List.mem_cons.mp member
        · exact .inr List.mem_cons_self
        · exact (ih later).imp_right (List.mem_cons_of_mem _)

theorem positive_addTo (positive : ∀ entry ∈ counts, 0 < entry.2) (pass : Nat) :
  ∀ entry ∈ addTo pass counts, 0 < entry.2
  := by
  induction counts with
  | nil => exact List.forall_mem_singleton.mpr Nat.one_pos
  | cons entry counts ih =>
    obtain ⟨first, rest⟩ := List.forall_mem_cons.mp positive
    rw [addTo]
    split
    · exact List.forall_mem_cons.mpr ⟨Nat.one_pos, positive⟩
    · split
      · exact List.forall_mem_cons.mpr ⟨Nat.succ_pos _, rest⟩
      · exact List.forall_mem_cons.mpr ⟨first, ih rest⟩

theorem descending_addTo (descending : (counts.map (·.1)).Pairwise (· > ·)) (pass : Nat) :
  ((addTo pass counts).map (·.1)).Pairwise (· > ·)
  := by
  induction counts with
  | nil => exact List.pairwise_singleton _ _
  | cons entry counts ih =>
    obtain ⟨q, m⟩ := entry
    obtain ⟨above, rest⟩ := List.pairwise_cons.mp descending
    rw [addTo]
    split
    · rename_i later
      apply List.pairwise_cons.mpr ⟨?_, descending⟩
      intro p member
      obtain rfl | member := List.mem_cons.mp member
      · exact later
      · exact Nat.lt_trans (above p member) later
    · split
      · exact descending
      · rename_i notLater other
        apply List.pairwise_cons.mpr ⟨?_, ih rest⟩
        intro p member
        obtain rfl | old := mem_addTo_fst member
        · change p < q
          omega
        · exact above p old

theorem countIn_addTo (descending : (counts.map (·.1)).Pairwise (· > ·)) (pass p : Nat) :
  countIn (addTo pass counts) p = countIn counts p + if p = pass then 1 else 0
  := by
  induction counts with
  | nil => exact (countIn_cons (pass, 1) [] p).trans (Nat.zero_add _).symm
  | cons entry counts ih =>
    obtain ⟨q, m⟩ := entry
    obtain ⟨above, rest⟩ := List.pairwise_cons.mp descending
    rw [addTo]
    split
    · rename_i later
      rw [countIn_cons]
      dsimp only
      split
      · rename_i same
        rw [same, countIn_of_not_mem]
        intro member
        obtain rfl | member := List.mem_cons.mp member
        · exact Nat.lt_irrefl _ later
        · exact Nat.lt_asymm later (above _ member)
      · rfl
    · split
      · rename_i same
        rw [countIn_cons, countIn_cons, same]
        dsimp only
        split <;> rfl
      · rename_i other
        rw [countIn_cons, countIn_cons, ih rest]
        dsimp only
        split
        · rename_i same
          rw [if_neg (by omega), Nat.add_zero]
        · rfl

/-! ### One record less -/

theorem removeFrom_sublist (pass : Nat) (counts : List (Nat × Nat)) :
  ((removeFrom pass counts).map (·.1)).Sublist (counts.map (·.1))
  := by
  induction counts with
  | nil => exact List.Sublist.refl _
  | cons entry counts ih =>
    obtain ⟨q, m⟩ := entry
    rw [removeFrom]
    split
    · split
      · exact List.sublist_cons_self _ _
      · exact List.Sublist.refl _
    · exact ih.cons_cons q

theorem positive_removeFrom (positive : ∀ entry ∈ counts, 0 < entry.2) (pass : Nat) :
  ∀ entry ∈ removeFrom pass counts, 0 < entry.2
  := by
  induction counts with
  | nil => exact positive
  | cons entry counts ih =>
    obtain ⟨q, m⟩ := entry
    obtain ⟨first, rest⟩ := List.forall_mem_cons.mp positive
    rw [removeFrom]
    split
    · split
      · exact rest
      · rename_i left
        exact List.forall_mem_cons.mpr ⟨Nat.pos_of_ne_zero left, rest⟩
    · exact List.forall_mem_cons.mpr ⟨first, ih rest⟩

theorem countIn_removeFrom (distinct : (counts.map (·.1)).Nodup) (pass p : Nat) :
  countIn (removeFrom pass counts) p = countIn counts p - if p = pass then 1 else 0
  := by
  induction counts with
  | nil => exact (Nat.zero_sub _).symm
  | cons entry counts ih =>
    obtain ⟨q, m⟩ := entry
    obtain ⟨unlisted, rest⟩ := List.nodup_cons.mp distinct
    rw [removeFrom]
    split
    · rename_i same
      rw [same, countIn_cons]
      by_cases here : p = q
      · rw [if_pos here, if_pos here]
        split
        · rename_i last
          rw [here, countIn_of_not_mem unlisted, last]
        · rw [countIn_cons, if_pos here]
      · rw [if_neg here, if_neg here, Nat.sub_zero]
        split
        · rfl
        · rw [countIn_cons, if_neg here]
    · rename_i other
      rw [countIn_cons, countIn_cons, ih rest]
      dsimp only
      split
      · rw [if_neg (by omega), Nat.sub_zero]
      · rfl

/-! ### Tallies -/

/-- The index counts how often each pass occurs among `passes`, and lists none that does not. -/
structure Tallies (x : PassIndex) (passes : List Nat) : Prop where
  descending : (x.counts.map (·.1)).Pairwise (· > ·)
  positive : ∀ entry ∈ x.counts, 0 < entry.2
  count : ∀ pass, x.count pass = passes.count pass

theorem Tallies.distinct (tallies : x.Tallies passes) : (x.counts.map (·.1)).Nodup :=
  tallies.descending.imp Nat.ne_of_gt

theorem tallies_empty : empty.Tallies [] :=
  ⟨List.Pairwise.nil, List.forall_mem_nil _, fun _ => rfl⟩

/-- To add a record of a pass is to count it. -/
theorem Tallies.add (tallies : x.Tallies passes) (pass : Nat) :
  (x.add pass).Tallies (passes ++ [pass])
  := by
  constructor
  · exact descending_addTo tallies.descending pass
  · exact positive_addTo tallies.positive pass
  · intro p
    have counted : (x.add pass).count p = x.count p + if p = pass then 1 else 0 :=
      countIn_addTo tallies.descending pass p
    rw [counted, tallies.count, List.count_append, List.count_singleton]
    simp only [beq_iff_eq, eq_comm (a := pass)]

/-- To remove a record of the first pass is to count it no more. -/
theorem Tallies.remove (tallies : x.Tallies (pass :: passes)) :
  (x.remove pass).Tallies passes
  := by
  constructor
  · exact tallies.descending.sublist (removeFrom_sublist pass x.counts)
  · exact positive_removeFrom tallies.positive pass
  · intro p
    have counted : (x.remove pass).count p = x.count p - if p = pass then 1 else 0 :=
      countIn_removeFrom tallies.distinct pass p
    rw [counted, tallies.count, List.count_cons]
    simp only [beq_iff_eq, eq_comm (a := pass)]
    apply Nat.add_sub_cancel

/-- A pass that is to be counted less has a count. -/
theorem Tallies.exists_lookup (tallies : x.Tallies (pass :: passes)) :
  ∃ rest, x.counts.lookup pass = some (rest + 1)
  := by
  have counted := tallies.count pass
  rw [List.count_cons_self, PassIndex.count] at counted
  cases found : x.counts.lookup pass with
  | none =>
    rw [found] at counted
    cases counted
  | some n =>
    rw [found] at counted
    exact ⟨_, congrArg some counted⟩

theorem Tallies.mem_counts_iff (tallies : x.Tallies passes) :
  (p, n) ∈ x.counts ↔ n = passes.count p ∧ 0 < n
  := by
  constructor
  · intro member
    refine ⟨?_, tallies.positive _ member⟩
    rw [← tallies.count]
    exact (countIn_of_mem tallies.distinct member).symm
  · rintro ⟨rfl, positive⟩
    rw [← tallies.count] at positive ⊢
    exact mem_of_countIn positive

theorem Tallies.mem_passes_iff (tallies : x.Tallies passes) : p ∈ x.passes ↔ p ∈ passes := by
  rw [PassIndex.passes, List.mem_reverse, List.mem_map, ← List.count_pos_iff]
  constructor
  · rintro ⟨⟨p, n⟩, member, rfl⟩
    obtain ⟨rfl, positive⟩ := tallies.mem_counts_iff.mp member
    exact positive
  · intro positive
    exact ⟨_, tallies.mem_counts_iff.mpr ⟨rfl, positive⟩, rfl⟩

theorem Tallies.ascending (tallies : x.Tallies passes) : x.passes.Pairwise (· < ·) :=
  List.pairwise_reverse.mpr tallies.descending

/-- The first of the passes is the least of those counted. -/
theorem Tallies.head?_passes (tallies : x.Tallies passes) : x.passes.head? = passes.min? := by
  rw [← List.min?_eq_head?
    (tallies.ascending.imp fun earlier => Nat.min_eq_left (Nat.le_of_lt earlier))]
  apply Option.ext
  intro p
  rw [List.min?_eq_some_iff, List.min?_eq_some_iff]
  simp only [tallies.mem_passes_iff]

/-- The last of the passes is the greatest of those counted. -/
theorem Tallies.getLast?_passes (tallies : x.Tallies passes) :
  x.passes.getLast? = passes.max?
  := by
  rw [PassIndex.passes, List.getLast?_reverse, ← List.max?_eq_head?
    (tallies.descending.imp fun later => Nat.max_eq_left (Nat.le_of_lt later))]
  apply Option.ext
  intro p
  rw [List.max?_eq_some_iff, List.max?_eq_some_iff]
  simp only [← tallies.mem_passes_iff, PassIndex.passes, List.mem_reverse]

/-- There are as many passes as distinct ones are counted. -/
theorem Tallies.length_passes (tallies : x.Tallies passes) :
  x.passes.length = passes.dedup.length
  := by
  apply List.Perm.length_eq
  rw [List.perm_ext_iff_of_nodup (tallies.ascending.imp Nat.ne_of_lt) (List.nodup_dedup passes)]
  intro p
  rw [List.mem_dedup, tallies.mem_passes_iff]

end PassIndex

namespace TraceBuffer

variable {b : TraceBuffer} {acts : List BufferAct}

/-! ### The index of a buffer -/

/-- The index of the buffer counts its records by their passes. -/
def Counts (b : TraceBuffer) : Prop :=
  b.perPass.Tallies (b.records.map (·.pass))

theorem Counts.store (counts : b.Counts) (pass timestamp : Nat) (event : TraceEvent) :
  (b.store pass timestamp event).Counts
  := by
  have passes : (b.store pass timestamp event).records.map (·.pass)
      = b.records.map (·.pass) ++ [pass] := by
    rw [records_store, List.map_append]
    rfl
  rw [Counts, passes]
  exact PassIndex.Tallies.add counts pass

theorem Counts.dropOldest (counts : b.Counts) : b.dropOldest.Counts := by
  have oldest : b.log.oldest? = b.records.head? := Log.oldest?_eq _
  rw [TraceBuffer.dropOldest]
  cases shape : b.records with
  | nil =>
    rw [oldest, shape]
    exact counts
  | cons r later =>
    have left : b.log.dropOldest.toList = later := by
      rw [Log.toList_dropOldest]
      exact congrArg List.tail shape
    rw [oldest, shape]
    rw [Counts, shape] at counts
    rw [Counts, records]
    dsimp only [List.head?_cons]
    rw [left]
    exact counts.remove

theorem Counts.dropOldest_repeat (counts : b.Counts) (n : Nat) :
  (Nat.repeat TraceBuffer.dropOldest n b).Counts
  := by
  induction n with
  | zero => exact counts
  | succ n ih => exact ih.dropOldest

theorem counts_after (capacity : Nat) (acts : List BufferAct) :
  ((empty capacity).after acts).Counts
  := by
  induction acts using List.reverseRecOn with
  | nil => exact PassIndex.tallies_empty
  | append_singleton acts act ih =>
    rw [after_concat]
    cases act with
    | push pass timestamp event => exact (ih.store pass timestamp event).dropOldest_repeat _
    | clear => exact PassIndex.tallies_empty

/-! ### What the index is asked -/

theorem Counts.passSize_eq (counts : b.Counts) (pass : Nat) :
  b.passSize pass = b.records.countP (·.pass = pass)
  := by
  rw [passSize, counts.count, List.count_eq_countP, List.countP_map]
  rfl

/-- No record is overlooked since its pass is not listed. -/
theorem Counts.recordsForPass_eq (counts : b.Counts) (pass : Nat) :
  b.recordsForPass pass = b.records.filter (·.pass = pass)
  := by
  rw [recordsForPass]
  split
  · rename_i none
    rw [counts.passSize_eq, List.countP_eq_zero] at none
    exact (List.filter_eq_nil_iff.mpr none).symm
  · rfl

theorem Counts.mem_passes_iff (counts : b.Counts) (pass : Nat) :
  pass ∈ b.passes ↔ ∃ r ∈ b.records, r.pass = pass
  := by
  rw [passes, PassIndex.Tallies.mem_passes_iff counts, List.mem_map]

theorem Counts.recordsInRange_eq (counts : b.Counts) (first last : Nat) :
  b.recordsInRange first last = b.records.filter fun r => first ≤ r.pass && r.pass ≤ last
  := by
  rw [recordsInRange]
  split
  · rename_i none
    symm
    rw [List.filter_eq_nil_iff]
    intro r member within
    rw [Bool.and_eq_true, decide_eq_true_eq, decide_eq_true_eq] at within
    have listed : r.pass ∈ b.perPass.passes := (counts.mem_passes_iff _).mpr ⟨r, member, rfl⟩
    have some : b.perPass.passes.any (fun p => first ≤ p && p ≤ last) = true := by
      rw [List.any_eq_true]
      exact ⟨r.pass, listed, by simpa using within⟩
    rw [some, Bool.not_true, Bool.or_false, decide_eq_true_eq] at none
    omega
  · rfl

/-- The oldest record of a buffer has been counted. -/
theorem Counts.exists_lookup (counts : b.Counts) {oldest : TraceRecord}
    (first : b.log.oldest? = some oldest) :
  ∃ rest, b.perPass.counts.lookup oldest.pass = some (rest + 1)
  := by
  have head : b.records.head? = some oldest := (Log.oldest?_eq _).symm.trans first
  obtain ⟨later, shape⟩ := List.head?_eq_some_iff.mp head
  rw [Counts, shape] at counts
  exact counts.exists_lookup

/-- What there is to see of the index of a buffer: what it says agrees with the records. -/
structure Indexed (b : TraceBuffer) : Prop where
  /-- The index lists the number of records of each pass that has any, and no other. -/
  entries : ∀ pass count, (pass, count) ∈ b.perPass.counts ↔
    count = b.records.countP (·.pass = pass) ∧ 0 < count
  /-- No pass is listed twice. -/
  distinct : (b.perPass.counts.map (·.1)).Nodup
  passSize : ∀ pass, b.passSize pass = b.records.countP (·.pass = pass)
  recordsForPass : ∀ pass, b.recordsForPass pass = b.records.filter (·.pass = pass)
  recordsInRange : ∀ first last,
    b.recordsInRange first last = b.records.filter fun r => first ≤ r.pass && r.pass ≤ last
  ascending : b.passes.Pairwise (· < ·)
  mem_passes : ∀ pass, pass ∈ b.passes ↔ ∃ r ∈ b.records, r.pass = pass
  oldestPass : b.stats.oldestPass = (b.records.map (·.pass)).min?
  newestPass : b.stats.newestPass = (b.records.map (·.pass)).max?
  passCount : b.stats.passCount = (b.records.map (·.pass)).dedup.length
  /-- When a record that is pushed drives out the oldest, one after another, each of these has been
  counted. -/
  evictions : ∀ pass timestamp event,
    let stored := b.store pass timestamp event
    b.push pass timestamp event = Nat.repeat dropOldest (stored.log.size - b.maxSize) stored
      ∧ ∀ n oldest, (Nat.repeat dropOldest n stored).log.oldest? = some oldest →
        ∃ rest, (Nat.repeat dropOldest n stored).perPass.counts.lookup oldest.pass = some (rest + 1)

/-- Whatever is done to a buffer, its index agrees with its records. -/
theorem indexed_after (capacity : Nat) (acts : List BufferAct) :
  ((empty capacity).after acts).Indexed
  := by
  have counts := counts_after capacity acts
  constructor
  · intro pass count
    rw [counts.mem_counts_iff, List.count_eq_countP, List.countP_map]
    rfl
  · exact counts.distinct
  · exact counts.passSize_eq
  · exact counts.recordsForPass_eq
  · exact counts.recordsInRange_eq
  · exact counts.ascending
  · exact counts.mem_passes_iff
  · exact counts.head?_passes
  · exact counts.getLast?_passes
  · exact counts.length_passes
  · intro pass timestamp event
    refine ⟨push_eq _ _ _ _, ?_⟩
    intro n oldest
    exact ((counts.store pass timestamp event).dropOldest_repeat n).exists_lookup

end TraceBuffer

end ForwardChaining
