import ForwardChaining.Text.Quoted

/-!
# Vocabularies

A vocabulary is a list of distinct names, in the order in which they were added, with an index
that tells which names it has.
-/

namespace ForwardChaining

/-- A list of distinct names, and the index over them. -/
structure Vocabulary where
  /-- The names, latest first. -/
  latestFirst : List String
  /-- The index: whether a name is one of them. -/
  index : String → Bool
  nodup : latestFirst.Nodup
  index_iff : ∀ name, index name = true ↔ name ∈ latestFirst

namespace Vocabulary

/-- The index is no more than the names say. -/
theorem ext_latestFirst {v w : Vocabulary} (same : v.latestFirst = w.latestFirst) : v = w := by
  obtain ⟨names, vIndex, _, vIndex_iff⟩ := v
  obtain ⟨_, wIndex, _, wIndex_iff⟩ := w
  obtain rfl := same
  obtain rfl : vIndex = wIndex := by
    funext name
    rw [Bool.eq_iff_iff, vIndex_iff, wIndex_iff]
  rfl

instance : DecidableEq Vocabulary :=
  fun _ _ => decidable_of_iff _ ⟨ext_latestFirst, congrArg latestFirst⟩

/-- The vocabulary without names. -/
def empty : Vocabulary where
  latestFirst := []
  index _ := false
  nodup := List.nodup_nil
  index_iff := by simp

instance : Inhabited Vocabulary := ⟨empty⟩

/-- The names, in the order in which they were added. -/
def names (v : Vocabulary) : List String :=
  v.latestFirst.reverse

/-- The number of names. -/
def size (v : Vocabulary) : Nat :=
  v.latestFirst.length

/-- The name is one of the vocabulary. -/
def contains (v : Vocabulary) (name : String) : Bool :=
  v.index name

/-- The vocabulary `v` with `name` at its end, or `v` itself if it has the name. -/
def insert (v : Vocabulary) (name : String) : Vocabulary :=
  if h : v.contains name = true then v
  else
    { latestFirst := name :: v.latestFirst
      index := fun known => known == name || v.index known
      nodup := List.nodup_cons.mpr ⟨mt (v.index_iff name).mpr h, v.nodup⟩
      index_iff := by simp [v.index_iff] }

/-- The vocabulary `v` with each of `names` inserted in turn. -/
def insertAll (v : Vocabulary) (names : List String) : Vocabulary :=
  names.foldl insert v

/-- The vocabulary of the given names, each at its first place in the list. -/
def ofNames (names : List String) : Vocabulary :=
  empty.insertAll names

/-- The quoted names, between square brackets. -/
def quoted (v : Vocabulary) : String :=
  Text.quotedList v.names

/-! ### The names -/

theorem nodup_names (v : Vocabulary) : v.names.Nodup :=
  List.pairwise_reverse.mpr (v.nodup.imp Ne.symm)

theorem contains_iff (v : Vocabulary) (name : String) :
  v.contains name = true ↔ name ∈ v.names
  := by
  simp [contains, names, v.index_iff]

theorem names_insert (v : Vocabulary) (name : String) :
  (v.insert name).names = if name ∈ v.names then v.names else v.names ++ [name]
  := by
  unfold insert
  split
  · rename_i known
    rw [if_pos ((v.contains_iff name).mp known)]
  · rename_i unknown
    rw [if_neg (mt (v.contains_iff name).mpr unknown)]
    simp [names]

/-- A vocabulary is determined by its names. -/
theorem ext_names {v w : Vocabulary} (same : v.names = w.names) : v = w := by
  apply ext_latestFirst (List.reverse_inj.mp same)

/-! ### Vocabularies of given names -/

/-- Names that are all new and distinct are added as they are. -/
theorem names_insertAll_of_nodup {v : Vocabulary} {names : List String}
    (distinct : (v.names ++ names).Nodup) :
  (v.insertAll names).names = v.names ++ names
  := by
  induction names generalizing v with
  | nil => rw [insertAll, List.foldl_nil, List.append_nil]
  | cons name rest ih =>
    have new : name ∉ v.names := by
      intro known
      apply (List.nodup_append.mp distinct).2.2 name known name List.mem_cons_self rfl
    have inserted : (v.insert name).names = v.names ++ [name] := by
      rw [names_insert, if_neg new]
    rw [List.append_cons, ← inserted] at distinct ⊢
    apply ih distinct

/-- A vocabulary is made anew from its names. -/
theorem ofNames_names (v : Vocabulary) : ofNames v.names = v := by
  apply ext_names
  apply names_insertAll_of_nodup
  apply v.nodup_names

theorem mem_names_insert {v : Vocabulary} {first name : String} :
  name ∈ (v.insert first).names ↔ name ∈ v.names ∨ name = first
  := by
  rw [names_insert]
  split
  · rename_i known
    constructor
    · apply Or.inl
    · rintro (old | rfl)
      · apply old
      · apply known
  · rw [List.mem_append, List.mem_singleton]

/-- A vocabulary has the names it was made from and no others. -/
theorem mem_names_insertAll {v : Vocabulary} {names : List String} {name : String} :
  name ∈ (v.insertAll names).names ↔ name ∈ v.names ∨ name ∈ names
  := by
  induction names generalizing v with
  | nil => simp [insertAll]
  | cons first rest ih =>
    rw [insertAll, List.foldl_cons, List.mem_cons, ← or_assoc, ← mem_names_insert]
    apply ih

theorem mem_names_ofNames {names : List String} {name : String} :
  name ∈ (ofNames names).names ↔ name ∈ names
  := by
  rw [ofNames, mem_names_insertAll, or_iff_right]
  apply List.not_mem_nil

theorem length_names_insertAll_le (v : Vocabulary) (names : List String) :
  (v.insertAll names).names.length ≤ v.names.length + names.length
  := by
  induction names generalizing v with
  | nil => apply Nat.le_refl
  | cons first rest ih =>
    have inserted : (v.insert first).names.length ≤ v.names.length + 1 := by
      rw [names_insert]
      split <;> simp
    have bound := ih (v.insert first)
    rw [insertAll, List.foldl_cons, List.length_cons]
    rw [insertAll] at bound
    omega

theorem length_names_ofNames_le (names : List String) :
  (ofNames names).names.length ≤ names.length
  := by
  have bound := length_names_insertAll_le empty names
  rw [show empty.names.length = 0 from rfl, Nat.zero_add] at bound
  apply bound

end Vocabulary

end ForwardChaining
