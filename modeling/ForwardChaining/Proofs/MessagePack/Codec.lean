import ForwardChaining.Proofs.MessagePack.Value

/-!
# Codecs

A way of writing things agrees with a way of reading them if whatever fits is read back from
the bytes it was written in, and whatever is read fits (`Codec`).  Numbers, truth values and
strings are written and read so, and with the elements of a list the list.
-/

namespace ForwardChaining.MessagePack

variable {α β : Type} {depth : Nat}

/-- What is written by `encode` is read by `of?` exactly if it fits.  It is written with at most
`depth` containers around one another. -/
structure Codec (of? : Value → Option α) (encode : α → List UInt8) (depth : Nat)
    (Fits : α → Prop) : Prop where
  exists_reads : ∀ {x}, Fits x → ∃ v, Reads depth (encode x) v ∧ of? v = some x
  fits : ∀ {v x}, v.Sized → of? v = some x → Fits x

/-- A string of fewer than 2^32 bytes. -/
def FitsText (s : String) : Prop :=
  (utf8 s).length < Text.limit32

instance (s : String) : Decidable (FitsText s) :=
  inferInstanceAs (Decidable ((utf8 s).length < Text.limit32))

/-- A list of fewer than 2^32 elements, each of which fits. -/
structure FitsList (Fits : α → Prop) (xs : List α) : Prop where
  length_lt : xs.length < Text.limit32
  each : ∀ x ∈ xs, Fits x

instance (Fits : α → Prop) [DecidablePred Fits] (xs : List α) : Decidable (FitsList Fits xs) :=
  decidable_of_iff (xs.length < Text.limit32 ∧ ∀ x ∈ xs, Fits x)
    ⟨fun h => ⟨h.1, h.2⟩, fun h => ⟨h.length_lt, h.each⟩⟩

namespace Codec

theorem natural (depth : Nat) :
  Codec Value.natural? Header.naturalBytes depth (· < Text.limit64)
  where
  exists_reads {n} small := by
    use .natural n, reads_naturalBytes small
    rfl
  fits sized read := by
    cases sized with
    | natural small =>
      cases read
      apply small
    | signed small =>
      obtain ⟨-, same⟩ := Option.ite_none_right_eq_some.mp read
      cases same
      apply small
    | _ => cases read

theorem bool (depth : Nat) :
  Codec Value.bool? Header.boolBytes depth fun _ => True
  where
  exists_reads {b} _ := by
    use .bool b, reads_boolBytes b
    rfl
  fits _ _ := trivial

theorem string (depth : Nat) :
  Codec Value.string? textBytes depth FitsText
  where
  exists_reads {s} small := by
    use .text (utf8 s), reads_textBytes small
    apply fromUTF8?_eq_some_iff.mpr rfl
  fits {v s} sized read := by
    obtain ⟨bytes, named, read⟩ := Option.bind_eq_some_iff.mp read
    rw [FitsText, fromUTF8?_eq_some_iff.mp read]
    cases sized with
    | text small | binary small =>
      cases named
      apply small
    | _ => cases named

/-- A list is written and read as its elements are. -/
theorem list {of? : Value → Option α} {encode : α → List UInt8} {Fits : α → Prop}
    (element : Codec of? encode depth Fits) :
  Codec (Value.list? of?) (fun xs => arrayBytes (xs.map encode)) (depth + 1) (FitsList Fits)
  where
  exists_reads {xs} xs_ok := by
    have some_value : Nonempty Value := ⟨.nil⟩
    choose! value reads found using fun x member => element.exists_reads (xs_ok.each x member)
    use .array (xs.map value)
    constructor
    · apply reads_arrayBytes
      · rw [List.length_map]
        apply xs_ok.length_lt
      · rw [List.forall₂_map_left_iff, List.forall₂_map_right_iff, List.forall₂_same]
        apply reads
    · rw [Value.list?, mapM_eq_some_iff, List.forall₂_map_left_iff, List.forall₂_same]
      apply found
  fits {v xs} sized read := by
    cases sized with
    | array small sized =>
      have elements := mapM_eq_some_iff.mp read
      rw [elements.length_eq] at small
      apply FitsList.mk small
      apply forall_of_forall₂ (Q := Fits) elements sized
      intro v x sized read
      apply element.fits sized read
    | @binary bytes small =>
      cases bytes with
      | nil =>
        cases read
        constructor
        · apply small
        · apply List.forall_mem_nil
      | cons => cases read
    | _ => cases read

/-- What is given by one thing is written and read as that thing is. -/
theorem map {of? : Value → Option α} {encode : α → List UInt8} {Fits : α → Prop}
    (inner : Codec of? encode depth Fits) {make : α → β} {content : β → α} {FitsMade : β → Prop}
    (make_content : ∀ y, make (content y) = y) (fits_content : ∀ {y}, FitsMade y → Fits (content y))
    (fits_make : ∀ {x}, Fits x → FitsMade (make x)) :
  Codec (fun v => (of? v).map make) (fun y => encode (content y)) depth FitsMade
  where
  exists_reads {y} y_ok := by
    obtain ⟨v, reads, found⟩ := inner.exists_reads (fits_content y_ok)
    use v, reads
    rw [found, Option.map_some, make_content]
  fits {v y} sized read := by
    obtain ⟨x, found, rfl⟩ := Option.map_eq_some_iff.mp read
    apply fits_make (inner.fits sized found)

/-! ### Records -/

/-- Names that can be those of a record's fields. -/
structure FieldNames (names : List String) : Prop where
  few : names.length < Text.limit32
  short : ∀ name ∈ names, (utf8 name).length < Text.limit32
  distinct : names.Nodup

instance (names : List String) : Decidable (FieldNames names) :=
  decidable_of_iff
    (names.length < Text.limit32 ∧ (∀ name ∈ names, (utf8 name).length < Text.limit32)
      ∧ names.Nodup)
    ⟨fun h => ⟨h.1, h.2.1, h.2.2⟩, fun h => ⟨h.few, h.short, h.distinct⟩⟩

/-- A record is written as its fields are. -/
theorem reads_record {names : List String} (names_ok : FieldNames names)
    {entries : List (String × List UInt8)} (named : entries.map (·.1) = names) {values : List Value}
    (reads : List.Forall₂ (fun entry v => Reads depth entry.2 v) entries values) :
  Reads (depth + 1) (mapBytes entries) (.record names values)
  := by
  cases named
  apply reads_mapBytes _ names_ok.short reads
  rw [← List.length_map (f := (·.1))]
  apply names_ok.few

/-- What has fields is written as a record of them and read from the fields of one. -/
theorem record (names : List String) (names_ok : FieldNames names) (level : Nat)
    {ofFields? : List Value → Option α} {entries : α → List (String × List UInt8)}
    {Fits : α → Prop} (named : ∀ x, (entries x).map (·.1) = names)
    (exists_fields : ∀ {x}, Fits x → ∃ fields,
      List.Forall₂ (fun entry v => Reads depth entry.2 v) (entries x) fields
        ∧ ofFields? fields = some x)
    (fits : ∀ {fields x}, (∀ v ∈ fields, v.Sized) → ofFields? fields = some x → Fits x) :
  Codec (fun v => (v.fields? level names).bind ofFields?) (fun x => mapBytes (entries x))
    (depth + 1) Fits
  where
  exists_reads {x} x_ok := by
    obtain ⟨fields, reads, found⟩ := exists_fields x_ok
    have paired : names.length = fields.length := by
      rw [← reads.length_eq, ← named x, List.length_map]
    use .record names fields, reads_record names_ok (named x) reads
    rw [Value.fields?_record names_ok.distinct paired, Option.bind_some, found]
  fits {v x} sized read := by
    obtain ⟨fields, found, read⟩ := Option.bind_eq_some_iff.mp read
    apply fits (Value.sized_of_fields? sized found) read

end Codec

end ForwardChaining.MessagePack
