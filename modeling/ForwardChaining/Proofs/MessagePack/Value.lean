import Mathlib.Data.List.Forall2
import Mathlib.Data.List.Nodup
import ForwardChaining.MessagePack.Value
import ForwardChaining.Proofs.MessagePack.Header

/-!
# Reading written values

Bytes are those of a value if reading them gives the value and leaves what follows (`Reads`).
Texts, arrays and maps are read back from the bytes they were written in, part by part
(`reads_textBytes`, `reads_arrayBytes`, `reads_mapBytes`), and the fields of a record are found
in the map in which each stands under its name (`Value.fields?_record`).  No value that is read says
more than its headers can (`Value.sized_of_read?`).
-/

namespace ForwardChaining.MessagePack

variable {α : Type} {depth n : Nat} {bytes rest : List UInt8}

/-! ### Strings -/

theorem utf8_inj {s t : String} :
  utf8 s = utf8 t ↔ s = t
  := by
  constructor
  · intro same
    apply String.toByteArray_inj.mp
    apply ByteArray.ext (Array.toList_inj.mp same)
  · apply congrArg

/-- A string is read from its own bytes and no others. -/
theorem fromUTF8?_eq_some_iff {s : String} :
  String.fromUTF8? ⟨bytes.toArray⟩ = some s ↔ utf8 s = bytes
  := by
  constructor
  · intro read
    obtain ⟨valid, same⟩ := Option.dite_none_right_eq_some.mp read
    cases same
    rfl
  · rintro rfl
    rw [utf8, Array.toArray_toList]
    apply dif_pos s.isValidUTF8

/-- A letter takes one byte. -/
theorem utf8_ofList_replicate (count : Nat) :
  utf8 (.ofList (List.replicate count 'a')) = List.replicate count 0x61
  := by
  have letter : String.utf8EncodeChar 'a' = [0x61] := by decide
  change (String.ofList (List.replicate count 'a')).toByteArray.data.toList = _
  rw [String.toByteArray_ofList, List.utf8Encode, List.toList_data_toByteArray,
    List.flatMap_replicate, letter, List.flatten_replicate_singleton]

/-! ### Bytes of a value -/

/-- The bytes are those of the value, with at most `depth` containers around one another. -/
def Reads (depth : Nat) (bytes : List UInt8) (v : Value) : Prop :=
  ∀ rest, Value.read? depth (bytes ++ rest) = some (v, rest)

theorem reads_naturalBytes (small : n < Text.limit64) :
  Reads depth (Header.naturalBytes n) (.natural n)
  := by
  intro rest
  rw [Value.read?, Header.read?_naturalBytes small]

theorem reads_boolBytes (b : Bool) :
  Reads depth (Header.boolBytes b) (.bool b)
  := by
  intro rest
  rw [Value.read?, Header.read?_boolBytes]

theorem reads_textBytes {s : String} (small : (utf8 s).length < Text.limit32) :
  Reads depth (textBytes s) (.text (utf8 s))
  := by
  intro rest
  rw [textBytes, List.append_assoc, Value.read?, Header.read?_textBytes small]
  simp only
  rw [readContent, takeBytes?_append, Option.map_some]

/-- Things are read in turn from the bytes of each. -/
theorem readMany_flatten {read : List UInt8 → Option (α × List UInt8)}
    {encodings : List (List UInt8)} {xs : List α}
    (reads : List.Forall₂ (fun bytes x => ∀ rest, read (bytes ++ rest) = some (x, rest))
      encodings xs)
    (rest : List UInt8) :
  readMany read encodings.length (encodings.flatten ++ rest) = some (xs, rest)
  := by
  induction reads with
  | nil => rfl
  | cons first _ ih =>
    rw [List.length_cons, List.flatten_cons, List.append_assoc, readMany, first]
    simp only
    rw [ih, Option.map_some]

theorem reads_arrayBytes {encodings : List (List UInt8)} {values : List Value}
    (small : encodings.length < Text.limit32)
    (reads : List.Forall₂ (Reads depth) encodings values) :
  Reads (depth + 1) (arrayBytes encodings) (.array values)
  := by
  intro rest
  rw [arrayBytes, List.append_assoc, Value.read?, Header.read?_arrayBytes small]
  simp only
  rw [readMany_flatten reads, Option.map_some]

/-- The map of a record, with a value under each name. -/
def Value.record (names : List String) (values : List Value) : Value :=
  .map ((names.zip values).map fun (name, v) => (.text (utf8 name), v))

/-- A record is read from the bytes of its names and values. -/
theorem reads_mapBytes {entries : List (String × List UInt8)} {values : List Value}
    (small : entries.length < Text.limit32)
    (named : ∀ name ∈ entries.map (·.1), (utf8 name).length < Text.limit32)
    (reads : List.Forall₂ (fun entry v => Reads depth entry.2 v) entries values) :
  Reads (depth + 1) (mapBytes entries) (.record (entries.map (·.1)) values)
  := by
  have pairs : List.Forall₂
      (fun bytes pair => ∀ rest, readPair (Value.read? depth) (bytes ++ rest) = some (pair, rest))
      (entries.map fun entry => textBytes entry.1 ++ entry.2)
      (((entries.map (·.1)).zip values).map fun field => (.text (utf8 field.1), field.2)) := by
    induction reads with
    | nil => apply List.Forall₂.nil
    | @cons entry v entries values first _ ih =>
      rw [List.map_cons, List.forall_mem_cons] at named
      apply List.Forall₂.cons
      · intro rest
        have key : Reads depth (textBytes entry.1) _ := reads_textBytes named.1
        rw [List.append_assoc, readPair, key]
        simp only
        rw [first, Option.map_some]
      · apply ih (Nat.lt_of_succ_lt small) named.2
  intro rest
  have read := readMany_flatten pairs rest
  rw [List.length_map] at read
  rw [mapBytes, List.append_assoc, List.flatMap_def, Value.read?, Header.read?_mapBytes small]
  simp only
  rw [read, Option.map_some]
  rfl

/-! ### Fields of a record -/

/-- In turn, each thing stands for something. -/
theorem mapM_eq_some_iff {β : Type} {f : α → Option β} {xs : List α} {ys : List β} :
  xs.mapM f = some ys ↔ List.Forall₂ (fun x y => f x = some y) xs ys
  := by
  induction xs generalizing ys with
  | nil => cases ys <;> simp
  | cons x xs ih =>
    rw [List.mapM_cons]
    cases ys with
    | nil => simp [Option.bind_eq_some_iff]
    | cons y ys =>
      rw [List.forall₂_cons, ← ih]
      simp [Option.bind_eq_some_iff]

theorem forall_of_forall₂ {β : Type} {R : α → β → Prop} {P : α → Prop} {Q : β → Prop} {xs : List α}
    {ys : List β} (related : List.Forall₂ R xs ys) (each : ∀ x ∈ xs, P x)
    (step : ∀ {x y}, P x → R x y → Q y) :
  ∀ y ∈ ys, Q y
  := by
  induction related with
  | nil => apply List.forall_mem_nil
  | cons first _ ih =>
    rw [List.forall_mem_cons] at each ⊢
    apply And.intro (step each.1 first) (ih each.2)

namespace Value

theorem place?_text (names : List String) (name : String) :
  place? names (.text (utf8 name)) = some (names.findIdx? (· = name))
  := by
  simp [place?, name?, utf8_inj]

/-- A name is found at its only place. -/
theorem findIdx?_getElem {names : List String} (distinct : names.Nodup) {i : Nat}
    (inside : i < names.length) :
  names.findIdx? (· = names[i]) = some i
  := by
  rw [List.findIdx?_eq_some_iff_getElem]
  use inside, decide_eq_true rfl
  intro j before
  rw [decide_eq_true_eq, List.Nodup.getElem_inj_iff distinct]
  omega

/-- The value at a place is found if the values stand at places of their own. -/
theorem only?_zipIdx (values : List Value) (k i : Nat) :
  only? ((values.zipIdx k).map fun (v, place) => (some place, v)) (k + i) = values[i]?
  := by
  induction values generalizing k i with
  | nil => rfl
  | cons v values ih =>
    rw [List.zipIdx_cons, List.map_cons, only?]
    cases i with
    | zero =>
      -- the places that follow are all above `k`
      have later : ((values.zipIdx (k + 1)).map fun (v, place) => (some place, v)).filter
          (·.1 = some (k + 0)) = [] := by
        rw [List.filter_eq_nil_iff, List.forall_mem_map]
        rintro ⟨v, place⟩ member
        have above := List.le_snd_of_mem_zipIdx member
        simp at above ⊢
        omega
      rw [List.filter_cons_of_pos (by simp), later]
      rfl
    | succ i =>
      have shift : k + (i + 1) = (k + 1) + i := by omega
      rw [List.filter_cons_of_neg (by simp), shift]
      apply ih (k + 1) i

/-- The fields of a record are its values, if its names are distinct. -/
theorem fields?_record {names : List String} {values : List Value} (distinct : names.Nodup)
    (paired : names.length = values.length) (depth : Nat) :
  (record names values).fields? depth names = some values
  := by
  have placed : ((names.zip values).map fun (name, v) => (.text (utf8 name), v)).mapM
      (fun (key, value) => entry? (depth - 1) names key value)
        = some (values.zipIdx.map fun (v, place) => (some place, v)) := by
    rw [mapM_eq_some_iff, List.forall₂_iff_get]
    constructor
    · simp [paired]
    · intro i inside _
      have inNames : i < names.length := by simp at inside; omega
      simp [ entry?, place?_text, findIdx?_getElem distinct inNames]
  have found : (List.range names.length).mapM
      (only? (values.zipIdx.map fun (v, place) => (some place, v))) = some values := by
    rw [mapM_eq_some_iff, List.forall₂_iff_get]
    constructor
    · rw [List.length_range, paired]
    · intro i _ inside
      have value := only?_zipIdx values 0 i
      rw [Nat.zero_add] at value
      simpa [List.getElem?_eq_getElem inside] using value
  rw [record, fields?]
  simp only [placed]
  apply found

/-! ### Values that are read -/

/-- Numbers have at most 64 bits, and texts, arrays and maps a size of at most 32. -/
inductive Sized : Value → Prop where
  | nil : Sized nil
  | bool (b : Bool) : Sized (bool b)
  | natural {n : Nat} (small : n < Text.limit64) : Sized (natural n)
  | signed {i : Int} (small : i.toNat < Text.limit64) : Sized (signed i)
  | float (bytes : List UInt8) : Sized (float bytes)
  | text {bytes : List UInt8} (small : bytes.length < Text.limit32) : Sized (text bytes)
  | binary {bytes : List UInt8} (small : bytes.length < Text.limit32) : Sized (binary bytes)
  | extension (bytes : List UInt8) : Sized (extension bytes)
  | array {values : List Value} (small : values.length < Text.limit32)
      (sized : ∀ v ∈ values, Sized v) : Sized (array values)
  | map {entries : List (Value × Value)} (small : entries.length < Text.limit32)
      (keys : ∀ entry ∈ entries, Sized entry.1) (values : ∀ entry ∈ entries, Sized entry.2) :
      Sized (map entries)

/-- Of things that are read in turn there are as many as were asked for. -/
theorem of_readMany {read : List UInt8 → Option (α × List UInt8)} {P : α → Prop}
    (each : ∀ {bytes x rest}, read bytes = some (x, rest) → P x) {xs : List α}
    (reads : readMany read n bytes = some (xs, rest)) :
  xs.length = n ∧ ∀ x ∈ xs, P x
  := by
  induction n generalizing bytes xs with
  | zero =>
    cases reads
    apply And.intro rfl (List.forall_mem_nil P)
  | succ n ih =>
    rw [readMany] at reads
    split at reads
    · cases reads
    · rename_i first
      obtain ⟨⟨xs, rest⟩, later, same⟩ := Option.map_eq_some_iff.mp reads
      cases same
      obtain ⟨length, others⟩ := ih later
      rw [List.length_cons, List.forall_mem_cons]
      apply And.intro (congrArg (· + 1) length) (And.intro (each first) others)

theorem of_readPair {read : List UInt8 → Option (α × List UInt8)} {P : α → Prop}
    (each : ∀ {bytes x rest}, read bytes = some (x, rest) → P x) {pair : α × α}
    (reads : readPair read bytes = some (pair, rest)) :
  P pair.1 ∧ P pair.2
  := by
  rw [readPair] at reads
  split at reads
  · cases reads
  · rename_i first
    obtain ⟨⟨y, rest⟩, second, same⟩ := Option.map_eq_some_iff.mp reads
    cases same
    apply And.intro (each first) (each second)

theorem exists_of_readContent {value : List UInt8 → Value} {v : Value}
    (read : readContent value n bytes = some (v, rest)) :
  ∃ content, content.length = n ∧ value content = v
  := by
  obtain ⟨⟨content, rest⟩, took, same⟩ := Option.map_eq_some_iff.mp read
  cases same
  use content, length_of_takeBytes? took

/-- No value that is read says more than its headers can. -/
theorem sized_of_read? {depth : Nat} {bytes rest : List UInt8} {v : Value}
    (read : read? depth bytes = some (v, rest)) :
  v.Sized
  := by
  rw [Value.read?] at read
  cases header : Header.read? bytes with
  | none =>
    rw [header] at read
    cases read
  | some found =>
    obtain ⟨h, later⟩ := found
    have small := Header.sized_of_read? header
    rw [header] at read
    cases h with
    | nil =>
      cases read
      apply Sized.nil
    | bool b =>
      cases read
      apply Sized.bool
    | natural n =>
      cases read
      apply Sized.natural small
    | signed i =>
      cases read
      apply Sized.signed small
    | float size =>
      obtain ⟨content, -, rfl⟩ := exists_of_readContent read
      apply Sized.float
    | text size =>
      obtain ⟨content, rfl, rfl⟩ := exists_of_readContent read
      apply Sized.text small
    | binary size =>
      obtain ⟨content, rfl, rfl⟩ := exists_of_readContent read
      apply Sized.binary small
    | extension size =>
      cases depth with
      | zero => cases read
      | succ depth =>
        obtain ⟨content, -, rfl⟩ := exists_of_readContent read
        apply Sized.extension
    | array size =>
      cases depth with
      | zero => cases read
      | succ depth =>
        obtain ⟨⟨values, rest⟩, reads, same⟩ := Option.map_eq_some_iff.mp read
        cases same
        obtain ⟨rfl, sized⟩ := of_readMany (P := Sized) sized_of_read? reads
        apply Sized.array small sized
    | map size =>
      cases depth with
      | zero => cases read
      | succ depth =>
        obtain ⟨⟨entries, rest⟩, reads, same⟩ := Option.map_eq_some_iff.mp read
        cases same
        have pair {bytes pair rest} (read : readPair (read? depth) bytes = some (pair, rest)) :
            pair.1.Sized ∧ pair.2.Sized :=
          of_readPair (P := Sized) sized_of_read? read
        obtain ⟨rfl, sized⟩ := of_readMany pair reads
        apply Sized.map small (fun entry member => (sized entry member).1)
          (fun entry member => (sized entry member).2)

theorem sized_of_only? {entries : List (Option Nat × Value)} {place : Nat} {v : Value}
    (sized : ∀ entry ∈ entries, entry.2.Sized) (found : only? entries place = some v) :
  v.Sized
  := by
  rw [only?] at found
  split at found
  · rename_i place _ single
    cases found
    have member : (place, v) ∈ [(place, v)] := List.mem_singleton_self _
    rw [← single] at member
    apply sized _ (List.mem_of_mem_filter member)
  · cases found

/-- The fields of a value that was read are values that were read. -/
theorem sized_of_fields? {names : List String} {v : Value} {values : List Value} (sized : v.Sized)
    (found : v.fields? depth names = some values) :
  ∀ field ∈ values, field.Sized
  := by
  cases sized with
  | array small sized =>
    obtain ⟨-, same⟩ := Option.ite_none_right_eq_some.mp found
    cases same
    apply sized
  | map small keys sized =>
    obtain ⟨places, placed, found⟩ := Option.bind_eq_some_iff.mp found
    have sizedPlaces : ∀ entry ∈ places, entry.2.Sized := by
      apply forall_of_forall₂ (Q := fun entry => entry.2.Sized) (mapM_eq_some_iff.mp placed) sized
      intro entry place sized read
      obtain ⟨_, -, read⟩ := Option.bind_eq_some_iff.mp read
      obtain ⟨-, same⟩ := Option.ite_none_right_eq_some.mp read
      cases same
      apply sized
    apply forall_of_forall₂ (Q := Sized) (mapM_eq_some_iff.mp found) (fun _ _ => trivial)
    intro _ field _ found
    apply sized_of_only? sizedPlaces found
  | _ => cases found

end Value

end ForwardChaining.MessagePack
