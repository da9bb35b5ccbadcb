import Mathlib.Algebra.Group.Nat.Defs
import ForwardChaining.Record.Encoding
import ForwardChaining.Proofs.MessagePack.Codec
import ForwardChaining.Proofs.MessagePack.SelfDelimiting

/-!
# Decoding what was encoded

A run record is decoded from its encoding exactly if it fits the format it is encoded in
(`RunRecord.decode_encode_iff`): its numbers have 64 bits, its lists fewer than 2^32 elements
and its strings fewer than 2^32 bytes.  Each part of a record has a codec, which is put
together from those of its own parts; the vocabulary and its index are made anew from the
names, in their order.  A record with a longer string is lost
(`RunRecord.not_decode_encode_named`).
-/

namespace ForwardChaining

open MessagePack

variable {depth level : Nat}

/-! ### What fits -/

/-- The place of a rule is a number of 64 bits. -/
def RuleId.Fits (id : RuleId) : Prop :=
  id.index < Text.limit64

instance : DecidablePred RuleId.Fits :=
  fun id => inferInstanceAs (Decidable (id.index < Text.limit64))

/-- The names of a vocabulary can be listed. -/
def Vocabulary.Fits (v : Vocabulary) : Prop :=
  FitsList FitsText v.names

instance : DecidablePred Vocabulary.Fits :=
  fun v => inferInstanceAs (Decidable (FitsList FitsText v.names))

/-- The parts of a deadlock fit. -/
structure Deadlock.Fits (d : Deadlock) : Prop where
  unsatisfied : FitsList RuleId.Fits d.unsatisfied
  iteration : d.iteration < Text.limit64

instance : DecidablePred Deadlock.Fits :=
  fun d => decidable_of_iff (FitsList RuleId.Fits d.unsatisfied ∧ d.iteration < Text.limit64)
    ⟨fun h => ⟨h.1, h.2⟩, fun h => ⟨h.unsatisfied, h.iteration⟩⟩

/-- The deadlock of a failure fits. -/
def Status.Fits : Status → Prop
  | running | succeeded => True
  | failed deadlock => deadlock.Fits

instance : DecidablePred Status.Fits
  | .running | .succeeded => inferInstanceAs (Decidable True)
  | .failed deadlock => inferInstanceAs (Decidable deadlock.Fits)

/-- The parts of a snapshot fit. -/
structure SnapshotRecord.Fits (s : SnapshotRecord) : Prop where
  step : s.step < Text.limit64
  iteration : s.iteration < Text.limit64
  examined : s.examined.Fits
  status : s.status.Fits
  memory : FitsList FitsText s.memory
  pending : FitsList RuleId.Fits s.pending
  fired : FitsList RuleId.Fits s.fired

instance : DecidablePred SnapshotRecord.Fits :=
  fun s => decidable_of_iff
    (s.step < Text.limit64 ∧ s.iteration < Text.limit64 ∧ s.examined.Fits ∧ s.status.Fits
      ∧ FitsList FitsText s.memory ∧ FitsList RuleId.Fits s.pending
      ∧ FitsList RuleId.Fits s.fired)
    ⟨fun ⟨step, iteration, examined, status, memory, pending, fired⟩ =>
        ⟨step, iteration, examined, status, memory, pending, fired⟩,
      fun h => ⟨h.step, h.iteration, h.examined, h.status, h.memory, h.pending, h.fired⟩⟩

/-- The parts of a run record fit. -/
structure RunRecord.Fits (r : RunRecord) : Prop where
  vocabulary : r.vocabulary.Fits
  rules : FitsList FitsText r.rules
  status : r.status.Fits
  steps : r.steps < Text.limit64
  iteration : r.iteration < Text.limit64
  memory : FitsList FitsText r.memory
  fired : FitsList RuleId.Fits r.fired
  snapshots : FitsList SnapshotRecord.Fits r.snapshots

instance : DecidablePred RunRecord.Fits :=
  fun r => decidable_of_iff
    (r.vocabulary.Fits ∧ FitsList FitsText r.rules ∧ r.status.Fits ∧ r.steps < Text.limit64
      ∧ r.iteration < Text.limit64 ∧ FitsList FitsText r.memory ∧ FitsList RuleId.Fits r.fired
      ∧ FitsList SnapshotRecord.Fits r.snapshots)
    ⟨fun ⟨vocabulary, rules, status, steps, iteration, memory, fired, snapshots⟩ =>
        ⟨vocabulary, rules, status, steps, iteration, memory, fired, snapshots⟩,
      fun h => ⟨h.vocabulary, h.rules, h.status, h.steps, h.iteration, h.memory, h.fired,
        h.snapshots⟩⟩

/-! ### Lists of rules and names -/

theorem RuleId.codec (depth : Nat) :
  Codec RuleId.ofValue? (fun id => Header.naturalBytes id.index) depth RuleId.Fits
  := (Codec.natural depth).map (fun _ => rfl) id id

theorem codec_rules (depth : Nat) :
  Codec (Value.list? RuleId.ofValue?) encodeRules (depth + 1) (FitsList RuleId.Fits)
  := (RuleId.codec depth).list

theorem codec_texts (depth : Nat) :
  Codec (Value.list? Value.string?) encodeTexts (depth + 1) (FitsList FitsText)
  := (Codec.string depth).list

/-- A vocabulary is made anew from the list of its names. -/
theorem Vocabulary.codec (depth : Nat) :
  Codec (fun v => (v.list? Value.string?).map Vocabulary.ofNames)
    (fun v => encodeTexts v.names) (depth + 1) Vocabulary.Fits
  := by
  apply (codec_texts depth).map Vocabulary.ofNames_names id
  rintro names ⟨short, each⟩
  constructor
  · apply Nat.lt_of_le_of_lt (Vocabulary.length_names_ofNames_le names) short
  · intro name member
    apply each name (Vocabulary.mem_names_ofNames.mp member)

/-! ### Statuses -/

theorem Deadlock.codec (level depth : Nat) :
  Codec (Deadlock.ofValue? level) Deadlock.encode (depth + 2) Deadlock.Fits
  := by
  apply Codec.record fieldNames (by decide) level
  · intro
    rfl
  · intro d d_ok
    obtain ⟨unsatisfied, reads₁, is₁⟩ := (codec_rules depth).exists_reads d_ok.unsatisfied
    obtain ⟨iteration, reads₂, is₂⟩ := (Codec.natural (depth + 1)).exists_reads d_ok.iteration
    use [unsatisfied, iteration]
    constructor
    · refine .cons reads₁ (.cons reads₂ .nil)
    · simp [is₁, is₂]
  · intro fields d sized read
    split at read
    · simp only [List.forall_mem_cons] at sized
      obtain ⟨sized₁, sized₂, -⟩ := sized
      obtain ⟨unsatisfied, is₁, read⟩ := Option.bind_eq_some_iff.mp read
      obtain ⟨iteration, is₂, read⟩ := Option.bind_eq_some_iff.mp read
      cases read
      apply Deadlock.Fits.mk
      · apply (codec_rules depth).fits sized₁ is₁
      · apply (Codec.natural depth).fits sized₂ is₂
    · cases read

theorem Status.codec (level depth : Nat) :
  Codec (Status.ofValue? level) Status.encode (depth + 3) Status.Fits
  where
  exists_reads {status} status_ok := by
    cases status with
    | running =>
      use .text (utf8 "Running"), reads_textBytes (by decide)
      rw [Status.ofValue?, Value.place?_text]
      · rfl
      · intros; contradiction
    | succeeded =>
      use .text (utf8 "Succeeded"), reads_textBytes (by decide)
      rw [Status.ofValue?, Value.place?_text]
      · rfl
      · intros; contradiction
    | failed deadlock =>
      obtain ⟨content, reads, is⟩ := (Deadlock.codec level depth).exists_reads status_ok
      have names_ok : Codec.FieldNames ["Failed"] := by decide
      use .record ["Failed"] [content]
      constructor
      · apply Codec.reads_record names_ok rfl
        refine .cons reads .nil
      · have form : Value.place? formNames (.text (utf8 "Failed")) = some (some 2) := by
          rw [Value.place?_text]
          rfl
        have entry : Value.record ["Failed"] [content]
            = .map [(.text (utf8 "Failed"), content)] := rfl
        rw [entry, Status.ofValue?, form]
        simp [is]
  fits {v status} sized read := by
    unfold Status.ofValue? at read
    split at read
    · cases sized with
      | map _ _ sized =>
        rw [List.forall_mem_singleton] at sized
        obtain ⟨place, -, read⟩ := Option.bind_eq_some_iff.mp read
        split at read
        · cases read
          trivial
        · cases read
          trivial
        · obtain ⟨deadlock, found, same⟩ := Option.bind_eq_some_iff.mp read
          cases same
          apply (Deadlock.codec level depth).fits sized found
        · cases read
    · obtain ⟨place, -, read⟩ := Option.bind_eq_some_iff.mp read
      split at read
      · cases read
        trivial
      · cases read
        trivial
      · cases read

/-! ### Records -/

theorem SnapshotRecord.codec (level depth : Nat) :
  Codec (SnapshotRecord.ofValue? level) SnapshotRecord.encode (depth + 4) SnapshotRecord.Fits
  := by
  apply Codec.record fieldNames (by decide) level
  · intro
    rfl
  · intro s s_ok
    obtain ⟨step, reads₁, is₁⟩ := (Codec.natural (depth + 3)).exists_reads s_ok.step
    obtain ⟨iteration, reads₂, is₂⟩ := (Codec.natural (depth + 3)).exists_reads s_ok.iteration
    obtain ⟨examined, reads₃, is₃⟩ := (RuleId.codec (depth + 3)).exists_reads s_ok.examined
    obtain ⟨performing, reads₄, is₄⟩ :=
      (Codec.bool (depth + 3)).exists_reads (trivial : (fun _ => True) s.performing)
    obtain ⟨status, reads₅, is₅⟩ := (Status.codec (level - 1) depth).exists_reads s_ok.status
    obtain ⟨memory, reads₆, is₆⟩ := (codec_texts (depth + 2)).exists_reads s_ok.memory
    obtain ⟨pending, reads₇, is₇⟩ := (codec_rules (depth + 2)).exists_reads s_ok.pending
    obtain ⟨fired, reads₈, is₈⟩ := (codec_rules (depth + 2)).exists_reads s_ok.fired
    use [step, iteration, examined, performing, status, memory, pending, fired]
    constructor
    · refine .cons reads₁ (.cons reads₂ (.cons reads₃ (.cons reads₄ (.cons reads₅ (.cons reads₆
        (.cons reads₇ (.cons reads₈ .nil)))))))
    · simp [is₁, is₂, is₃, is₄, is₅, is₆, is₇, is₈]
  · intro fields s sized read
    split at read
    · simp only [List.forall_mem_cons] at sized
      obtain ⟨sized₁, sized₂, sized₃, sized₄, sized₅, sized₆, sized₇, sized₈, -⟩ := sized
      obtain ⟨step, is₁, read⟩ := Option.bind_eq_some_iff.mp read
      obtain ⟨iteration, is₂, read⟩ := Option.bind_eq_some_iff.mp read
      obtain ⟨examined, is₃, read⟩ := Option.bind_eq_some_iff.mp read
      obtain ⟨performing, is₄, read⟩ := Option.bind_eq_some_iff.mp read
      obtain ⟨status, is₅, read⟩ := Option.bind_eq_some_iff.mp read
      obtain ⟨memory, is₆, read⟩ := Option.bind_eq_some_iff.mp read
      obtain ⟨pending, is₇, read⟩ := Option.bind_eq_some_iff.mp read
      obtain ⟨fired, is₈, read⟩ := Option.bind_eq_some_iff.mp read
      cases read
      constructor
      · apply (Codec.natural depth).fits sized₁ is₁
      · apply (Codec.natural depth).fits sized₂ is₂
      · apply (RuleId.codec depth).fits sized₃ is₃
      · apply (Status.codec _ depth).fits sized₅ is₅
      · apply (codec_texts depth).fits sized₆ is₆
      · apply (codec_rules depth).fits sized₇ is₇
      · apply (codec_rules depth).fits sized₈ is₈
    · cases read

theorem RunRecord.codec (depth : Nat) :
  Codec RunRecord.ofValue? RunRecord.encode (depth + 6) RunRecord.Fits
  := by
  -- deepest is a list of rules: in a deadlock, a status, a snapshot, their list and the record
  apply Codec.record fieldNames (by decide) maxDepth
  · intro
    rfl
  · intro r r_ok
    obtain ⟨vocabulary, reads₁, is₁⟩ := (Vocabulary.codec (depth + 4)).exists_reads r_ok.vocabulary
    obtain ⟨rules, reads₂, is₂⟩ := (codec_texts (depth + 4)).exists_reads r_ok.rules
    obtain ⟨status, reads₃, is₃⟩ :=
      (Status.codec (maxDepth - 1) (depth + 2)).exists_reads r_ok.status
    obtain ⟨steps, reads₄, is₄⟩ := (Codec.natural (depth + 5)).exists_reads r_ok.steps
    obtain ⟨iteration, reads₅, is₅⟩ := (Codec.natural (depth + 5)).exists_reads r_ok.iteration
    obtain ⟨memory, reads₆, is₆⟩ := (codec_texts (depth + 4)).exists_reads r_ok.memory
    obtain ⟨fired, reads₇, is₇⟩ := (codec_rules (depth + 4)).exists_reads r_ok.fired
    obtain ⟨snapshots, reads₈, is₈⟩ :=
      (SnapshotRecord.codec (maxDepth - 2) depth).list.exists_reads r_ok.snapshots
    obtain ⟨names, listed, made⟩ := Option.map_eq_some_iff.mp is₁
    use [vocabulary, rules, status, steps, iteration, memory, fired, snapshots]
    constructor
    · refine .cons reads₁ (.cons reads₂ (.cons reads₃ (.cons reads₄ (.cons reads₅ (.cons reads₆
        (.cons reads₇ (.cons reads₈ .nil)))))))
    · simp [listed, made, is₂, is₃, is₄, is₅, is₆, is₇, is₈]
  · intro fields r sized read
    split at read
    · simp only [List.forall_mem_cons] at sized
      obtain ⟨sized₁, sized₂, sized₃, sized₄, sized₅, sized₆, sized₇, sized₈, -⟩ := sized
      obtain ⟨names, is₁, read⟩ := Option.bind_eq_some_iff.mp read
      obtain ⟨rules, is₂, read⟩ := Option.bind_eq_some_iff.mp read
      obtain ⟨status, is₃, read⟩ := Option.bind_eq_some_iff.mp read
      obtain ⟨steps, is₄, read⟩ := Option.bind_eq_some_iff.mp read
      obtain ⟨iteration, is₅, read⟩ := Option.bind_eq_some_iff.mp read
      obtain ⟨memory, is₆, read⟩ := Option.bind_eq_some_iff.mp read
      obtain ⟨fired, is₇, read⟩ := Option.bind_eq_some_iff.mp read
      obtain ⟨snapshots, is₈, read⟩ := Option.bind_eq_some_iff.mp read
      cases read
      constructor
      · apply (Vocabulary.codec depth).fits sized₁ (Option.map_eq_some_iff.mpr ⟨names, is₁, rfl⟩)
      · apply (codec_texts depth).fits sized₂ is₂
      · apply (Status.codec _ depth).fits sized₃ is₃
      · apply (Codec.natural depth).fits sized₄ is₄
      · apply (Codec.natural depth).fits sized₅ is₅
      · apply (codec_texts depth).fits sized₆ is₆
      · apply (codec_rules depth).fits sized₇ is₇
      · apply (SnapshotRecord.codec _ depth).list.fits sized₈ is₈
    · cases read

namespace RunRecord

variable {r : RunRecord} {bytes : List UInt8} {count : Nat}

/-- Every run record that is decoded fits, whatever it was decoded from. -/
theorem fits_of_decode (decoded : decode bytes = .ok r) :
  r.Fits
  := by
  rw [decode] at decoded
  split at decoded
  · rename_i read
    cases decoded
    obtain ⟨⟨v, rest⟩, read, is⟩ := Option.bind_eq_some_iff.mp read
    apply (RunRecord.codec 0).fits (Value.sized_of_read? read) is
  · cases decoded

/-- A run record that fits is decoded from its encoding, whatever bytes follow. -/
theorem decode_encode_append (r_ok : r.Fits) (rest : List UInt8) :
  decode (r.encode ++ rest) = .ok r
  := by
  obtain ⟨v, reads, is⟩ := (RunRecord.codec (maxDepth - 5)).exists_reads r_ok
  have read : Value.read? (maxDepth + 1) (r.encode ++ rest) = some (v, rest) := reads rest
  rw [decode, read, Option.bind_some]
  simp only [is]

theorem decode_encode (r_ok : r.Fits) :
  decode r.encode = .ok r
  := by
  rw [← List.append_nil r.encode]
  apply decode_encode_append r_ok

/-- A run record is decoded from its encoding exactly if it fits: nothing of it is lost, not the
order of its vocabulary nor the index over that, except where the format has no room for it. -/
theorem decode_encode_iff :
  decode r.encode = .ok r ↔ r.Fits
  := by
  constructor
  · apply fits_of_decode
  · apply decode_encode

/-- The record of a failed run, with numbers in each of their widths. -/
def failedRun : RunRecord where
  vocabulary := .ofNames ["b", "a", "naïve"]
  rules := ["b → a", ""]
  status := .failed { unsatisfied := [⟨1⟩, ⟨300⟩], iteration := 0xFFFFFFFFFFFFFFFF }
  steps := 200
  iteration := 70000
  memory := ["b", "naïve"]
  fired := [⟨0⟩]
  snapshots := [
    { step := 0x100000000, iteration := 2, examined := ⟨1⟩, performing := false, status := .running
      memory := ["b"], pending := [⟨1⟩, ⟨300⟩], fired := [] } ]

theorem decode_encode_failedRun :
  failedRun.Fits ∧ decode failedRun.encode = .ok failedRun
  := by
  have fits : failedRun.Fits := by decide +kernel
  apply And.intro fits (decode_encode_iff.mpr fits)

/-! ### A record that does not fit -/

/-- What the encoding of a record begins with in which the first name has 2 ^ 32 letters: the size
of the name is written as zero, and its first letters stand where the other fields should. -/
def overlong : List UInt8 :=
  [0x88, 0xAA] ++ utf8 "vocabulary" ++ [0x91, 0xA0] ++ List.replicate 14 0x61

theorem decode_overlong_append (rest : List UInt8) :
  decode (overlong ++ rest) = fail (.serialization "not a run record")
  := by
  have refused : (Value.read? (maxDepth + 1) overlong).any (fun found => (ofValue? found.1).isNone)
      = true := by
    decide +kernel
  cases read : Value.read? (maxDepth + 1) overlong with
  | none =>
    rw [read] at refused
    cases refused
  | some found =>
    obtain ⟨v, left⟩ := found
    rw [read, Option.any_some, Option.isNone_iff_eq_none] at refused
    have more := (Value.selfDelimiting_read? (maxDepth + 1)).append read rest
    rw [decode, more, Option.bind_some]
    simp only [refused]

theorem exists_encode_eq_overlong_append (zero : Header.written count = 0) (long : 14 ≤ count)
    (names : r.vocabulary.names = [.ofList (List.replicate count 'a')]) :
  ∃ rest, r.encode = overlong ++ rest
  := by
  obtain ⟨others, parts⟩ : ∃ others, r.encode
      = 0x88 :: (textBytes "vocabulary" ++ encodeTexts r.vocabulary.names ++ others) := ⟨_, rfl⟩
  have key : textBytes "vocabulary" = 0xAA :: utf8 "vocabulary" := by decide +kernel
  have name : encodeTexts [.ofList (List.replicate count 'a')]
      = 0x91 :: 0xA0 :: List.replicate count 0x61 := by
    change 0x91 :: (textBytes _ ++ []) = _
    rw [textBytes, utf8_ofList_replicate, List.length_replicate, Header.textBytes, zero,
      List.append_nil]
    rfl
  use List.replicate (count - 14) 0x61 ++ others
  rw [parts, names, key, name, ← Nat.add_sub_of_le long, List.replicate_add, overlong]
  simp

/-- The record of a run about one fact, with a name of so many letters. -/
def named (count : Nat) : RunRecord where
  vocabulary := .ofNames [.ofList (List.replicate count 'a')]
  rules := []
  status := .succeeded
  steps := 0
  iteration := 0
  memory := []
  fired := []
  snapshots := []

/-- A record with a name of 2 ^ 32 letters is decoded from no bytes at all.  Its own encoding is refused
for its first bytes, whatever follows them. -/
theorem not_decode_encode_named :
  decode (named (2 ^ 32)).encode ≠ .ok (named (2 ^ 32))
    ∧ (∀ bytes, decode bytes ≠ .ok (named (2 ^ 32)))
    ∧ (∃ rest, (named (2 ^ 32)).encode = overlong ++ rest)
    ∧ ∀ rest, decode (overlong ++ rest) = fail (.serialization "not a run record")
  := by
  have never (bytes : List UInt8) : decode bytes ≠ .ok (named (2 ^ 32)) := by
    intro decoded
    have short := (fits_of_decode decoded).vocabulary.each _ (List.mem_singleton_self _)
    rw [FitsText, utf8_ofList_replicate, List.length_replicate] at short
    exact absurd short (by decide)
  refine ⟨never _, never, ?_, decode_overlong_append⟩
  exact exists_encode_eq_overlong_append (by decide) (by decide) rfl

end RunRecord

end ForwardChaining
