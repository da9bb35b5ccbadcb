import ForwardChaining.Proofs.MessagePack.SelfDelimiting
import ForwardChaining.Proofs.Record.RoundTrip

/-!
# Truncated encodings

An encoded run record that lost bytes at its end is never taken for a run record, wherever it
was cut (`RunRecord.decode_of_strict_prefix`).  What is decoded from some bytes is decoded from
them whatever follows (`RunRecord.read_of_decode`), and the encoding of a record leaves nothing
over, so that what is decoded from a beginning of it has read all of it.
-/

namespace ForwardChaining

open MessagePack

namespace RunRecord

variable {r : RunRecord} {bytes : List UInt8}

/-- To decode either gives a run record, or fails with a fault of the encoding. -/
theorem decode_eq_ok_or_fail (bytes : List UInt8) :
  (∃ r, decode bytes = .ok r) ∨ ∃ problem, decode bytes = fail (.serialization problem)
  := by
  rw [decode]
  split
  · rename_i r _
    left
    use r
  · right
    use "not a run record"

/-- The bytes that a run record is decoded from begin with a value that stands for it. -/
theorem read_of_decode (decoded : decode bytes = .ok r) :
  ∃ v rest, Value.read? (maxDepth + 1) bytes = some (v, rest) ∧ ofValue? v = some r
  := by
  rw [decode] at decoded
  split at decoded
  · rename_i read
    cases decoded
    obtain ⟨⟨v, rest⟩, read, is⟩ := Option.bind_eq_some_iff.mp read
    use v, rest
  · cases decoded

/-- The encoding of a run record that fits is one value, which leaves nothing over. -/
theorem read_encode (r_ok : r.Fits) :
  ∃ v, Value.read? (maxDepth + 1) r.encode = some (v, [])
  := by
  obtain ⟨v, reads, -⟩ := (RunRecord.codec (maxDepth - 5)).exists_reads r_ok
  have read : Value.read? (maxDepth + 1) (r.encode ++ []) = some (v, []) := reads []
  rw [List.append_nil] at read
  use v

/-- No strict beginning of the encoding of a run record is decoded. -/
theorem decode_of_strict_prefix (r_ok : r.Fits) {cut : List UInt8} (beginning : cut <+: r.encode)
    (strict : cut ≠ r.encode) :
  ∃ problem, decode cut = fail (.serialization problem)
  := by
  obtain ⟨other, decoded⟩ | failed := decode_eq_ok_or_fail cut
  · -- what was cut off would be left over by the whole encoding
    obtain ⟨lost, whole⟩ := beginning
    obtain ⟨v, rest, read, -⟩ := read_of_decode decoded
    have extended := (Value.selfDelimiting_read? _).append read lost
    obtain ⟨w, all⟩ := read_encode r_ok
    rw [whole, all, Option.some_inj, Prod.mk.injEq] at extended
    have nothing : lost = [] := (List.append_eq_nil_iff.mp extended.2.symm).2
    rw [nothing, List.append_nil] at whole
    apply absurd whole strict
  · exact failed

/-- The record of a failed run, cut in the middle of a number of eight bytes. -/
theorem decode_of_strict_prefix_failedRun :
  failedRun.Fits ∧ failedRun.encode.take 88 <+: failedRun.encode
    ∧ failedRun.encode.take 88 ≠ failedRun.encode
    ∧ ∃ problem, decode (failedRun.encode.take 88) = fail (.serialization problem)
  := by
  have fits : failedRun.Fits := by decide +kernel
  have beginning : failedRun.encode.take 88 <+: failedRun.encode := List.take_prefix _ _
  have strict : failedRun.encode.take 88 ≠ failedRun.encode := by decide +kernel
  exact ⟨fits, beginning, strict, decode_of_strict_prefix fits beginning strict⟩

end RunRecord

end ForwardChaining
