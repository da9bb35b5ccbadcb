import Mathlib.Data.List.Induction
import ForwardChaining.MessagePack.Header
import ForwardChaining.Text.Basic

/-!
# Reading written headers

A header is read back from the bytes it was written in, in each of its widths, and whatever
follows it is left (`read?_naturalBytes`, `read?_textBytes`, `read?_arrayBytes`,
`read?_mapBytes`).  Numbers have at most 64 bits and sizes at most 32, and no header that is
read says more (`sized_of_read?`).
-/

namespace ForwardChaining.MessagePack

variable {bytes digits rest : List UInt8} {n width : Nat}

/-! ### Digits -/

theorem ofBigEndian_concat (digits : List UInt8) (b : UInt8) :
  ofBigEndian (digits ++ [b]) = 256 * ofBigEndian digits + b.toNat
  := by
  rw [ofBigEndian, List.foldl_append]
  rfl

theorem ofBigEndian_lt (digits : List UInt8) :
  ofBigEndian digits < Nat.pow 256 digits.length
  := by
  induction digits using List.reverseRecOn with
  | nil => decide
  | append_singleton digits b ih =>
    have small := b.toNat_lt
    rw [ofBigEndian_concat, List.length_append, List.length_singleton]
    change _ < Nat.pow 256 digits.length * 256
    omega

theorem length_bigEndian (width n : Nat) :
  (bigEndian width n).length = width
  := by
  induction width generalizing n with
  | zero => rfl
  | succ width ih => rw [bigEndian, List.length_append, ih, List.length_singleton]

/-- A number is read back from its digits, if there are digits enough. -/
theorem ofBigEndian_bigEndian (small : n < Nat.pow 256 width) :
  ofBigEndian (bigEndian width n) = n
  := by
  induction width generalizing n with
  | zero =>
    rw [Nat.lt_one_iff.mp small]
    rfl
  | succ width ih =>
    have small : n < 256 * Nat.pow 256 width := by
      rw [Nat.mul_comm]
      apply small
    have digit : (UInt8.ofNat (n % 256)).toNat = n % 256 :=
      UInt8.toNat_ofNat_of_lt' (Nat.mod_lt n (by decide))
    rw [bigEndian, ofBigEndian_concat, ih (Nat.div_lt_of_lt_mul small), digit]
    omega

/-! ### Bytes that are taken -/

theorem takeBytes?_append (bytes rest : List UInt8) :
  takeBytes? bytes.length (bytes ++ rest) = some (bytes, rest)
  := by
  induction bytes with
  | nil => rfl
  | cons b bytes ih => rw [List.length_cons, List.cons_append, takeBytes?, ih, Option.map_some]

theorem length_of_takeBytes? {taken : List UInt8} (took : takeBytes? n bytes = some (taken, rest)) :
  taken.length = n
  := by
  induction n generalizing bytes taken with
  | zero =>
    cases took
    rfl
  | succ n ih =>
    cases bytes with
    | nil => cases took
    | cons b bytes =>
      obtain ⟨⟨taken, rest⟩, later, same⟩ := Option.map_eq_some_iff.mp took
      cases same
      rw [List.length_cons, ih later]

theorem readNatural?_bigEndian (small : n < Nat.pow 256 width) (rest : List UInt8) :
  readNatural? width (bigEndian width n ++ rest) = some (n, rest)
  := by
  have taken := takeBytes?_append (bigEndian width n) rest
  rw [length_bigEndian] at taken
  rw [readNatural?, taken, Option.map_some]
  simp only
  rw [ofBigEndian_bigEndian small]

theorem lt_of_readNatural? (read : readNatural? width bytes = some (n, rest)) :
  n < Nat.pow 256 width
  := by
  obtain ⟨⟨digits, rest⟩, took, same⟩ := Option.map_eq_some_iff.mp read
  cases same
  rw [← length_of_takeBytes? took]
  apply ofBigEndian_lt

theorem toNat_lt_of_readSigned? {i : Int} (read : readSigned? width bytes = some (i, rest)) :
  i.toNat < Nat.pow 256 width
  := by
  obtain ⟨⟨digits, rest⟩, took, same⟩ := Option.map_eq_some_iff.mp read
  cases same
  have small := ofBigEndian_lt digits
  rw [← length_of_takeBytes? took]
  dsimp only [ofTwosComplement]
  split
  · rw [Int.toNat_natCast]
    apply small
  · -- the number is negative
    omega

namespace Header

/-! ### Headers that are written -/

/-- A header is read from a byte that says in how many digits its number follows. -/
theorem read?_sized {marker : UInt8} {header : Nat → Header}
    (reads : ∀ bytes, readAfter? marker.toNat bytes
      = (readNatural? width bytes).map fun (n, rest) => (header n, rest))
    (small : n < Nat.pow 256 width) (rest : List UInt8) :
  read? (marker :: bigEndian width n ++ rest) = some (header n, rest)
  := by
  rw [List.cons_append, read?, reads, readNatural?_bigEndian small, Option.map_some]

theorem read?_short {marker : Nat} {header : Header} (small : marker < 256)
    (reads : readAfter? marker rest = some (header, rest)) :
  read? ([UInt8.ofNat marker] ++ rest) = some (header, rest)
  := by
  rw [List.singleton_append, read?, UInt8.toNat_ofNat_of_lt' small, reads]

theorem readAfter?_natural (small : n < 0x80) (rest : List UInt8) :
  readAfter? n rest = some (natural n, rest)
  := by
  unfold readAfter?
  rw [if_pos small]

theorem readAfter?_map (small : n < 16) (rest : List UInt8) :
  readAfter? (0x80 + n) rest = some (map n, rest)
  := by
  unfold readAfter?
  rw [if_neg (by omega), if_pos (by omega), Nat.add_sub_cancel_left]

theorem readAfter?_array (small : n < 16) (rest : List UInt8) :
  readAfter? (0x90 + n) rest = some (array n, rest)
  := by
  unfold readAfter?
  rw [if_neg (by omega), if_neg (by omega), if_pos (by omega), Nat.add_sub_cancel_left]

theorem readAfter?_text (small : n < 32) (rest : List UInt8) :
  readAfter? (0xA0 + n) rest = some (text n, rest)
  := by
  unfold readAfter?
  rw [if_neg (by omega), if_neg (by omega), if_neg (by omega), if_pos (by omega),
    Nat.add_sub_cancel_left]

theorem read?_naturalBytes (small : n < Text.limit64) (rest : List UInt8) :
  read? (naturalBytes n ++ rest) = some (natural n, rest)
  := by
  rw [naturalBytes]
  split
  · rename_i short
    apply read?_short (by omega) (readAfter?_natural short rest)
  · split
    · apply read?_sized (fun _ => rfl) (by omega)
    · split
      · apply read?_sized (fun _ => rfl) (by omega)
      · split
        · apply read?_sized (fun _ => rfl) (by omega)
        · apply read?_sized (fun _ => rfl) (Nat.lt_of_lt_of_le small (by decide))

theorem read?_boolBytes (b : Bool) (rest : List UInt8) :
  read? (boolBytes b ++ rest) = some (bool b, rest)
  := by
  cases b <;> rfl

theorem written_of_lt (small : n < Text.limit32) :
  written n = n
  := Nat.mod_eq_of_lt small

theorem read?_textBytes (small : n < Text.limit32) (rest : List UInt8) :
  read? (textBytes n ++ rest) = some (text n, rest)
  := by
  rw [textBytes, written_of_lt small]
  split
  · rename_i short
    apply read?_short (by omega) (readAfter?_text short rest)
  · split
    · apply read?_sized (fun _ => rfl) (by omega)
    · split
      · apply read?_sized (fun _ => rfl) (by omega)
      · apply read?_sized (fun _ => rfl) (Nat.lt_of_lt_of_le small (by decide))

theorem read?_arrayBytes (small : n < Text.limit32) (rest : List UInt8) :
  read? (arrayBytes n ++ rest) = some (array n, rest)
  := by
  rw [arrayBytes, written_of_lt small]
  split
  · rename_i short
    apply read?_short (by omega) (readAfter?_array short rest)
  · split
    · apply read?_sized (fun _ => rfl) (by omega)
    · apply read?_sized (fun _ => rfl) (Nat.lt_of_lt_of_le small (by decide))

theorem read?_mapBytes (small : n < Text.limit32) (rest : List UInt8) :
  read? (mapBytes n ++ rest) = some (map n, rest)
  := by
  rw [mapBytes, written_of_lt small]
  split
  · rename_i short
    apply read?_short (by omega) (readAfter?_map short rest)
  · split
    · apply read?_sized (fun _ => rfl) (by omega)
    · apply read?_sized (fun _ => rfl) (Nat.lt_of_lt_of_le small (by decide))

/-! ### Headers that are read -/

/-- The header's number has at most 64 bits, or its size at most 32. -/
def Sized : Header → Prop
  | natural n => n < Text.limit64
  | signed i => i.toNat < Text.limit64
  | text size | binary size | array size | map size => size < Text.limit32
  | _ => True

theorem sized_of_readAfter? {marker : Nat} {h : Header} (byte : marker < 256)
    (read : readAfter? marker bytes = some (h, rest)) :
  h.Sized
  := by
  -- a number or a size is in the marker itself, or in as many digits as the marker says
  have sized {header : Nat → Header} {width : Nat}
      (header_ok : ∀ n < Nat.pow 256 width, (header n).Sized)
      (read : ((readNatural? width bytes).map fun found => (header found.1, found.2))
        = some (h, rest)) :
      h.Sized := by
    obtain ⟨⟨n, rest⟩, found, same⟩ := Option.map_eq_some_iff.mp read
    cases same
    apply header_ok n (lt_of_readNatural? found)
  have number {width : Nat} (short : Nat.pow 256 width ≤ Text.limit64)
      (read : ((readSigned? width bytes).map fun found => (signed found.1, found.2))
        = some (h, rest)) :
      h.Sized := by
    obtain ⟨⟨i, rest⟩, found, same⟩ := Option.map_eq_some_iff.mp read
    cases same
    apply Nat.lt_of_lt_of_le (toNat_lt_of_readSigned? found) short
  unfold readAfter? at read
  repeat' split at read
  all_goals first
    | (apply number _ read; decide)
    | (apply sized _ read; intro n small; apply Nat.lt_of_lt_of_le small; decide)
    | (apply sized _ read; intros; trivial)
    | (cases read; simp only [Sized, Text.limit32, Text.limit64]; omega)
    | (cases read; trivial)
    | cases read

theorem sized_of_read? {h : Header} (read : read? bytes = some (h, rest)) :
  h.Sized
  := by
  cases bytes with
  | nil => cases read
  | cons marker bytes => apply sized_of_readAfter? marker.toNat_lt read

end Header

end ForwardChaining.MessagePack
