/-!
# MessagePack headers

A MessagePack value begins with a header, which says of what sort it is and, as the case may
be, gives the value itself or the number of bytes or values that follow.  A header can be
written in several widths; what is written here is the shortest.
-/

namespace ForwardChaining.MessagePack

/-- The beginning of a value. -/
inductive Header where
  | nil
  | bool (b : Bool)
  /-- A number written as one that is not negative. -/
  | natural (n : Nat)
  /-- A number written as one that may be negative. -/
  | signed (i : Int)
  /-- A binary fraction of so many bytes. -/
  | float (size : Nat)
  /-- A text of so many bytes. -/
  | text (size : Nat)
  /-- So many bytes. -/
  | binary (size : Nat)
  /-- So many bytes of an application's own sort, after one that names the sort. -/
  | extension (size : Nat)
  /-- So many values. -/
  | array (size : Nat)
  /-- So many pairs of values. -/
  | map (size : Nat)
  deriving DecidableEq

/-! ### Numbers -/

/-- The number whose digits to base 256 are the given bytes. -/
def ofBigEndian (bytes : List UInt8) : Nat :=
  bytes.foldl (fun n b => 256 * n + b.toNat) 0

/-- The last `width` digits of `n` to base 256. -/
def bigEndian : Nat → Nat → List UInt8
  | 0, _ => []
  | width + 1, n => bigEndian width (n / 256) ++ [UInt8.ofNat (n % 256)]

/-- The number whose digits to base 256 are the given bytes, in two's complement. -/
def ofTwosComplement (bytes : List UInt8) : Int :=
  let n := ofBigEndian bytes
  let range := Nat.pow 256 bytes.length
  if 2 * n < range then n else (n : Int) - range

/-- The first `n` bytes and the rest, if there are so many. -/
def takeBytes? : Nat → List UInt8 → Option (List UInt8 × List UInt8)
  | 0, bytes => some ([], bytes)
  | _ + 1, [] => none
  | n + 1, b :: bytes => (takeBytes? n bytes).map fun (taken, rest) => (b :: taken, rest)

/-- The number given by the first `width` bytes, and the rest. -/
def readNatural? (width : Nat) (bytes : List UInt8) : Option (Nat × List UInt8) :=
  (takeBytes? width bytes).map fun (digits, rest) => (ofBigEndian digits, rest)

/-- The number given by the first `width` bytes in two's complement, and the rest. -/
def readSigned? (width : Nat) (bytes : List UInt8) : Option (Int × List UInt8) :=
  (takeBytes? width bytes).map fun (digits, rest) => (ofTwosComplement digits, rest)

namespace Header

/-! ### Reading -/

/-- The header that begins with the byte `marker`, of which `bytes` are the following ones,
and the bytes after it. -/
def readAfter? (marker : Nat) (bytes : List UInt8) : Option (Header × List UInt8) :=
  let sized (header : Nat → Header) (width : Nat) : Option (Header × List UInt8) :=
    (readNatural? width bytes).map fun (n, rest) => (header n, rest)
  let number (width : Nat) : Option (Header × List UInt8) :=
    (readSigned? width bytes).map fun (i, rest) => (signed i, rest)
  if marker < 0x80 then some (natural marker, bytes)
  else if marker < 0x90 then some (map (marker - 0x80), bytes)
  else if marker < 0xA0 then some (array (marker - 0x90), bytes)
  else if marker < 0xC0 then some (text (marker - 0xA0), bytes)
  else if 0xE0 ≤ marker then some (signed ((marker : Int) - 0x100), bytes)
  else
    match marker with
    | 0xC0 => some (nil, bytes)
    | 0xC2 => some (bool false, bytes)
    | 0xC3 => some (bool true, bytes)
    | 0xC4 => sized binary 1
    | 0xC5 => sized binary 2
    | 0xC6 => sized binary 4
    | 0xC7 => sized extension 1
    | 0xC8 => sized extension 2
    | 0xC9 => sized extension 4
    | 0xCA => some (float 4, bytes)
    | 0xCB => some (float 8, bytes)
    | 0xCC => sized natural 1
    | 0xCD => sized natural 2
    | 0xCE => sized natural 4
    | 0xCF => sized natural 8
    | 0xD0 => number 1
    | 0xD1 => number 2
    | 0xD2 => number 4
    | 0xD3 => number 8
    | 0xD4 => some (extension 1, bytes)
    | 0xD5 => some (extension 2, bytes)
    | 0xD6 => some (extension 4, bytes)
    | 0xD7 => some (extension 8, bytes)
    | 0xD8 => some (extension 16, bytes)
    | 0xD9 => sized text 1
    | 0xDA => sized text 2
    | 0xDB => sized text 4
    | 0xDC => sized array 2
    | 0xDD => sized array 4
    | 0xDE => sized map 2
    | 0xDF => sized map 4
    | _ => none

/-- The header that the bytes begin with, and the bytes after it. -/
def read? : List UInt8 → Option (Header × List UInt8)
  | [] => none
  | marker :: bytes => readAfter? marker.toNat bytes

/-! ### Writing -/

/-- The header of a number that is not negative, in the fewest bytes. -/
def naturalBytes (n : Nat) : List UInt8 :=
  if n < 0x80 then [UInt8.ofNat n]
  else if n < 0x100 then 0xCC :: bigEndian 1 n
  else if n < 0x10000 then 0xCD :: bigEndian 2 n
  else if n < 0x100000000 then 0xCE :: bigEndian 4 n
  else 0xCF :: bigEndian 8 n

/-- The header of a truth value. -/
def boolBytes (b : Bool) : List UInt8 :=
  if b then [0xC3] else [0xC2]

/-- The size that is written in a header: of a number of more than 32 bits, the last 32. -/
def written (size : Nat) : Nat :=
  size % 0x100000000

/-- The header of a text of `size` bytes, in the fewest bytes. -/
def textBytes (size : Nat) : List UInt8 :=
  let n := written size
  if n < 32 then [UInt8.ofNat (0xA0 + n)]
  else if n < 0x100 then 0xD9 :: bigEndian 1 n
  else if n < 0x10000 then 0xDA :: bigEndian 2 n
  else 0xDB :: bigEndian 4 n

/-- The header of an array of `size` values, in the fewest bytes. -/
def arrayBytes (size : Nat) : List UInt8 :=
  let n := written size
  if n < 16 then [UInt8.ofNat (0x90 + n)]
  else if n < 0x10000 then 0xDC :: bigEndian 2 n
  else 0xDD :: bigEndian 4 n

/-- The header of a map of `size` pairs, in the fewest bytes. -/
def mapBytes (size : Nat) : List UInt8 :=
  let n := written size
  if n < 16 then [UInt8.ofNat (0x80 + n)]
  else if n < 0x10000 then 0xDE :: bigEndian 2 n
  else 0xDF :: bigEndian 4 n

end Header

end ForwardChaining.MessagePack
