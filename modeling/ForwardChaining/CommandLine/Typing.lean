import ForwardChaining.Text.Cluster

/-!
# Typed lines

A line of input may hold backspaces, each of which takes back the cluster that was typed
before it.  How long that cluster was is remembered as a number of bytes, which is itself kept
in one byte: a cluster of 256 bytes or more is taken back only as far as its size exceeds a
multiple of 256.
-/

namespace ForwardChaining.CommandLine

/-- A line as far as it has been typed. -/
structure Typing where
  /-- What stands in the line, from its last character to its first. -/
  kept : List Char
  /-- The sizes of the clusters that can be taken back, the latest first. -/
  sizes : List UInt8
  deriving DecidableEq

namespace Typing

/-- Nothing has been typed. -/
def empty : Typing := ⟨[], []⟩

/-- Removes the first characters that fit into so many bytes. -/
def dropBytes : Nat → List Char → List Char
  | _, [] => []
  | size, c :: rest => if c.utf8Size ≤ size then dropBytes (size - c.utf8Size) rest else c :: rest

/-- Takes back the latest cluster, if there is one. -/
def takeBack (t : Typing) : Typing :=
  match t.sizes with
  | [] => t
  | size :: sizes => ⟨dropBytes size.toNat t.kept, sizes⟩

/-- Types one more cluster. -/
def type (t : Typing) (cluster : List Char) : Typing :=
  if cluster = ['\x08'] then t.takeBack
  else
    { kept := cluster.reverse ++ t.kept
      sizes := UInt8.ofNat (String.ofList cluster).utf8ByteSize :: t.sizes }

end Typing

/-- What stands in a line after it has been typed. -/
def typed (line : List Char) : List Char :=
  ((Text.clusters line).foldl Typing.type .empty).kept.reverse

end ForwardChaining.CommandLine
