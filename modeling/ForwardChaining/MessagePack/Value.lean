import ForwardChaining.MessagePack.Header

/-!
# MessagePack values

`Value.read?` reads one value from the beginning of a list of bytes.  Texts are kept as their
bytes, since only some uses of a text ask that it be UTF-8.  Arrays, maps and extensions are
containers, and are nested to a limited depth.
-/

namespace ForwardChaining.MessagePack

/-- A MessagePack value. -/
inductive Value where
  | nil
  | bool (b : Bool)
  /-- A number written as one that is not negative. -/
  | natural (n : Nat)
  /-- A number written as one that may be negative. -/
  | signed (i : Int)
  | float (bytes : List UInt8)
  | text (bytes : List UInt8)
  | binary (bytes : List UInt8)
  | extension (bytes : List UInt8)
  | array (values : List Value)
  | map (entries : List (Value × Value))

/-! ### Reading -/

/-- Reads `n` things in turn. -/
def readMany {α : Type} (read : List UInt8 → Option (α × List UInt8)) :
    Nat → List UInt8 → Option (List α × List UInt8)
  | 0, bytes => some ([], bytes)
  | n + 1, bytes =>
    match read bytes with
    | none => none
    | some (x, rest) => (readMany read n rest).map fun (xs, rest) => (x :: xs, rest)

/-- Reads two things in turn. -/
def readPair {α : Type} (read : List UInt8 → Option (α × List UInt8)) (bytes : List UInt8) :
    Option ((α × α) × List UInt8) :=
  match read bytes with
  | none => none
  | some (x, rest) => (read rest).map fun (y, rest) => ((x, y), rest)

/-- Reads so many bytes as the content of a value. -/
def readContent (value : List UInt8 → Value) (size : Nat) (bytes : List UInt8) :
    Option (Value × List UInt8) :=
  (takeBytes? size bytes).map fun (content, rest) => (value content, rest)

/-- Reads a value with at most `depth` containers around one another, and gives what is left
of the bytes. -/
def Value.read? : (depth : Nat) → List UInt8 → Option (Value × List UInt8)
  | depth, bytes =>
    match Header.read? bytes with
    | none => none
    | some (.nil, rest) => some (nil, rest)
    | some (.bool b, rest) => some (bool b, rest)
    | some (.natural n, rest) => some (natural n, rest)
    | some (.signed i, rest) => some (signed i, rest)
    | some (.float size, rest) => readContent float size rest
    | some (.text size, rest) => readContent text size rest
    | some (.binary size, rest) => readContent binary size rest
    | some (.extension size, rest) =>
      match depth with
      | 0 => none
      | _ + 1 => readContent extension (size + 1) rest
    | some (.array size, rest) =>
      match depth with
      | 0 => none
      | depth + 1 =>
        (readMany (Value.read? depth) size rest).map fun (values, rest) => (array values, rest)
    | some (.map size, rest) =>
      match depth with
      | 0 => none
      | depth + 1 =>
        (readMany (readPair (Value.read? depth)) size rest).map fun (entries, rest) =>
          (map entries, rest)

/-! ### Writing -/

/-- The bytes of a string in UTF-8. -/
def utf8 (s : String) : List UInt8 :=
  s.toUTF8.data.toList

/-- A text value. -/
def textBytes (s : String) : List UInt8 :=
  Header.textBytes (utf8 s).length ++ utf8 s

/-- An array value, given the bytes of its elements. -/
def arrayBytes (values : List (List UInt8)) : List UInt8 :=
  Header.arrayBytes values.length ++ values.flatten

/-- A map value, given its keys and the bytes under them. -/
def mapBytes (entries : List (String × List UInt8)) : List UInt8 :=
  Header.mapBytes entries.length
    ++ entries.flatMap fun (key, value) => textBytes key ++ value

/-! ### What values stand for -/

namespace Value

/-- The truth value that a value stands for. -/
def bool? : Value → Option Bool
  | bool b => some b
  | _ => none

/-- The number of 64 bits that a value stands for, in whatever way it is written. -/
def natural? : Value → Option Nat
  | natural n => some n
  | signed i => if 0 ≤ i then some i.toNat else none
  | _ => none

/-- The bytes of a text, written as such or as binary data. -/
def name? : Value → Option (List UInt8)
  | text bytes | binary bytes => some bytes
  | _ => none

/-- The string that a value stands for. -/
def string? (v : Value) : Option String :=
  v.name?.bind fun bytes => String.fromUTF8? ⟨bytes.toArray⟩

/-- The list that a value stands for, given what its elements stand for.  Binary data are a
list of bytes, which stand for nothing, so that only those without bytes are such a list. -/
def list? {α : Type} (element : Value → Option α) : Value → Option (List α)
  | array values => values.mapM element
  | binary [] => some []
  | _ => none

/-- A value has at most `depth` containers around one another. -/
def isWithin : (depth : Nat) → Value → Bool
  | 0, array _ | 0, map _ | 0, extension _ => false
  | depth + 1, array values => values.all (isWithin depth)
  | depth + 1, map entries =>
    entries.all fun (key, value) => isWithin depth key && isWithin depth value
  | _, _ => true

/-- The place in `names` of the name that a key stands for.  A key is a name or the number of
a place; `some none` is a key that names nothing in the list, `none` no key at all. -/
def place? (names : List String) : Value → Option (Option Nat)
  | natural n => some (if n < names.length then some n else none)
  | v => v.name?.map fun bytes => names.findIdx? fun name => utf8 name = bytes

/-- The value at a place, if it is there exactly once. -/
def only? (entries : List (Option Nat × Value)) (place : Nat) : Option Value :=
  match entries.filter (·.1 = some place) with
  | [(_, value)] => some value
  | _ => none

/-- An entry of a record, under the place of its name.  An entry that is passed over has at
most `depth` containers around one another. -/
def entry? (depth : Nat) (names : List String) (key value : Value) :
    Option (Option Nat × Value) := do
  let place ← place? names key
  if place.isSome || isWithin depth value then return (place, value) else none

/-- The values of the named fields, in order.  A record is an array of just these values, or a
map in which each of them stands once, among entries of any other name.  The record and what
is passed over in it have at most `depth` containers around one another. -/
def fields? (depth : Nat) (names : List String) : Value → Option (List Value)
  | array values => if values.length = names.length then some values else none
  | map entries => do
    let entries ← entries.mapM fun (key, value) => entry? (depth - 1) names key value
    (List.range names.length).mapM (only? entries)
  | _ => none

end Value

end ForwardChaining.MessagePack
