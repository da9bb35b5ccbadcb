/-!
# Texts

What is asked of texts again and again.  A text is given as its list of characters: it is trimmed,
divided into lines, split at a character or at an arrow, or read as a numeral.
-/

namespace ForwardChaining.Text

/-- The code point of the character lies in one of the ranges, each of which is given by its
first and its last code point. -/
def inRanges (ranges : List (Nat × Nat)) (c : Char) : Bool :=
  ranges.any fun (first, last) => first ≤ c.toNat && c.toNat ≤ last

/-! ### Blank characters

Blank characters separate words.  They are twenty-five in number: a zero-width space or a byte
order mark is not blank. -/

/-- The blank characters: those with Unicode's `White_Space` property. -/
def isBlank (c : Char) : Bool :=
  let n := c.toNat
  (0x09 ≤ n && n ≤ 0x0D) || n == 0x20 || n == 0x85 || n == 0xA0 || n == 0x1680
    || (0x2000 ≤ n && n ≤ 0x200A) || n == 0x2028 || n == 0x2029 || n == 0x202F
    || n == 0x205F || n == 0x3000

/-- The text `cs` without the blank characters it begins with. -/
def trimLeft (cs : List Char) : List Char :=
  cs.dropWhile isBlank

/-- The text `cs` without the blank characters it ends with. -/
def trimRight (cs : List Char) : List Char :=
  (cs.reverse.dropWhile isBlank).reverse

/-- The text `cs` without the blank characters at either end. -/
def trim (cs : List Char) : List Char :=
  trimRight (trimLeft cs)

/-- The string `s` without the blank characters it ends with. -/
def trimmedRight (s : String) : String :=
  .ofList (trimRight s.toList)

/-- The string `s` without the blank characters at either end. -/
def trimmed (s : String) : String :=
  .ofList (trim s.toList)

/-! ### Parts

A text is split at the first or the last character with a property, at every occurrence of
a separator, or at the first arrow.  What separates belongs to no part. -/

/-- The parts of a text before and after its first character that satisfies `p`. -/
def splitFirst? (p : Char → Bool) : List Char → Option (List Char × List Char)
  | [] => none
  | c :: rest =>
    if p c then some ([], rest)
    else (splitFirst? p rest).map fun (before, after) => (c :: before, after)

/-- The parts of a text before and after its last character that satisfies `p`. -/
def splitLast? (p : Char → Bool) : List Char → Option (List Char × List Char)
  | [] => none
  | c :: rest =>
    match splitLast? p rest with
    | some (before, after) => some (c :: before, after)
    | none => if p c then some ([], rest) else none

/-- The pieces of a text between the occurrences of `separator`; there is always one. -/
def splitOn (separator : Char) : List Char → List (List Char)
  | [] => [[]]
  | c :: rest =>
    if c = separator then [] :: splitOn separator rest
    else
      match splitOn separator rest with
      | [] => [[c]]
      | piece :: others => (c :: piece) :: others

/-- The parts of a text before and after its first arrow `->`. -/
def splitArrow? : List Char → Option (List Char × List Char)
  | [] => none
  | '-' :: '>' :: rest => some ([], rest)
  | c :: rest => (splitArrow? rest).map fun (before, after) => (c :: before, after)

/-! ### Lines

A line ends at a line feed, and one carriage return directly before that line feed belongs
to the line's end.  What follows the last line feed is a line only if it is not empty, and
a carriage return that no line feed follows is part of its line. -/

/-- The lines of a text, without their ends. -/
def lines : List Char → List (List Char)
  | [] => []
  | '\n' :: rest => [] :: lines rest
  | '\r' :: '\n' :: rest => [] :: lines rest
  | c :: rest =>
    match lines rest with
    | [] => [[c]]
    | line :: others => (c :: line) :: others

/-! ### Numerals

What is written in digits is brought to a least width, counted in characters. -/

/-- The numbers of 32 bits lie below this one. -/
def limit32 : Nat := 0x100000000

/-- The numbers of 64 bits lie below this one. -/
def limit64 : Nat := 0x10000000000000000

/-- The ASCII decimal digits. -/
def isDigit (c : Char) : Bool :=
  '0' ≤ c && c ≤ '9'

/-- The number written by the digits `cs`. -/
def digitsValue (cs : List Char) : Nat :=
  cs.foldl (fun n c => 10 * n + (c.toNat - '0'.toNat)) 0

/-- A non-empty list of ASCII digits, read as a number. -/
def readDigits? (cs : List Char) : Option Nat :=
  if !cs.isEmpty && cs.all isDigit then some (digitsValue cs) else none

/-- A numeral below `limit`: ASCII digits after at most one plus sign. -/
def readNat? (limit : Nat) (cs : List Char) : Option Nat :=
  let digits :=
    match cs with
    | '+' :: rest => rest
    | _ => cs
  (readDigits? digits).filter (· < limit)

/-- The string `s`, preceded by as many `c` as bring it to `width` characters. -/
def padLeft (c : Char) (width : Nat) (s : String) : String :=
  .ofList (s.toList.leftpad width c)

/-- The number `n` with at least `width` digits. -/
def zeroPadded (width n : Nat) : String :=
  padLeft '0' width (toString n)

end ForwardChaining.Text
