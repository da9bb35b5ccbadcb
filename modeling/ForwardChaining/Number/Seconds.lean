import ForwardChaining.Number.Rounding
import ForwardChaining.Text.Basic

/-!
# Spans of time

`readSeconds?` reads a number of seconds: decimal digits, with a point before, within or
after them, and perhaps a sign and an exponent.  The number is rounded to a significand of 53
binary digits, and must then be neither negative nor as large as `2 ^ 64`.  The result is in
whole nanoseconds.
-/

namespace ForwardChaining.Number

/-- A decimal number `digits * 10 ^ exponent`. -/
structure Decimal where
  negative : Bool
  digits : Nat
  exponent : Int
  deriving DecidableEq

/-- The sign that a text may begin with: whether it is a minus, and what follows. -/
def readSign : List Char → Bool × List Char
  | '-' :: rest => (true, rest)
  | '+' :: rest => (false, rest)
  | cs => (false, cs)

/-- The exponent that a number may end with; there is none if nothing is left to read. -/
def readExponent? : List Char → Option Int
  | [] => some 0
  | c :: rest =>
    if c = 'e' ∨ c = 'E' then
      let (negative, digits) := readSign rest
      (Text.readDigits? digits).map fun n => if negative then -(n : Int) else n
    else none

/-- Reads a decimal number with an optional sign, point and exponent. -/
def readDecimal? (cs : List Char) : Option Decimal :=
  let (negative, cs) := readSign cs
  let whole := cs.takeWhile Text.isDigit
  let rest := cs.dropWhile Text.isDigit
  let (places, rest) :=
    match rest with
    | '.' :: rest => (rest.takeWhile Text.isDigit, rest.dropWhile Text.isDigit)
    | _ => ([], rest)
  if whole.isEmpty && places.isEmpty then none
  else
    (readExponent? rest).map fun e =>
      ⟨negative, Text.digitsValue (whole ++ places), e - places.length⟩

/-- The magnitude of a decimal number as a fraction. -/
def Decimal.magnitude (d : Decimal) : Fraction :=
  ⟨d.digits * Nat.pow 10 d.exponent.toNat, Nat.pow 10 (-d.exponent).toNat⟩

/-- A span of time in nanoseconds.  Negative numbers are refused unless they round to zero,
and numbers that round to `2 ^ 64` or more are refused. -/
def Decimal.nanoseconds? (d : Decimal) : Option Nat :=
  let scale := (toString d.digits).length + d.exponent
  if d.digits = 0 ∨ scale < -400 then some 0
  else if 25 < scale then none
  else
    let x := d.magnitude
    if d.negative then
      if x.num * Nat.pow 2 1075 ≤ x.den then some 0 else none
    else
      let seconds := binary64 x
      if seconds.num < Text.limit64 * seconds.den then
        some (roundDiv (seconds.num * 1000000000) seconds.den)
      else none

/-- Reads a number of seconds, as a span of time in nanoseconds. -/
def readSeconds? (cs : List Char) : Option Nat :=
  (readDecimal? cs).bind Decimal.nanoseconds?

/-- A span of time: seconds, or the largest smaller unit that it reaches, with as many places
as it needs. -/
def describeSpan (nanoseconds : Nat) : String :=
  let inUnit (unit : Nat) (name : String) : String :=
    let places := (toString (unit + nanoseconds % unit)).toList.drop 1
    let places := (places.reverse.dropWhile (· = '0')).reverse
    toString (nanoseconds / unit) ++ (if places.isEmpty then "" else "." ++ .ofList places) ++ name
  if nanoseconds ≥ 1000000000 then inUnit 1000000000 "s"
  else if nanoseconds ≥ 1000000 then inUnit 1000000 "ms"
  else if nanoseconds ≥ 1000 then inUnit 1000 "µs"
  else inUnit 1 "ns"

end ForwardChaining.Number
