/-!
# Rounding quotients

`roundDiv num den` is the whole number nearest to `num / den`; of two equally near numbers
it is the even one.  `binary64 num den` is the nearest fraction with a significand of 53
binary digits, and `thousandths` writes a fraction with three decimal places.
-/

namespace ForwardChaining.Number

/-- The whole number nearest to `num / den`, the even one of two equally near. -/
def roundDiv (num den : Nat) : Nat :=
  let quotient := num / den
  let excess := 2 * (num % den)
  if den < excess || (den == excess && quotient % 2 == 1) then quotient + 1 else quotient

/-- A fraction `num / den` of natural numbers. -/
structure Fraction where
  num : Nat
  den : Nat
  deriving DecidableEq

/-- The fraction `num / den`, times the power of two with the exponent `e`. -/
def Fraction.scaled (num den : Nat) (e : Int) : Fraction :=
  ⟨num * Nat.pow 2 e.toNat, den * Nat.pow 2 (-e).toNat⟩

/-- The fraction nearest to `x` whose significand has 53 binary digits, a tie going to the
even significand.  Exponents are not bounded. -/
def binary64 (x : Fraction) : Fraction :=
  if x.num = 0 then ⟨0, 1⟩
  else
    let estimate : Int := 52 + x.den.log2 - x.num.log2
    let trial := Fraction.scaled x.num x.den estimate
    let e := if trial.num < Nat.pow 2 52 * trial.den then estimate + 1 else estimate
    let shifted := Fraction.scaled x.num x.den e
    Fraction.scaled (roundDiv shifted.num shifted.den) 1 (-e)

/-- The fraction `x` with three decimal places, a tie going to the even last digit. -/
def thousandths (x : Fraction) : String :=
  let n := roundDiv (1000 * x.num) x.den
  let places := toString (1000 + n % 1000)
  toString (n / 1000) ++ "." ++ .ofList (places.toList.drop 1)

end ForwardChaining.Number
