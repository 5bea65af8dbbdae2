/-! Non-negative binary floating-point numbers of 64 bits, in exact integer arithmetic: a value is
`significand * 2 ^ exponent` with a significand below `2 ^ 53` and an exponent of at least `-1074`.
Every operation rounds the exact result to the nearest value and a tie to the even one; a result
beyond the greatest value is `none`. -/

namespace MaskedInput

structure Binary64 where
  significand : Nat
  exponent : Int
  deriving Repr, DecidableEq

namespace Binary64

def leastExponent : Int := -1074

def greatestExponent : Int := 971

def zero : Binary64 := ⟨0, leastExponent⟩

def isZero (x : Binary64) : Bool := x.significand = 0

/-- The nearest integer to a quotient; a tie goes to the even one. -/
def divideToEven (num den : Nat) : Nat :=
  let q := num / den
  let twice := 2 * (num % den)
  if twice < den then q
  else if den < twice then q + 1
  else if q % 2 = 0 then q else q + 1

/-- A quotient divided by a power of two, as a quotient. -/
def scaled (num den : Nat) (exponent : Int) : Nat × Nat :=
  (num * Nat.pow 2 (-exponent).toNat, den * Nat.pow 2 exponent.toNat)

/-- The value nearest to a quotient with a positive denominator. -/
def round? (num den : Nat) : Option Binary64 :=
  if num = 0 then some zero
  else
    let estimate : Int := (num.log2 : Int) - (den.log2 : Int) - 53
    let (n, d) := scaled num den estimate
    let exponent := max leastExponent (if n / d < Nat.pow 2 53 then estimate else estimate + 1)
    let (n, d) := scaled num den exponent
    let significand := divideToEven n d
    let value : Binary64 :=
      if significand = Nat.pow 2 53 then ⟨Nat.pow 2 52, exponent + 1⟩ else ⟨significand, exponent⟩
    if value.exponent ≤ greatestExponent then some value else none

/-- The exact value as a quotient. -/
def quotient (x : Binary64) : Nat × Nat :=
  (x.significand * Nat.pow 2 x.exponent.toNat, Nat.pow 2 (-x.exponent).toNat)

def ofNat? (n : Nat) : Option Binary64 := round? n 1

def mul? (x y : Binary64) : Option Binary64 :=
  round? (x.quotient.1 * y.quotient.1) (x.quotient.2 * y.quotient.2)

/-- The quotient of two values, the second of them not zero. -/
def div? (x y : Binary64) : Option Binary64 :=
  round? (x.quotient.1 * y.quotient.2) (x.quotient.2 * y.quotient.1)

/-- The value nearest to `coefficient * 10 ^ power`. -/
def ofDecimal? (coefficient : Nat) (power : Int) : Option Binary64 :=
  round? (coefficient * Nat.pow 10 power.toNat) (Nat.pow 10 (-power).toNat)

end Binary64

end MaskedInput
