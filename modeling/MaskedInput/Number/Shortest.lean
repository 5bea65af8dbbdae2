import MaskedInput.Number.Binary64

/-! Decimal text of binary numbers: the fewest digits that read back as the same value, and of those
the nearest to it. -/

namespace MaskedInput

/-- `coefficient * 10 ^ power`. -/
structure Decimal where
  coefficient : Nat
  power : Int
  deriving Repr, DecidableEq

namespace Decimal

/-- Whether `a / b ≤ c / d`. -/
def quotientLe (a b : Nat × Nat) : Bool := a.1 * b.2 ≤ b.1 * a.2

def quotientLt (a b : Nat × Nat) : Bool := a.1 * b.2 < b.1 * a.2

def quotient (x : Decimal) : Nat × Nat :=
  (x.coefficient * Nat.pow 10 x.power.toNat, Nat.pow 10 (-x.power).toNat)

/-- The greatest multiple of `10 ^ power` up to a quotient. -/
def below (q : Nat × Nat) (power : Int) : Decimal :=
  ⟨q.1 * Nat.pow 10 (-power).toNat / (q.2 * Nat.pow 10 power.toNat), power⟩

/-- The exponent of the leading digit of a positive quotient, which is at least `10 ^ -400`. -/
def leadingPower (q : Nat × Nat) : Int :=
  if q.2 ≤ q.1 then ((Nat.toDigits 10 (q.1 / q.2)).length : Int) - 1
  else -(((List.range 400).find? fun k => q.2 ≤ q.1 * Nat.pow 10 k).getD 400 : Nat)

/-- Without zeros at the end of the coefficient. -/
def trimmed (x : Decimal) : Decimal :=
  let digits := Nat.toDigits 10 x.coefficient
  let zeros := (digits.reverse.takeWhile (· = '0')).length
  if x.coefficient = 0 then x else ⟨x.coefficient / Nat.pow 10 zeros, x.power + zeros⟩

end Decimal

/-- Which of two neighbours is the nearer to a value in the middle between them. -/
inductive Tie where
  | toEven
  | up
  deriving Repr, DecidableEq

def Tie.isDown (tie : Tie) (low : Nat) : Bool :=
  match tie with
  | .toEven => low % 2 = 0
  | .up => false

namespace Binary64

/-- Whether a quotient reads as a positive value: it lies between the middles to the neighbours, and
may be one of these when the significand is even. -/
def isReadFrom (x : Binary64) (q : Nat × Nat) : Bool :=
  let step : Nat := if x.significand = Nat.pow 2 52 ∧ leastExponent < x.exponent then 1 else 2
  let low := quotient ⟨4 * x.significand - step, x.exponent⟩
  let high := quotient ⟨4 * x.significand + 2, x.exponent⟩
  let q := (4 * q.1, q.2)
  if x.significand % 2 = 0 then Decimal.quotientLe low q && Decimal.quotientLe q high
  else Decimal.quotientLt low q && Decimal.quotientLt q high

/-- Of the two neighbours of a value on the grid of `10 ^ power`, the nearer that reads back. -/
def neighbour? (x : Binary64) (tie : Tie) (power : Int) : Option Decimal :=
  let low := Decimal.below x.quotient power
  let high : Decimal := ⟨low.coefficient + 1, power⟩
  let (n, d) := x.quotient
  let middle := Decimal.quotient ⟨2 * low.coefficient + 1, power⟩
  let lowFirst := Decimal.quotientLt (2 * n, d) middle
    || (!Decimal.quotientLt middle (2 * n, d) && tie.isDown low.coefficient)
  (if lowFirst then [low, high] else [high, low]).find? fun c =>
    c.coefficient ≠ 0 && x.isReadFrom c.quotient

/-- The shortest decimal that reads back as a positive value. Seventeen digits always do. -/
def shortest (x : Binary64) (tie : Tie) : Decimal :=
  let lead := Decimal.leadingPower x.quotient
  let found := (List.range 17).findSome? fun (digits : Nat) => x.neighbour? tie (lead - digits)
  (found.getD (Decimal.below x.quotient (lead - 16))).trimmed

end Binary64

/-- How a number with a fraction is written: which exponents of the leading digit are written out in
places, all others being written with an exponent, and which way a tie goes. -/
structure FractionStyle where
  inPlaces : Int → Bool
  tie : Tie

namespace FractionStyle

def zeros (n : Int) : List Char := List.replicate n.toNat '0'

/-- Written out in places, with at least one on each side of the point. -/
def places (digits : List Char) (lead : Int) : List Char :=
  if lead < 0 then ['0', '.'] ++ zeros (-lead - 1) ++ digits
  else
    let whole := (lead + 1).toNat
    if digits.length ≤ whole then digits ++ zeros (whole - digits.length) ++ ['.', '0']
    else digits.take whole ++ '.' :: digits.drop whole

/-- Written with an exponent, which has a sign. -/
def scientific (digits : List Char) (lead : Int) : List Char :=
  let fraction := digits.drop 1
  digits.take 1 ++ (if fraction.isEmpty then [] else '.' :: fraction)
    ++ ['e', if lead < 0 then '-' else '+'] ++ Nat.toDigits 10 lead.natAbs

def write (style : FractionStyle) (negative : Bool) (x : Binary64) : String :=
  let sign := if negative then ['-'] else []
  if x.isZero then String.ofList (sign ++ ['0', '.', '0'])
  else
    let d := x.shortest style.tie
    let digits := Nat.toDigits 10 d.coefficient
    let lead := d.power + digits.length - 1
    let written := if style.inPlaces lead then places digits lead else scientific digits lead
    String.ofList (sign ++ written)

end FractionStyle

end MaskedInput
