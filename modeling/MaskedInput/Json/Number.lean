import MaskedInput.Json.Cursor
import MaskedInput.Number.Shortest

/-! Numbers of JSON. An integer is kept while it fits into 64 bits. Any other number is a binary one
of 64 bits, taken as the digits that fit into 64 bits, rounded, and then scaled by powers of ten
that are themselves rounded, so that it is not always the nearest to what is written. -/

namespace MaskedInput.Json

inductive Number where
  | integer (value : Int)
  | fraction (negative : Bool) (magnitude : Binary64)
  deriving Repr, DecidableEq

namespace Number

/-- Written out in places for leading exponents from -5 to 15; a tie goes to the even neighbour. -/
def style : FractionStyle := ⟨fun lead => -5 ≤ lead && lead ≤ 15, .toEven⟩

def shown : Number → String
  | .integer n => s!"integer `{n}`"
  | .fraction negative x => s!"floating point `{style.write negative x}`"

abbrev Scan (α : Type) := Except Fault (α × Cursor)

def greatestWord : Nat := UInt64.size - 1

def greatestExponent : Nat := Nat.pow 2 31 - 1

def powerOfTen? (n : Nat) : Option Binary64 :=
  if n ≤ 308 then Binary64.ofNat? (Nat.pow 10 n) else none

/-- A magnitude times a power of ten; a magnitude that vanishes stays zero at any exponent. -/
def scale? (x : Binary64) (exponent : Int) : Option Binary64 := go 4 x exponent
where
  go : Nat → Binary64 → Int → Option Binary64
    | 0, _, _ => some .zero
    | fuel + 1, x, e =>
      match powerOfTen? e.natAbs with
      | some p => if 0 ≤ e then x.mul? p else x.div? p
      | none =>
        if x.isZero then some x
        else if 0 ≤ e then none
        else
          match powerOfTen? 308 with
          | some p => (x.div? p).bind fun x => go fuel x (e + 308)
          | none => none

def ofParts (negative : Bool) (significand : Nat) (exponent : Int) (c : Cursor) : Scan Number :=
  match (Binary64.ofNat? significand).bind (scale? · exponent) with
  | some x => .ok (.fraction negative x, c)
  | none => .error ⟨.numberOutOfRange, c.mark⟩

/-- The value of the leading digits that fit under a bound, and how many these are. -/
def fitting (bound : Nat) : Nat → List Char → Nat × Nat
  | value, [] => (value, 0)
  | value, d :: ds =>
    let next := value * 10 + (d.toNat - '0'.toNat)
    if bound < next then (value, 0)
    else
      let (value, count) := fitting bound next ds
      (value, count + 1)

/-- The exponent, from after its letter. -/
def exponentPart (negative : Bool) (significand : Nat) (exponent : Int) (c : Cursor) :
    Scan Number :=
  let (down, c) := match c.rest with
    | '+' :: _ => (false, c.advance)
    | '-' :: _ => (true, c.advance)
    | _ => (false, c)
  match c.rest with
  | [] => .error ⟨.endInValue, c.mark⟩
  | x :: _ =>
    if !x.isDigit then .error ⟨.invalidNumber, firstByte c.mark x⟩
    else
      let (ds, after) := c.digits
      let (value, count) := fitting greatestExponent 0 ds
      if count = ds.length then
        ofParts negative significand (if down then exponent - value else exponent + value) after
      else if significand ≠ 0 ∧ !down then
        .error ⟨.numberOutOfRange, ⟨c.mark.line, c.mark.column + count + 1⟩⟩
      else .ok (.fraction negative .zero, after)

/-- What follows the digits of a number with a fraction. -/
def afterDigits (negative : Bool) (significand : Nat) (exponent : Int) (c : Cursor) : Scan Number :=
  match c.rest with
  | x :: _ =>
    if x = 'e' ∨ x = 'E' then exponentPart negative significand exponent c.advance
    else ofParts negative significand exponent c
  | [] => ofParts negative significand exponent c

/-- The digits behind the point; those that do not fit any more are dropped. -/
def fractionPart (negative : Bool) (significand : Nat) (exponent : Int) (c : Cursor) :
    Scan Number :=
  let (ds, after) := c.digits
  if ds.isEmpty then
    .error ⟨if c.rest.isEmpty then .endInValue else .invalidNumber, c.peek⟩
  else
    let (significand, count) := fitting greatestWord significand ds
    afterDigits negative significand (exponent - count) after

/-- What follows the digits before a point: a fraction, an exponent, or the end of an integer. -/
def afterWhole (negative : Bool) (significand : Nat) (dropped : Nat) (c : Cursor) : Scan Number :=
  match c.rest with
  | '.' :: _ => fractionPart negative significand dropped c.advance
  | 'e' :: _ | 'E' :: _ => exponentPart negative significand dropped c.advance
  | _ =>
    if dropped ≠ 0 then ofParts negative significand dropped c
    else if !negative then .ok (.integer significand, c)
    else if significand = 0 ∨ Nat.pow 2 63 < significand then ofParts true significand 0 c
    else .ok (.integer (-significand), c)

/-- The number from after its sign. -/
def unsigned (negative : Bool) (c : Cursor) : Scan Number :=
  match c.rest with
  | [] => .error ⟨.endInValue, c.mark⟩
  | '0' :: rest =>
    match rest with
    | d :: _ => if d.isDigit then .error ⟨.invalidNumber, c.advance.peek⟩
      else afterWhole negative 0 0 c.advance
    | [] => afterWhole negative 0 0 c.advance
  | x :: _ =>
    if x.isDigit then
      let (ds, after) := c.digits
      let (significand, count) := fitting greatestWord 0 ds
      afterWhole negative significand (ds.length - count) after
    else .error ⟨.invalidNumber, firstByte c.mark x⟩

def scan (c : Cursor) : Scan Number :=
  match c.rest with
  | '-' :: _ => unsigned true c.advance
  | _ => unsigned false c

end Number

end MaskedInput.Json
