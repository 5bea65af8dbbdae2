import MaskedInput.Document.Node
import MaskedInput.Number.Shortest
import MaskedInput.Text.Quoted
import MaskedInput.Yaml.Token

/-! What a scalar of YAML can stand for. Its text is its own where a text is wanted. Apart from that
a plain scalar means what it looks like, or what its tag says. -/

namespace MaskedInput.Yaml

open Document (Finding Presence Scalar)

/-- The tags of the types that every text may use. -/
def coreTag (name : String) : String := "tag:yaml.org,2002:" ++ name

def isNull (t : String) : Bool := t = "~" || t = "null" || t = "Null" || t = "NULL"

def boolean? (t : String) : Option Bool :=
  if t = "true" ∨ t = "True" ∨ t = "TRUE" then some true
  else if t = "false" ∨ t = "False" ∨ t = "FALSE" then some false
  else none

/-! ### Integers -/

def digitValue (c : Char) : Nat :=
  if c.isDigit then c.toNat - '0'.toNat
  else if 'a' ≤ c ∧ c ≤ 'z' then c.toNat - 'a'.toNat + 10
  else if 'A' ≤ c ∧ c ≤ 'Z' then c.toNat - 'A'.toNat + 10
  else 36

/-- A number in a base, from at least one digit. -/
def natural? (base : Nat) (ds : List Char) : Option Nat :=
  if ds.isEmpty then none
  else ds.foldlM (fun n d => if digitValue d < base then some (n * base + digitValue d) else none) 0

/-- What follows the sign of a base, with that base. -/
def based? : List Char → Option (Nat × List Char)
  | '0' :: 'x' :: rest => some (16, rest)
  | '0' :: 'o' :: rest => some (8, rest)
  | '0' :: 'b' :: rest => some (2, rest)
  | _ => none

def unsigned : List Char → List Char
  | '+' :: rest => rest
  | '-' :: rest => rest
  | t => t

/-- Several digits of which the first is zero are no number. -/
def isPadded (t : List Char) : Bool :=
  match unsigned t with
  | '0' :: d :: rest => d.isDigit && rest.all Char.isDigit
  | _ => false

/-- An integer that is not negative, up to a bound. -/
def nonNegative? (bound : Nat) (t : List Char) : Option Nat :=
  let t' := match t with
    | '+' :: rest => rest
    | t => t
  let bounded (n : Option Nat) : Option Nat := n.filter (· ≤ bound)
  match (based? t').bind fun (base, ds) => bounded (natural? base ds) with
  | some n => some n
  | none => if isPadded t then none else bounded (natural? 10 t')

/-- An integer with a minus sign, down to a bound. -/
def negative? (bound : Nat) : List Char → Option Nat
  | '-' :: t =>
    let bounded (n : Option Nat) : Option Nat := n.filter (· ≤ bound)
    match (based? t).bind fun (base, ds) => bounded (natural? base ds) with
    | some n => some n
    | none => if isPadded t then none else bounded (natural? 10 t)
  | _ => none

/-- How an integer is called. One beyond 64 bits is called by its width as well. -/
def integer? (t : List Char) : Option String :=
  let shown (sign : String) (width : String) (n : Nat) : String :=
    "integer `" ++ (if n = 0 then "" else sign) ++ toString n ++ "`" ++ width
  ((nonNegative? (Nat.pow 2 64 - 1) t).map (shown "" ""))
    <|> ((negative? (Nat.pow 2 63) t).map (shown "-" ""))
    <|> ((nonNegative? (Nat.pow 2 128 - 1) t).map (shown "" " as u128"))
    <|> ((negative? (Nat.pow 2 127) t).map (shown "-" " as i128"))

/-! ### Numbers with a fraction -/

/-- Written out in places always; a tie goes up. -/
def fractionStyle : FractionStyle := ⟨fun _ => true, .up⟩

/-- The exponent behind a mantissa. -/
def exponent? : List Char → Option Int
  | [] => some 0
  | e :: t =>
    if e = 'e' ∨ e = 'E' then
      (natural? 10 (unsigned t)).map fun n => if t.head? = some '-' then -(n : Int) else n
    else none

/-- A decimal mantissa with an optional exponent, as coefficient and power of ten. -/
def decimal? (t : List Char) : Option (Nat × Int) :=
  let whole := t.takeWhile Char.isDigit
  let rest := t.dropWhile Char.isDigit
  let (places, rest) := match rest with
    | '.' :: rest => (rest.takeWhile Char.isDigit, rest.dropWhile Char.isDigit)
    | rest => ([], rest)
  match natural? 10 (whole ++ places), exponent? rest with
  | some n, some e => some (n, e - places.length)
  | _, _ => none

/-- The number nearest to a decimal; one far out of range is not finite, or vanishes. -/
def nearest? (coefficient : Nat) (power : Int) : Option Binary64 :=
  let size := (Nat.toDigits 10 coefficient).length
  if coefficient = 0 ∨ power + size < -400 then some .zero
  else if 400 < power + size then none
  else Binary64.ofDecimal? coefficient power

def isInfinity (t : List Char) : Bool :=
  [".inf", ".Inf", ".INF"].any (·.toList = t)

/-- How a number with a fraction is called. -/
def fraction? (t : List Char) : Option String :=
  let plus := match t with
    | '+' :: rest => rest
    | t => t
  let called (text : String) : String := "floating point `" ++ text ++ "`"
  if t.head? = some '+' ∧ (plus.head? = some '+' ∨ plus.head? = some '-') then none
  else if isInfinity plus then some (called "inf")
  else if t.head? = some '-' ∧ isInfinity (t.drop 1) then some (called "-inf")
  else if [".nan", ".NaN", ".NAN"].any (·.toList = t) then some (called "NaN")
  else
    let negative := plus.head? = some '-'
    match (decimal? (unsigned plus)).bind fun (n, e) => nearest? n e with
    | some x => some (called (fractionStyle.write negative x))
    | none => none

/-! ### Scalars -/

def textFinding (t : String) : String := "string " ++ Quoted.quote t.toList

def booleanFinding (b : Bool) : String := if b then "boolean `true`" else "boolean `false`"

/-- How a plain scalar without a tag is called. -/
def plainFinding (t : String) : String :=
  if t.isEmpty || isNull t then "unit value"
  else
    match boolean? t, integer? t.toList with
    | some b, _ => booleanFinding b
    | none, some n => n
    | none, none =>
      if isPadded t.toList then textFinding t else (fraction? t.toList).getD (textFinding t)

/-- How a scalar with a tag is called. -/
def taggedFinding (t : String) (style : ScalarStyle) (tag : String) : Finding :=
  let suited (found : Option String) (wanted : String) : Finding :=
    match found with
    | some shown => .kind shown
    | none => .mistagged (textFinding t) wanted
  if tag = coreTag "bool" then suited ((boolean? t).map booleanFinding) "a boolean"
  else if tag = coreTag "int" then suited (integer? t.toList) "an integer"
  else if tag = coreTag "float" then suited (fraction? t.toList) "a float"
  else if tag = coreTag "null" then suited (if isNull t then some "unit value" else none) "null"
  else if tag.toList.head? = some '!' && style = .plain then .kind (plainFinding t)
  else .kind (textFinding t)

def finding (t : String) (style : ScalarStyle) : Option String → Finding
  | some tag => taggedFinding t style tag
  | none => .kind (if style = .plain then plainFinding t else textFinding t)

/-- Only a plain scalar can say that there is no value. -/
def presence (t : String) (style : ScalarStyle) (tag : Option String) : Presence :=
  if style ≠ .plain then .present
  else
    match tag with
    | some tag =>
      if tag ≠ coreTag "null" then .present
      else if isNull t then .absent
      else .mistagged (textFinding t) "null"
    | none => if t.isEmpty || isNull t then .absent else .present

def scalar (t : String) (style : ScalarStyle) (tag : Option String) : Scalar where
  text? := some t
  flag? :=
    if style = .plain || (style = .literal && tag = some (coreTag "bool")) then boolean? t else none
  presence := presence t style tag
  isBlank := t.isEmpty && style = .plain
  finding := finding t style tag

end MaskedInput.Yaml
