import MaskedInput.Document.Node
import MaskedInput.Json.Number
import MaskedInput.Text.Quoted

/-! The tokens of JSON. Where a token is out of place only its first byte counts, so every token
comes with the mark of that; a token that cannot be read is a fault where a value is wanted. -/

namespace MaskedInput.Json

open Document (Scalar)

inductive Token where
  | openBrace
  | closeBrace
  | openBracket
  | closeBracket
  | comma
  | colon
  | text (value : String)
  | word (scalar : Scalar)
  | fault (fault : Fault)
  | endOfText
  deriving Repr, DecidableEq

/-- A token, the cursor before it and the cursor after it. -/
structure Lexeme where
  token : Token
  before : Cursor
  after : Cursor
  deriving Repr, DecidableEq

/-! ### Scalars -/

def null : Scalar := ⟨none, none, .absent, false, .kind "null"⟩

def boolean (b : Bool) : Scalar :=
  ⟨none, some b, .present, false, .kind (if b then "boolean `true`" else "boolean `false`")⟩

def number (n : Number) : Scalar := ⟨none, none, .present, false, .kind n.shown⟩

def textScalar (t : String) : Scalar :=
  ⟨some t, none, .present, false, .kind ("string " ++ Quoted.quote t.toList)⟩

/-! ### Strings -/

def hexDigit? (c : Char) : Option Nat :=
  if '0' ≤ c ∧ c ≤ '9' then some (c.toNat - '0'.toNat)
  else if 'a' ≤ c ∧ c ≤ 'f' then some (c.toNat - 'a'.toNat + 10)
  else if 'A' ≤ c ∧ c ≤ 'F' then some (c.toNat - 'A'.toNat + 10)
  else none

/-- Four hexadecimal digits. -/
def hexWord (c : Cursor) : Except Fault (Nat × Cursor) :=
  match c.bytes? 4 with
  | none => .error ⟨.endInString, c.endMark⟩
  | some after =>
    match c.rest with
    | w :: x :: y :: z :: rest =>
      match hexDigit? w, hexDigit? x, hexDigit? y, hexDigit? z with
      | some w, some x, some y, some z =>
        .ok (((w * 16 + x) * 16 + y) * 16 + z, ⟨rest, after⟩)
      | _, _, _, _ => .error ⟨.invalidEscape, after⟩
    | _ => .error ⟨.invalidEscape, after⟩

/-- The character that has to come next in the second half of a pair. -/
def expectPaired (wanted : Char) (c : Cursor) : Except Fault Cursor :=
  match c.rest with
  | [] => .error ⟨.endInString, c.mark⟩
  | x :: _ => if x = wanted then .ok c.advance else .error ⟨.endOfHexEscape, firstByte c.mark x⟩

/-- The character of a `\u` escape, from after the `u`. One beyond the first plane takes two. -/
def unicodeEscape (c : Cursor) : Except Fault (Char × Cursor) := do
  let (high, c) ← hexWord c
  if 0xDC00 ≤ high ∧ high ≤ 0xDFFF then .error ⟨.loneSurrogate, c.mark⟩
  else if 0xD800 ≤ high ∧ high ≤ 0xDBFF then
    let (low, c) ← hexWord (← expectPaired 'u' (← expectPaired '\\' c))
    if 0xDC00 ≤ low ∧ low ≤ 0xDFFF then
      .ok (Char.ofNat ((high - 0xD800) * 0x400 + (low - 0xDC00) + 0x10000), c)
    else .error ⟨.loneSurrogate, c.mark⟩
  else .ok (Char.ofNat high, c)

/-- The character of an escape, from after the backslash. -/
def escape (c : Cursor) : Except Fault (Char × Cursor) :=
  match c.rest with
  | [] => .error ⟨.endInString, c.mark⟩
  | x :: _ =>
    match x with
    | '"' | '\\' | '/' => .ok (x, c.advance)
    | 'b' => .ok ('\x08', c.advance)
    | 'f' => .ok ('\x0c', c.advance)
    | 'n' => .ok ('\n', c.advance)
    | 'r' => .ok ('\r', c.advance)
    | 't' => .ok ('\t', c.advance)
    | 'u' => unicodeEscape c.advance
    | _ => .error ⟨.invalidEscape, firstByte c.mark x⟩

/-- A string from after its opening quote; `fuel` bounds its characters. -/
def stringFrom (fuel : Nat) (read : List Char) (c : Cursor) : Except Fault (String × Cursor) :=
  match fuel, c.rest with
  | 0, _ | _, [] => .error ⟨.endInString, c.mark⟩
  | fuel + 1, x :: _ =>
    if x = '"' then .ok (String.ofList read.reverse, c.advance)
    else if x = '\\' then
      match escape c.advance with
      | .ok (y, c) => stringFrom fuel (y :: read) c
      | .error f => .error f
    else if x.toNat < 0x20 then .error ⟨.controlCharacter, firstByte c.mark x⟩
    else stringFrom fuel (x :: read) c.advance

/-! ### Tokens -/

/-- The rest of a word of which the first letter was seen. -/
def word (scalar : Scalar) (letters : List Char) (c : Cursor) : Token × Cursor :=
  match letters with
  | [] => (.word scalar, c)
  | l :: letters =>
    match c.rest with
    | [] => (.fault ⟨.endInValue, c.mark⟩, c)
    | x :: _ =>
      if x = l then word scalar letters c.advance
      else (.fault ⟨.identExpected, firstByte c.mark x⟩, c)

def tokenAt (c : Cursor) : Token × Cursor :=
  match c.rest with
  | [] => (.endOfText, c)
  | x :: rest =>
    match x with
    | '\x7b' => (.openBrace, c.advance)
    | '\x7d' => (.closeBrace, c.advance)
    | '[' => (.openBracket, c.advance)
    | ']' => (.closeBracket, c.advance)
    | ',' => (.comma, c.advance)
    | ':' => (.colon, c.advance)
    | 'n' => word null ['u', 'l', 'l'] c.advance
    | 't' => word (boolean true) ['r', 'u', 'e'] c.advance
    | 'f' => word (boolean false) ['a', 'l', 's', 'e'] c.advance
    | '"' =>
      match stringFrom (rest.length + 1) [] c.advance with
      | .ok (t, c) => (.text t, c)
      | .error f => (.fault f, c)
    | x =>
      if x = '-' ∨ x.isDigit then
        match Number.scan c with
        | .ok (n, c) => (.word (number n), c)
        | .error f => (.fault f, c)
      else (.fault ⟨.valueExpected, c.peek⟩, c)

/-- The token that comes next, behind blanks. -/
def Cursor.lexeme (c : Cursor) : Lexeme :=
  let c := c.skipBlanks
  let (token, after) := tokenAt c
  ⟨token, c, after⟩

end MaskedInput.Json
