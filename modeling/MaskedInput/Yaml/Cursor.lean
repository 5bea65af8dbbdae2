import MaskedInput.Yaml.Fault

/-! A place in a YAML text, and the classes of characters that its notation rests on. -/

namespace MaskedInput.Yaml

/-- A place with its line and column, from zero and in characters, and its offset in octets. -/
structure Position where
  offset : Nat
  line : Nat
  column : Nat
  deriving Repr, DecidableEq

def Position.mark (p : Position) : Mark := ⟨p.line + 1, p.column + 1⟩

def isBlank (c : Char) : Bool := c = ' ' || c = '\t'

def isBreak (c : Char) : Bool :=
  c = '\r' || c = '\n' || c = '\u0085' || c = '\u2028' || c = '\u2029'

/-- Letters, digits and the two marks that names consist of. -/
def isNameChar (c : Char) : Bool := c.isAlphanum || c = '_' || c = '-'

/-- Characters that may stand in a text at all. -/
def isAllowed (c : Char) : Bool :=
  let n := c.toNat
  c = '\t' || c = '\n' || c = '\r' || (0x20 ≤ n && n ≤ 0x7E) || n = 0x85
    || (0xA0 ≤ n && n ≤ 0xD7FF) || (0xE000 ≤ n && n ≤ 0xFFFD) || 0x10000 ≤ n

structure Cursor where
  rest : Text
  position : Position
  /-- Whether the text goes on behind `rest` with what may not stand in it. -/
  cut : Bool
  deriving Repr, DecidableEq

namespace Cursor

def start (t : Text) (cut : Bool) : Cursor := ⟨t, ⟨0, 0, 0⟩, cut⟩

/-- Whether nothing is left before what may not stand in the text. -/
def isAtCut (c : Cursor) : Bool := c.cut && c.rest.isEmpty

def next? (c : Cursor) : Option Char := c.rest.head?

def at? (c : Cursor) (n : Nat) : Option Char := c.rest[n]?

/-- Whether the character some way ahead is there and has a property. -/
def isAt (c : Cursor) (n : Nat) (p : Char → Bool) : Bool := (c.at? n).any p

def nextIs (c : Cursor) (p : Char → Bool) : Bool := c.next?.any p

def nextIsChar (c : Cursor) (x : Char) : Bool := c.nextIs (· = x)

/-- Whether a line ends some way ahead, by a break or by the end of the text. -/
def isLineEndAt (c : Cursor) (n : Nat) : Bool := (c.at? n).all isBreak

/-- Whether a blank, a break or the end of the text is some way ahead. -/
def isSpaceAt (c : Cursor) (n : Nat) : Bool := (c.at? n).all fun x => isBlank x || isBreak x

/-- Steps over one character of a line. -/
def skip (c : Cursor) : Cursor :=
  match c.rest with
  | [] => c
  | x :: rest =>
    let p := c.position
    { c with rest, position := ⟨p.offset + x.utf8Size, p.line, p.column + 1⟩ }

def skipMany (c : Cursor) : Nat → Cursor
  | 0 => c
  | n + 1 => c.skip.skipMany n

/-- Steps over all characters that have a property, none of them a break. -/
def skipWhile (c : Cursor) (p : Char → Bool) : Cursor :=
  c.skipMany (c.rest.takeWhile p).length

def takeWhile (c : Cursor) (p : Char → Bool) : List Char × Cursor :=
  (c.rest.takeWhile p, c.skipWhile p)

/-- Steps over a line break and gives the break that it stands for. -/
def readLine (c : Cursor) : List Char × Cursor :=
  let after (size : Nat) (rest : Text) : Cursor :=
    { c with rest, position := ⟨c.position.offset + size, c.position.line + 1, 0⟩ }
  match c.rest with
  | '\r' :: '\n' :: rest => (['\n'], after 2 rest)
  | x :: rest => (if x = '\u2028' ∨ x = '\u2029' then [x] else ['\n'], after x.utf8Size rest)
  | [] => ([], c)

def skipLine (c : Cursor) : Cursor := c.readLine.2

def skipBlanks (c : Cursor) : Cursor := c.skipWhile isBlank

/-- Steps over a comment, if one starts here, up to the end of its line. -/
def skipComment (c : Cursor) : Cursor :=
  if c.nextIsChar '#' then c.skipWhile (!isBreak ·) else c

/-- Whether three equal signs that bound a document stand at the start of a line. -/
def isDocumentSign (c : Cursor) (sign : Char) : Bool :=
  c.position.column = 0 && c.isAt 0 (· = sign) && c.isAt 1 (· = sign) && c.isAt 2 (· = sign)
    && c.isSpaceAt 3

def isDocumentBound (c : Cursor) : Bool := c.isDocumentSign '-' || c.isDocumentSign '.'

/-- Blanks, a comment and the end of the line, after which nothing else may stand. -/
def finishLine (c : Cursor) : Except Fault Cursor :=
  let c := c.skipBlanks.skipComment
  if !c.isLineEndAt 0 then .error .token
  else .ok (if c.rest.isEmpty then c else c.skipLine)

end Cursor

end MaskedInput.Yaml
