import MaskedInput.Json.Fault

/-! A place in a JSON text: what is left of it and the mark of what was read. -/

namespace MaskedInput.Json

/-- The mark after the first byte of a character. -/
def firstByte (m : Mark) (c : Char) : Mark :=
  if c = '\n' then ⟨m.line + 1, 0⟩ else ⟨m.line, m.column + 1⟩

/-- The mark after a whole character. -/
def wholeChar (m : Mark) (c : Char) : Mark :=
  if c = '\n' then ⟨m.line + 1, 0⟩ else ⟨m.line, m.column + c.utf8Size⟩

structure Cursor where
  rest : Text
  mark : Mark
  deriving Repr, DecidableEq

namespace Cursor

def start (t : Text) : Cursor := ⟨t, ⟨1, 0⟩⟩

/-- The mark of the byte that comes next, or of the end. -/
def peek (c : Cursor) : Mark :=
  match c.rest with
  | [] => c.mark
  | x :: _ => firstByte c.mark x

def advance (c : Cursor) : Cursor :=
  match c.rest with
  | [] => c
  | x :: rest => ⟨rest, wholeChar c.mark x⟩

/-- The mark after some bytes, if there are so many. -/
def bytes? (c : Cursor) (count : Nat) : Option Mark := go c.mark count c.rest
where
  go (m : Mark) : Nat → Text → Option Mark
    | 0, _ => some m
    | _, [] => none
    | n, x :: rest =>
      if x.utf8Size ≤ n then go (wholeChar m x) (n - x.utf8Size) rest
      else some ⟨m.line, m.column + n⟩

/-- The mark of the end of the text. -/
def endMark (c : Cursor) : Mark := c.rest.foldl wholeChar c.mark

def isBlank (c : Char) : Bool := c = ' ' || c = '\t' || c = '\n' || c = '\r'

def skipBlanks (c : Cursor) : Cursor :=
  ⟨c.rest.dropWhile isBlank, (c.rest.takeWhile isBlank).foldl wholeChar c.mark⟩

/-- Reads all digits that follow. -/
def digits (c : Cursor) : List Char × Cursor :=
  let ds := c.rest.takeWhile Char.isDigit
  (ds, ⟨c.rest.dropWhile Char.isDigit, ⟨c.mark.line, c.mark.column + ds.length⟩⟩)

end Cursor

end MaskedInput.Json
