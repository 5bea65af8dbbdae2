import MaskedInput.Json.Token

/-! The tree of a JSON text. Complaints about a value point behind a scalar and to the byte before a
collection; those about a key point behind it, the blanks after it, and a brace that closes its
object. -/

namespace MaskedInput.Json

open Document

abbrev Node := Document.Node Fault

namespace Lexeme

/-- A fault at the first byte of the token. -/
def faultAt (l : Lexeme) (cause : Cause) : Fault := ⟨cause, l.before.peek⟩

end Lexeme

/-- The place of a complaint about a key that ends at a cursor. -/
def keyMark (after : Cursor) : Mark :=
  let l := after.lexeme
  match l.token with
  | .closeBrace => l.after.mark
  | _ => l.before.mark

mutual

/-- The value that starts with a token. -/
def value (fuel : Nat) (l : Lexeme) : Node × Cursor :=
  match fuel with
  | 0 => (.fault (l.faultAt .valueExpected), l.after)
  | fuel + 1 =>
    match l.token with
    | .openBracket =>
      let (items, c) := items fuel true l.after
      (.sequence items l.before.mark, c)
    | .openBrace =>
      let (members, c) := members fuel true l.after
      (.mapping members l.before.mark, c)
    | .text t => (.scalar (textScalar t) l.after.mark, l.after)
    | .word s => (.scalar s l.after.mark, l.after)
    | .fault f => (.fault f, l.after)
    | .endOfText => (.fault (l.faultAt .endInValue), l.after)
    | .closeBrace | .closeBracket | .comma | .colon =>
      (.fault (l.faultAt .valueExpected), l.after)

/-- The rest of an array; `first` says that nothing stands between the bracket and the cursor. -/
def items (fuel : Nat) (first : Bool) (c : Cursor) : Items Fault × Cursor :=
  match fuel with
  | 0 => (.cut ⟨.endInList, c.mark⟩ ⟨.endInList, c.mark⟩, c)
  | fuel + 1 =>
    let l := c.lexeme
    match l.token with
    | .closeBracket => (.close l.after.mark, l.after)
    | .endOfText => (.cut (l.faultAt .endInList) (l.faultAt .endInList), l.after)
    | token =>
      if first then item fuel l
      else if token = .comma then
        let next := l.after.lexeme
        match next.token with
        | .closeBracket =>
          (.cut (next.faultAt .trailingComma) (next.faultAt .trailingComma), l.after)
        | .endOfText =>
          (.cut (next.faultAt .endInValue) (next.faultAt .trailingCharacters), l.after)
        | _ => item fuel next
      else (.cut (l.faultAt .commaOrBracketExpected) (l.faultAt .trailingCharacters), l.after)

/-- An element that starts with a token, and what follows it. -/
def item (fuel : Nat) (l : Lexeme) : Items Fault × Cursor :=
  match fuel with
  | 0 => (.cut (l.faultAt .endInList) (l.faultAt .endInList), l.after)
  | fuel + 1 =>
    let (node, c) := value fuel l
    let (rest, c) := items fuel false c
    (.item (l.faultAt .trailingCharacters) node rest, c)

/-- The rest of an object. -/
def members (fuel : Nat) (first : Bool) (c : Cursor) : Members Fault × Cursor :=
  match fuel with
  | 0 => (.cut ⟨.endInObject, c.mark⟩, c)
  | fuel + 1 =>
    let l := c.lexeme
    match l.token with
    | .closeBrace => (.close l.after.mark, l.after)
    | .endOfText => (.cut (l.faultAt .endInObject), l.after)
    | token =>
      if first then member fuel l
      else if token = .comma then
        let next := l.after.lexeme
        match next.token with
        | .closeBrace => (.cut (next.faultAt .trailingComma), l.after)
        | .endOfText => (.cut (next.faultAt .endInValue), l.after)
        | _ => member fuel next
      else (.cut (l.faultAt .commaOrBraceExpected), l.after)

/-- A member whose key starts with a token, and what follows it. -/
def member (fuel : Nat) (l : Lexeme) : Members Fault × Cursor :=
  match fuel with
  | 0 => (.cut (l.faultAt .endInObject), l.after)
  | fuel + 1 =>
    match l.token with
    | .text key =>
      let (value, c) := memberValue fuel l.after
      let (rest, c) := members fuel false c
      let mark := keyMark l.after
      (.member (.scalar (textScalar key) mark) mark value rest, c)
    | .fault f =>
      if l.before.rest.head? = some '"' then (.cut f, l.after)
      else (.cut (l.faultAt .keyExpected), l.after)
    | _ => (.cut (l.faultAt .keyExpected), l.after)

/-- The value of a member, behind its colon. -/
def memberValue (fuel : Nat) (c : Cursor) : Node × Cursor :=
  match fuel with
  | 0 => (.fault ⟨.endInObject, c.mark⟩, c)
  | fuel + 1 =>
    let l := c.lexeme
    match l.token with
    | .colon => value fuel l.after.lexeme
    | .endOfText => (.fault (l.faultAt .endInObject), l.after)
    | _ => (.fault (l.faultAt .colonExpected), l.after)

end

/-- The document of a whole text. Every step of the descent takes a token or comes directly before
one that does. -/
def document (text : String) : Document Fault :=
  let start := Cursor.start text.toList
  let (root, c) := value (4 * start.rest.length + 4) start.lexeme
  let next := c.lexeme
  { root
    anchors := []
    tail := if next.token = .endOfText then none else some (next.faultAt .trailingCharacters) }

end MaskedInput.Json
