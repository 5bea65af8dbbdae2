import MaskedInput.Yaml.Folding

/-! Tags, anchors and directives. A tag is a handle with a suffix; a directive gives a handle its
expansion. -/

namespace MaskedInput.Yaml

/-- Characters of a tag; those of a verbatim one are a few more. -/
def isTagChar (verbatim : Bool) (c : Char) : Bool :=
  isNameChar c || ";/?:@&=+$.!~*'()%".toList.contains c || (verbatim && ",[]".toList.contains c)

/-- The octet of an escape such as `%2F`. -/
def octet? (c : Cursor) : Option Nat :=
  if c.nextIsChar '%' then
    match (c.at? 1).bind hexDigit?, (c.at? 2).bind hexDigit? with
    | some h, some l => some (h * 16 + l)
    | _, _ => none
  else none

/-- How many octets follow the first one of a character. -/
def octetsBehind? (first : Nat) : Option Nat :=
  if first < 0x80 then some 0
  else if first / 0x20 = 6 then some 1
  else if first / 0x10 = 14 then some 2
  else if first / 0x08 = 30 then some 3
  else none

def moreOctets : Nat → List Char → Cursor → Except Fault (List Char × Cursor)
  | 0, read, c => .ok (read, c)
  | count + 1, read, c =>
    match octet? c with
    | some n =>
      if n / 0x40 = 2 then moreOctets count (read ++ [Char.ofNat n]) (c.skipMany 3)
      else .error .token
    | none => .error .token

/-- The escaped octets of one character. They are not put together, so that a character written in
more octets than it takes is not that character. -/
def escapedOctets (c : Cursor) : Except Fault (List Char × Cursor) :=
  match octet? c with
  | none => .error .token
  | some first =>
    match octetsBehind? first with
    | none => .error .token
    | some count => moreOctets count [Char.ofNat first] (c.skipMany 3)

def tagChars (verbatim : Bool) : Nat → List Char → Cursor → Except Fault (List Char × Cursor)
  | 0, read, c => .ok (read, c)
  | fuel + 1, read, c =>
    match c.next? with
    | some x =>
      if !isTagChar verbatim x then .ok (read, c)
      else if x = '%' then
        match escapedOctets c with
        | .ok (more, c) => tagChars verbatim fuel (read ++ more) c
        | .error f => .error f
      else tagChars verbatim fuel (read ++ [x]) c.skip
    | none => .ok (read, c)

/-- The part of a tag behind its handle, which may not be empty. -/
def tagPart (verbatim : Bool) (c : Cursor) : Except Fault (List Char × Cursor) := do
  let (read, c) ← tagChars verbatim (c.rest.length + 1) [] c
  if read.isEmpty then throw .token
  return (read, c)

/-- What counts of a tag's text: all before the first octet that is zero. -/
def counted (t : List Char) : String := String.ofList (t.takeWhile (· ≠ '\x00'))

/-- An exclamation mark, a name, and another mark if it is there. -/
def tagHandle (c : Cursor) : Except Fault (List Char × Cursor) :=
  if !c.nextIsChar '!' then .error .token
  else
    let (name, c) := c.skip.takeWhile isNameChar
    if c.nextIsChar '!' then .ok ('!' :: name ++ ['!'], c.skip) else .ok ('!' :: name, c)

def tagToken (c : Cursor) : Except Fault (Token × Cursor) := do
  if c.isAt 1 (· = '<') then
    let (suffix, c) ← tagPart true (c.skipMany 2)
    if !c.nextIsChar '>' then throw .token
    return (.tag "" (counted suffix), c.skip)
  let (handle, c) ← tagHandle c
  if 2 ≤ handle.length ∧ handle.getLast? = some '!' then
    let (suffix, c) ← tagPart false c
    return (.tag (String.ofList handle) (counted suffix), c)
  let (more, c) ← tagChars false (c.rest.length + 1) [] c
  let suffix := counted (handle.drop 1 ++ more)
  return (if suffix.isEmpty then .tag "" "!" else .tag "!" suffix, c)

/-- A tag ends before a space or, in a flow collection, before a comma. -/
def tag (inFlow : Bool) (c : Cursor) : Except Fault (Token × Cursor) := do
  let (t, c) ← tagToken c
  if !(inFlow && c.nextIsChar ',') && !c.isSpaceAt 0 then throw .token
  return (t, c)

/-- The name of an anchor or an alias, from its sign. -/
def anchorName (c : Cursor) : Except Fault (String × Cursor) :=
  let (name, c) := c.skip.takeWhile isNameChar
  if name.isEmpty || !(c.isSpaceAt 0 || c.nextIs ("?:,]\x7d%@`".toList.contains ·)) then
    .error .token
  else .ok (String.ofList name, c)

/-! ### Directives -/

/-- A number of at most nine digits. -/
def versionNumber (c : Cursor) : Except Fault (Nat × Cursor) :=
  let (ds, c) := c.takeWhile Char.isDigit
  if ds.isEmpty ∨ 9 < ds.length then .error .token
  else .ok (ds.foldl (fun n d => n * 10 + (d.toNat - '0'.toNat)) 0, c)

def versionDirective (c : Cursor) : Except Fault (Token × Cursor) := do
  let (major, c) ← versionNumber c.skipBlanks
  if !c.nextIsChar '.' then throw .token
  let (minor, c) ← versionNumber c.skip
  return (.versionDirective major minor, c)

def tagDirective (c : Cursor) : Except Fault (Token × Cursor) := do
  let (handle, c) ← tagHandle c.skipBlanks
  if handle ≠ ['!'] ∧ ¬ (2 ≤ handle.length ∧ handle.getLast? = some '!') then throw .token
  if !c.nextIs isBlank then throw .token
  let (expansion, c) ← tagPart true c.skipBlanks
  if !c.isSpaceAt 0 then throw .token
  return (.tagDirective (String.ofList handle) (counted expansion), c)

/-- A directive from its sign to the end of its line. -/
def directive (c : Cursor) : Except Fault (Token × Position × Cursor) := do
  let (name, c) := c.skip.takeWhile isNameChar
  if name.isEmpty || !c.isSpaceAt 0 then throw .token
  let (t, c) ←
    match String.ofList name with
    | "YAML" => versionDirective c
    | "TAG" => tagDirective c
    | _ => throw .token
  return (t, c.position, ← c.finishLine)

end MaskedInput.Yaml
