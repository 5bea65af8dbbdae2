import MaskedInput.Yaml.Token

/-! The text of scalars. Inside a scalar a single line break counts as a space, and of several the
first does not count; blanks around breaks do not count either. -/

namespace MaskedInput.Yaml

/-- The text read so far, and the blanks and breaks behind it. -/
structure Folded where
  text : List Char := []
  blanks : List Char := []
  firstBreak : List Char := []
  moreBreaks : List Char := []
  broken : Bool := false

namespace Folded

/-- What the blanks and breaks stand for when more text follows. -/
def gap (f : Folded) : List Char :=
  if f.broken then
    if f.firstBreak.head? = some '\n' then
      if f.moreBreaks.isEmpty then [' '] else f.moreBreaks
    else f.firstBreak ++ f.moreBreaks
  else f.blanks

/-- Adds text behind the gap. -/
def append (f : Folded) (chunk : List Char) : Folded := { text := f.text ++ f.gap ++ chunk }

def addBlank (f : Folded) (c : Char) : Folded :=
  if f.broken then f else { f with blanks := f.blanks ++ [c] }

def addBreak (f : Folded) (line : List Char) : Folded :=
  if f.broken then { f with moreBreaks := f.moreBreaks ++ line }
  else { f with blanks := [], firstBreak := line, broken := true }

end Folded

/-- Reads blanks and breaks; where there is a least column, a tab before it on a new line is a
fault. -/
def readGap (leastColumn : Option Nat) : Nat → Folded → Cursor → Except Fault (Folded × Cursor)
  | 0, f, c => .ok (f, c)
  | fuel + 1, f, c =>
    match c.next? with
    | some x =>
      if isBlank x then
        if f.broken && x = '\t' && leastColumn.any (c.position.column < ·) then .error .token
        else readGap leastColumn fuel (f.addBlank x) c.skip
      else if isBreak x then
        let (line, c) := c.readLine
        readGap leastColumn fuel (f.addBreak line) c
      else .ok (f, c)
    | none => .ok (f, c)

/-! ### Plain scalars -/

def isFlowSign (c : Char) : Bool := c = ',' || c = '[' || c = ']' || c = '\x7b' || c = '\x7d'

/-- Whether a plain scalar ends before a character that is no space. -/
def endsPlain (inFlow : Bool) (c : Cursor) : Bool :=
  (c.nextIsChar ':' && c.isSpaceAt 1) || (inFlow && c.nextIs isFlowSign)

/-- Reads a plain scalar up to the next space. -/
def plainChunk (inFlow : Bool) : Nat → List Char → Cursor → Except Fault (List Char × Cursor)
  | 0, read, c => .ok (read, c)
  | fuel + 1, read, c =>
    match c.next? with
    | none => .ok (read, c)
    | some x =>
      if c.isSpaceAt 0 then .ok (read, c)
      else if inFlow && x = ':' && c.isAt 1 (fun y => isFlowSign y || y = '?') then .error .token
      else if endsPlain inFlow c then .ok (read, c)
      else plainChunk inFlow fuel (read ++ [x]) c.skip

/-- A plain scalar: its text, where the text ends, and the cursor and gap behind it. -/
def plainScalar (inFlow : Bool) (leastColumn : Nat) :
    Nat → Folded → Position → Cursor → Except Fault (Folded × Position × Cursor)
  | 0, f, finish, c => .ok (f, finish, c)
  | fuel + 1, f, finish, c => do
    if c.isDocumentBound || c.nextIsChar '#' then return (f, finish, c)
    let size := c.rest.length
    let (chunk, after) ← plainChunk inFlow size [] c
    let f := if chunk.isEmpty then f else f.append chunk
    let finish := if chunk.isEmpty then finish else after.position
    if !after.nextIs (fun x => isBlank x || isBreak x) then return (f, finish, after)
    let (f, after) ← readGap (some leastColumn) size f after
    if !inFlow && after.position.column < leastColumn then return (f, finish, after)
    plainScalar inFlow leastColumn fuel f finish after

/-! ### Quoted scalars -/

/-- What an escape that takes no digits stands for. -/
def simpleEscape? : Char → Option Char
  | '0' => some '\x00'
  | 'a' => some '\x07'
  | 'b' => some '\x08'
  | 't' | '\t' => some '\t'
  | 'n' => some '\n'
  | 'v' => some '\x0b'
  | 'f' => some '\x0c'
  | 'r' => some '\r'
  | 'e' => some '\x1b'
  | ' ' => some ' '
  | '"' => some '"'
  | '/' => some '/'
  | '\\' => some '\\'
  | 'N' => some '\u0085'
  | '_' => some '\u00A0'
  | 'L' => some '\u2028'
  | 'P' => some '\u2029'
  | _ => none

/-- How many digits follow the letter of an escape by number. -/
def escapeDigits? : Char → Option Nat
  | 'x' => some 2
  | 'u' => some 4
  | 'U' => some 8
  | _ => none

def hexDigit? (c : Char) : Option Nat :=
  if '0' ≤ c ∧ c ≤ '9' then some (c.toNat - '0'.toNat)
  else if 'a' ≤ c ∧ c ≤ 'f' then some (c.toNat - 'a'.toNat + 10)
  else if 'A' ≤ c ∧ c ≤ 'F' then some (c.toNat - 'A'.toNat + 10)
  else none

def hexNumber? (ds : List Char) : Option Nat :=
  ds.foldlM (fun n d => (hexDigit? d).map (n * 16 + ·)) 0

/-- An escape in double quotes, from its backslash. -/
def readEscape (c : Cursor) : Except Fault (Char × Cursor) :=
  match c.at? 1 with
  | none => .error .token
  | some x =>
    match simpleEscape? x, escapeDigits? x with
    | some y, _ => .ok (y, c.skipMany 2)
    | none, some n =>
      let ds := (c.rest.drop 2).take n
      match hexNumber? ds with
      | some code =>
        if ds.length = n ∧ code.isValidChar then .ok (Char.ofNat code, c.skipMany (n + 2))
        else .error .token
      | none => .error .token
    | none, none => .error .token

/-- Reads a quoted scalar up to the next space or its closing quote. An escaped line break ends the
chunk and leaves no space. -/
def quotedChunk (single : Bool) :
    Nat → List Char → Cursor → Except Fault (List Char × Bool × Cursor)
  | 0, read, c => .ok (read, false, c)
  | fuel + 1, read, c =>
    match c.next? with
    | none => .ok (read, false, c)
    | some x =>
      if c.isSpaceAt 0 then .ok (read, false, c)
      else if single && x = '\'' then
        if c.isAt 1 (· = '\'') then quotedChunk single fuel (read ++ ['\'']) (c.skipMany 2)
        else .ok (read, false, c)
      else if !single && x = '"' then .ok (read, false, c)
      else if !single && x = '\\' then
        if c.isAt 1 isBreak then .ok (read, true, c.skip.skipLine)
        else
          match readEscape c with
          | .ok (y, c) => quotedChunk single fuel (read ++ [y]) c
          | .error f => .error f
      else quotedChunk single fuel (read ++ [x]) c.skip

/-- A quoted scalar from after its opening quote. -/
def quotedScalar (single : Bool) : Nat → Folded → Cursor → Except Fault (List Char × Cursor)
  | 0, _, _ => .error .token
  | fuel + 1, f, c => do
    if c.isAtCut then throw .forbiddenCharacter
    if c.isDocumentBound || c.rest.isEmpty then throw .token
    let size := c.rest.length
    let (chunk, broken, c) ← quotedChunk single (size + 1) [] c
    let f := { f.append chunk with broken }
    if c.nextIsChar (if single then '\'' else '"') then return (f.text, c.skip)
    let (f, c) ← readGap none size f c
    quotedScalar single fuel f c

/-! ### Block scalars -/

/-- What happens to the breaks at the end of a block scalar. -/
inductive Chomping where
  | strip
  | clip
  | keep
  deriving Repr, DecidableEq

/-- The signs after the one that opens a block scalar, in either order: chomping and indentation. -/
def blockHeader (c : Cursor) : Except Fault (Chomping × Option Nat × Cursor) :=
  let chomping? (c : Cursor) : Option Chomping :=
    match c.next? with
    | some '+' => some .keep
    | some '-' => some .strip
    | _ => none
  let digit? (c : Cursor) : Option Nat := (c.next?.filter Char.isDigit).map (·.toNat - '0'.toNat)
  let checked (k : Chomping) (d : Option Nat) (c : Cursor) :=
    if d = some 0 then .error .token else .ok (k, d, c)
  match chomping? c with
  | some k =>
    match digit? c.skip with
    | some d => checked k (some d) (c.skipMany 2)
    | none => checked k none c.skip
  | none =>
    match digit? c with
    | some d =>
      match chomping? c.skip with
      | some k => checked k (some d) (c.skipMany 2)
      | none => checked .clip (some d) c.skip
    | none => checked .clip none c

/-- Reads empty lines. Without a known indentation, gives the greatest column reached. -/
def blockBreaks (indent : Option Nat) :
    Nat → Nat → List Char → Cursor → Except Fault (Nat × List Char × Cursor)
  | 0, greatest, breaks, c => .ok (greatest, breaks, c)
  | fuel + 1, greatest, breaks, c =>
    let spaces := (c.rest.takeWhile (· = ' ')).length
    let c := c.skipMany (match indent with
      | some n => min spaces (n - c.position.column)
      | none => spaces)
    let greatest := max greatest c.position.column
    if indent.all (c.position.column < ·) && c.nextIsChar '\t' then .error .token
    else if c.nextIs isBreak then
      let (line, c) := c.readLine
      blockBreaks indent fuel greatest (breaks ++ line) c
    else .ok (greatest, breaks, c)

/-- The lines of a block scalar and the breaks behind them. -/
structure BlockText where
  text : List Char := []
  lastBreak : List Char := []
  breaks : List Char := []
  /-- Whether the last line starts with a blank. -/
  spaced : Bool := false

def blockLines (literal : Bool) (indent : Nat) :
    Nat → BlockText → Cursor → Except Fault (BlockText × Cursor)
  | 0, b, c => .ok (b, c)
  | fuel + 1, b, c => do
    if c.position.column ≠ indent || c.rest.isEmpty then return (b, c)
    let spaced := c.nextIs isBlank
    let folds := !literal && b.lastBreak.head? = some '\n' && !b.spaced && !spaced
    let gap := if folds then (if b.breaks.isEmpty then [' '] else []) else b.lastBreak
    let (line, c) := c.takeWhile (!isBreak ·)
    let (lastBreak, c) := c.readLine
    let (_, breaks, c) ← blockBreaks (some indent) (c.rest.length + 1) 0 [] c
    blockLines literal indent fuel ⟨b.text ++ gap ++ b.breaks ++ line, lastBreak, breaks, spaced⟩ c

/-- A block scalar from after its sign, inside a block at some indentation. -/
def blockScalar (literal : Bool) (outer : Int) (c : Cursor) :
    Except Fault (List Char × Cursor) := do
  let (chomping, increment, c) ← blockHeader c
  let c ← c.finishLine
  let size := c.rest.length
  let known := increment.map fun n => outer.toNat + n
  let (greatest, breaks, c) ← blockBreaks known (size + 1) 0 [] c
  let indent := known.getD (max (max greatest (outer + 1).toNat) 1)
  let (b, c) ← blockLines literal indent (size + 1) { breaks } c
  return (b.text ++ (if chomping = .strip then [] else b.lastBreak)
    ++ (if chomping = .keep then b.breaks else []), c)

end MaskedInput.Yaml
