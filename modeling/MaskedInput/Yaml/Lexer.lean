import MaskedInput.Yaml.Portions
import MaskedInput.Yaml.Tag

/-! From text to tokens. Blocks open and close by indentation, and a colon makes a key of what
stands before it on its line; so a token that may yet turn out to start a key waits until the text
decides. A fault takes the place of all tokens that were still waiting. -/

namespace MaskedInput.Yaml

/-- A token that may start a key. It is `required` to where nothing else can stand there. -/
structure PendingKey where
  required : Bool
  number : Nat
  position : Position
  deriving Repr, DecidableEq

structure Lexer where
  cursor : Cursor
  /-- Tokens that were read and not handed on yet. -/
  waiting : List Lexeme := []
  /-- How many tokens were handed on. -/
  passed : Nat := 0
  /-- The indentation of the present block, or -1 outside all blocks. -/
  indent : Int := -1
  outerIndents : List Int := []
  keyAllowed : Bool := true
  /-- What may start a key, in the present flow collection and in those around it. -/
  pending : Option PendingKey := none
  outerPending : List (Option PendingKey) := []
  ended : Bool := false
  deriving Repr

namespace Lexer

def inFlow (l : Lexer) : Bool := !l.outerPending.isEmpty

def start (text : Text) (cut : Bool) : Lexer := { cursor := .start text cut }

def column (l : Lexer) : Int := l.cursor.position.column

def add (l : Lexer) (t : Token) (start finish : Position) : Lexer :=
  { l with waiting := l.waiting ++ [⟨t, start, finish⟩] }

/-- Adds a token before the one of a number. -/
def insert (l : Lexer) (number : Nat) (t : Token) (at_ : Position) : Lexer :=
  let place := number - l.passed
  { l with waiting := l.waiting.take place ++ ⟨t, at_, at_⟩ :: l.waiting.drop place }

/-- Adds a token that takes some characters at the cursor. -/
def take (l : Lexer) (t : Token) (size : Nat) : Lexer :=
  let after := l.cursor.skipMany size
  { l.add t l.cursor.position after.position with cursor := after }

/-! ### Keys -/

/-- A key stands on one line and takes at most this many octets. -/
def longestKey : Nat := 1024

def isStale (now : Position) (k : PendingKey) : Bool :=
  k.position.line < now.line || k.position.offset + longestKey < now.offset

/-- Gives up what can no longer start a key. -/
def dropStale (l : Lexer) : Except Fault Lexer :=
  let stale := isStale l.cursor.position
  if (l.pending :: l.outerPending).any (·.any fun k => stale k && k.required) then .error .token
  else
    let keep (k : Option PendingKey) := k.filter (!stale ·)
    .ok { l with pending := keep l.pending, outerPending := l.outerPending.map keep }

def dropPending (l : Lexer) : Except Fault Lexer :=
  if l.pending.any (·.required) then .error .token else .ok { l with pending := none }

/-- Notes that the next token may start a key. -/
def notePending (l : Lexer) : Except Fault Lexer := do
  if !l.keyAllowed then return l
  let key : PendingKey :=
    { required := !l.inFlow && l.indent = l.column
      number := l.passed + l.waiting.length
      position := l.cursor.position }
  return { ← l.dropPending with pending := some key }

/-! ### Indentation -/

/-- Opens a block at a column, unless the present one is as deep. -/
def openBlock (l : Lexer) (column : Int) (t : Token) (number : Option Nat) (at_ : Position) :
    Lexer :=
  if l.inFlow || column ≤ l.indent then l
  else
    let l := { l with outerIndents := l.indent :: l.outerIndents, indent := column }
    match number with
    | some n => l.insert n t at_
    | none => l.add t at_ at_

/-- Closes the blocks that are deeper than a column. -/
def closeBlocks (column : Int) : List Int → Lexer → Lexer
  | [], l => l
  | outer :: rest, l =>
    if l.indent ≤ column then l
    else
      let here := l.cursor.position
      closeBlocks column rest
        { l.add .blockEnd here here with indent := outer, outerIndents := rest }

def closeTo (l : Lexer) (column : Int) : Lexer :=
  if l.inFlow then l else closeBlocks column l.outerIndents l

/-! ### Tokens -/

def endText (l : Lexer) : Except Fault Lexer := do
  let p := l.cursor.position
  let p := if p.column = 0 then p else { p with line := p.line + 1, column := 0 }
  let l := { l with cursor := { l.cursor with position := p } }
  let l ← (l.closeTo (-1)).dropPending
  return { l.add .endOfText p p with keyAllowed := false, ended := true }

def readDirective (l : Lexer) : Except Fault Lexer := do
  let l ← (l.closeTo (-1)).dropPending
  let (t, finish, after) ← directive l.cursor
  return { l.add t l.cursor.position finish with cursor := after, keyAllowed := false }

def documentSign (l : Lexer) (t : Token) : Except Fault Lexer := do
  let l ← (l.closeTo (-1)).dropPending
  return { l.take t 3 with keyAllowed := false }

def openFlow (l : Lexer) (t : Token) : Except Fault Lexer := do
  let l ← l.notePending
  let l := { l with
    pending := none
    outerPending := l.pending :: l.outerPending
    keyAllowed := true }
  return l.take t 1

def closeFlow (l : Lexer) (t : Token) : Except Fault Lexer := do
  let l ← l.dropPending
  let l := match l.outerPending with
    | [] => l
    | p :: outer => { l with pending := p, outerPending := outer }
  return { l.take t 1 with keyAllowed := false }

def readFlowEntry (l : Lexer) : Except Fault Lexer := do
  return { (← l.dropPending).take .flowEntry 1 with keyAllowed := true }

/-- Outside flow collections a sign may only stand where a key may, and it opens its block. -/
def openFor (l : Lexer) (block : Token) : Except Fault Lexer :=
  if l.inFlow then .ok l
  else if !l.keyAllowed then .error .token
  else .ok (l.openBlock l.column block none l.cursor.position)

def readBlockEntry (l : Lexer) : Except Fault Lexer := do
  let l ← (← l.openFor .blockSequenceStart).dropPending
  return { l.take .blockEntry 1 with keyAllowed := true }

def readKey (l : Lexer) : Except Fault Lexer := do
  let l ← (← l.openFor .blockMappingStart).dropPending
  return { l.take .key 1 with keyAllowed := !l.inFlow }

def readValue (l : Lexer) : Except Fault Lexer := do
  match l.pending with
  | some k =>
    let l := l.insert k.number .key k.position
    let l := l.openBlock k.position.column .blockMappingStart (some k.number) k.position
    return { l.take .value 1 with pending := none, keyAllowed := false }
  | none =>
    let l ← l.openFor .blockMappingStart
    return { l.take .value 1 with keyAllowed := !l.inFlow }

/-- A token that may start a key, read by a function of the cursor. -/
def readNode (l : Lexer) (read : Cursor → Except Fault (Token × Cursor)) : Except Fault Lexer := do
  let l := { ← l.notePending with keyAllowed := false }
  let (t, after) ← read l.cursor
  return { l.add t l.cursor.position after.position with cursor := after }

def readQuoted (l : Lexer) (single : Bool) : Except Fault Lexer :=
  l.readNode fun c => do
    let (text, c) ← quotedScalar single (c.rest.length + 1) {} c.skip
    return (.scalar (String.ofList text) .other, c)

def readBlock (l : Lexer) (literal : Bool) : Except Fault Lexer := do
  let l ← l.dropPending
  let (text, after) ← blockScalar literal l.indent l.cursor.skip
  let style := if literal then .literal else .other
  return { l.add (.scalar (String.ofList text) style) l.cursor.position after.position with
    cursor := after, keyAllowed := true }

def readPlain (l : Lexer) : Except Fault Lexer := do
  let l := { ← l.notePending with keyAllowed := false }
  let (f, finish, after) ← plainScalar l.inFlow (l.indent + 1).toNat (l.cursor.rest.length + 1) {}
    l.cursor.position l.cursor
  return { l.add (.scalar (String.ofList f.text) .plain) l.cursor.position finish with
    cursor := after, keyAllowed := f.broken }

/-- Whether a plain scalar may start with what comes next. -/
def startsPlain (inFlow : Bool) (c : Cursor) : Bool :=
  (!c.isSpaceAt 0 && !c.nextIs ("-?:,[]\x7b\x7d#&*!|>'\"%@`".toList.contains ·))
    || (c.nextIsChar '-' && !c.isAt 1 isBlank)
    || (!inFlow && c.nextIs (fun x => x = '?' || x = ':') && !c.isSpaceAt 1)

/-- Steps over blanks, comments and breaks before a token. A tab counts as a blank where no key may
start, and a byte order mark may start any line. -/
def skipSpace : Nat → Lexer → Lexer
  | 0, l => l
  | fuel + 1, l =>
    let c := if l.cursor.position.column = 0 && l.cursor.nextIsChar '\uFEFF' then l.cursor.skip
      else l.cursor
    let c := c.skipWhile fun x => x = ' ' || ((l.inFlow || !l.keyAllowed) && x = '\t')
    let c := c.skipComment
    if c.nextIs isBreak then
      skipSpace fuel { l with cursor := c.skipLine, keyAllowed := l.keyAllowed || !l.inFlow }
    else { l with cursor := c }

/-- Reads the token at the cursor. -/
def readToken (l : Lexer) : Except Fault Lexer := do
  let c := l.cursor
  match c.next? with
  | none => l.endText
  | some x =>
    if c.position.column = 0 ∧ x = '%' then l.readDirective
    else if c.isDocumentSign '-' then l.documentSign .documentStart
    else if c.isDocumentSign '.' then l.documentSign .documentEnd
    else if x = '[' then l.openFlow .flowSequenceStart
    else if x = '\x7b' then l.openFlow .flowMappingStart
    else if x = ']' then l.closeFlow .flowSequenceEnd
    else if x = '\x7d' then l.closeFlow .flowMappingEnd
    else if x = ',' then l.readFlowEntry
    else if x = '-' ∧ c.isSpaceAt 1 then l.readBlockEntry
    else if x = '?' ∧ (l.inFlow ∨ c.isSpaceAt 1) then l.readKey
    else if x = ':' ∧ (l.inFlow ∨ c.isSpaceAt 1) then l.readValue
    else if x = '*' then l.readNode fun c => do
      let (name, c) ← anchorName c
      return (.alias name, c)
    else if x = '&' then l.readNode fun c => do
      let (name, c) ← anchorName c
      return (.anchor name, c)
    else if x = '!' then l.readNode (tag l.inFlow)
    else if x = '|' ∧ !l.inFlow then l.readBlock true
    else if x = '>' ∧ !l.inFlow then l.readBlock false
    else if x = '\'' then l.readQuoted true
    else if x = '"' then l.readQuoted false
    else if startsPlain l.inFlow c then l.readPlain
    else throw .token

/-- Reads the next token, with the blocks that end before it. A token that more text could still
change is not read at a cut: it takes four characters to tell what a token is, and one behind it to
tell where it ends. -/
def fetch (l : Lexer) : Except Fault Lexer := do
  let l := l.skipSpace (l.cursor.rest.length + 1)
  if l.cursor.isAtCut then throw .forbiddenCharacter
  let l ← l.dropStale
  let l := l.closeTo l.column
  if l.cursor.cut && (l.cursor.at? 3).isNone then throw .forbiddenCharacter
  let l ← l.readToken
  if l.cursor.isAtCut then throw .forbiddenCharacter
  return l

/-- Whether the first token that waits may still turn out to start a key. -/
def headIsPending (l : Lexer) : Bool :=
  (l.pending :: l.outerPending).any (·.any (·.number = l.passed))

/-- All tokens from a state on; `fuel` bounds the steps. -/
def run : Nat → Lexer → List Lexeme
  | 0, l => [⟨.fault .token, l.cursor.position, l.cursor.position⟩]
  | fuel + 1, l =>
    let failed (f : Fault) : List Lexeme := [⟨.fault f, l.cursor.position, l.cursor.position⟩]
    match l.waiting with
    | [] =>
      match l.fetch with
      | .ok l => run fuel l
      | .error f => failed f
    | first :: rest =>
      match l.dropStale with
      | .error f => failed f
      | .ok l =>
        if l.headIsPending && !l.ended then
          match l.fetch with
          | .ok l => run fuel l
          | .error f => failed f
        else if first.token = .endOfText then [first]
        else first :: run fuel { l with waiting := rest, passed := l.passed + 1 }

end Lexer

/-- The tokens of a text, up to its end or its first fault. Every character gives at most a few
tokens: its own, a key, and the start and the end of a block. -/
def tokens (text : Text) : List Lexeme :=
  let all := portions text
  let sound := all.takeWhile isSound
  if sound.isEmpty then [⟨.fault .forbiddenCharacter, ⟨0, 0, 0⟩, ⟨0, 0, 0⟩⟩]
  else (Lexer.start sound.flatten (sound.length < all.length)).run (8 * text.length + 16)

end MaskedInput.Yaml
