import MaskedInput.Yaml.Lexer
import MaskedInput.Yaml.Scalar

/-! The tree of a YAML document. Every value is marked where it starts. An anchor is numbered by how
many names were in use when it appeared, and an alias stands for the last value numbered as its name
is. -/

namespace MaskedInput.Yaml

open Document

abbrev Node := Document.Node Fault

/-- A value that was given a number, and how many were before it. -/
structure Anchored where
  order : Nat
  number : Nat
  node : Node

/-- What is left of the tokens, and what is known of tags and anchors. -/
structure Builder where
  tokens : List Lexeme
  handles : List (String × String) := []
  names : List (String × Nat) := []
  anchors : Nat := 0
  anchored : List Anchored := []

abbrev Building := StateM Builder

namespace Builder

def peek : Building Lexeme := do
  return (← get).tokens.head?.getD ⟨.fault .misplaced, ⟨0, 0, 0⟩, ⟨0, 0, 0⟩⟩

def skip : Building Unit := modify fun b => { b with tokens := b.tokens.tail }

/-- The fault at the present token; there are no tokens after it. -/
def stop (otherwise : Fault := .misplaced) : Building Fault := do
  let t ← peek
  let f := match t.token with
    | .fault f => f
    | _ => otherwise
  modify fun b => { b with tokens := [⟨.fault f, t.start, t.start⟩] }
  return f

def isFault : Token → Bool
  | .fault _ => true
  | _ => false

/-- A scalar without text. -/
def blank (p : Position) : Node := .scalar (Yaml.scalar "" .plain none) p.mark

/-- Builds a value under an anchor, which its own parts may already refer to. -/
def anchoredAs (name : Option String) (build : Building Node) : Building Node := do
  match name with
  | none => build
  | some name =>
    let b ← get
    let number := b.names.length
    let order := b.anchors
    set { b with
      names := (name, number) :: b.names.filter (·.1 ≠ name)
      anchors := order + 1 }
    let node ← build
    modify fun b => { b with anchored := ⟨order, number, node⟩ :: b.anchored }
    return node

/-- The anchor and the tag in front of a value. -/
structure Properties where
  anchor : Option String := none
  tag : Option (String × String) := none
  start : Option Position := none

def properties : Building Properties := do
  let first ← peek
  match first.token with
  | .anchor name =>
    skip
    let second ← peek
    match second.token with
    | .tag handle suffix =>
      skip
      return ⟨some name, some (handle, suffix), some first.start⟩
    | _ => return ⟨some name, none, some first.start⟩
  | .tag handle suffix =>
    skip
    let second ← peek
    match second.token with
    | .anchor name =>
      skip
      return ⟨some name, some (handle, suffix), some first.start⟩
    | _ => return ⟨none, some (handle, suffix), some first.start⟩
  | _ => return {}

/-- A tag with its handle written out; `none` for a handle that is not known. -/
def expanded (b : Builder) (handle suffix : String) : Option String :=
  if handle.isEmpty then some suffix else (b.handles.lookup handle).map (· ++ suffix)

mutual

/-- A value. In block context it may be a block collection, and where `indentless` says so a
sequence whose entries are not indented. -/
def node (fuel : Nat) (inBlock indentless : Bool) : Building Node := do
  match fuel with
  | 0 => return .fault (← stop)
  | fuel + 1 =>
    let t ← peek
    match t.token with
    | .alias name =>
      match (← get).names.lookup name with
      | some number =>
        skip
        return .alias number
      | none => return .fault (← stop .unknownAnchor)
    | _ =>
      let p ← properties
      let next ← peek
      if isFault next.token then return .fault (← stop)
      match p.tag with
      | none => content fuel inBlock indentless p none
      | some (handle, suffix) =>
        match expanded (← get) handle suffix with
        | some tag => content fuel inBlock indentless p (some tag)
        | none => return .fault (← stop .tag)

/-- A value behind its properties. -/
def content (fuel : Nat) (inBlock indentless : Bool) (p : Properties) (tag : Option String) :
    Building Node := do
  match fuel with
  | 0 => return .fault (← stop)
  | fuel + 1 =>
    let t ← peek
    let start := p.start.getD t.start
    match t.token with
    | .scalar text style =>
      skip
      anchoredAs p.anchor do
        return .scalar (Yaml.scalar text style tag) start.mark
    | .flowSequenceStart =>
      anchoredAs p.anchor do
        skip
        return .sequence (← flowItems fuel true) start.mark
    | .flowMappingStart =>
      anchoredAs p.anchor do
        skip
        return .mapping (← flowMembers fuel true start) start.mark
    | token =>
      if token = .blockEntry ∧ indentless then
        anchoredAs p.anchor do return .sequence (← indentlessItems fuel) start.mark
      else if token = .blockSequenceStart ∧ inBlock then
        anchoredAs p.anchor do
          skip
          return .sequence (← blockItems fuel) start.mark
      else if token = .blockMappingStart ∧ inBlock then
        anchoredAs p.anchor do
          skip
          return .mapping (← blockMembers fuel start) start.mark
      else if p.anchor.isSome ∨ tag.isSome then
        anchoredAs p.anchor do return .scalar (Yaml.scalar "" .plain tag) start.mark
      else return .fault (← stop)

/-- A value that is blank when one of some tokens comes first. -/
def nodeUnless (fuel : Nat) (ends : List Token) (blankAt : Position) (inBlock indentless : Bool) :
    Building Node := do
  match fuel with
  | 0 => return .fault (← stop)
  | fuel + 1 =>
    let t ← peek
    if isFault t.token then return .fault (← stop)
    else if t.token ∈ ends then return blank blankAt
    else node fuel inBlock indentless

/-- The entries of a block sequence. -/
def blockItems (fuel : Nat) : Building (Items Fault) := do
  match fuel with
  | 0 => let f ← stop; return .cut f f
  | fuel + 1 =>
    let t ← peek
    match t.token with
    | .blockEntry =>
      skip
      let entry ← nodeUnless fuel [.blockEntry, .blockEnd] t.finish true false
      return .item .misplaced entry (← blockItems fuel)
    | .blockEnd =>
      skip
      return .close t.start.mark
    | _ => let f ← stop; return .cut f f

/-- The entries of a sequence that is not indented; any other token ends it. -/
def indentlessItems (fuel : Nat) : Building (Items Fault) := do
  match fuel with
  | 0 => let f ← stop; return .cut f f
  | fuel + 1 =>
    let t ← peek
    if isFault t.token then
      let f ← stop
      return .cut f f
    else if t.token = .blockEntry then
      skip
      let entry ← nodeUnless fuel [.blockEntry, .key, .value, .blockEnd] t.finish true false
      return .item .misplaced entry (← indentlessItems fuel)
    else return .close t.start.mark

/-- The members of a block mapping that starts at a place. -/
def blockMembers (fuel : Nat) (start : Position) : Building (Members Fault) := do
  match fuel with
  | 0 => return .cut (← stop)
  | fuel + 1 =>
    let t ← peek
    match t.token with
    | .key =>
      skip
      let key ← nodeUnless fuel [.key, .value, .blockEnd] t.finish true true
      let value ← blockValue fuel
      return .member key start.mark value (← blockMembers fuel start)
    | .blockEnd =>
      skip
      return .close start.mark
    | _ => return .cut (← stop)

/-- The value of a member of a block mapping. -/
def blockValue (fuel : Nat) : Building Node := do
  match fuel with
  | 0 => return .fault (← stop)
  | fuel + 1 =>
    let t ← peek
    match t.token with
    | .value =>
      skip
      nodeUnless fuel [.key, .value, .blockEnd] t.finish true true
    | .fault _ => return .fault (← stop)
    | _ => return blank t.start

/-- The entries of a flow sequence. -/
def flowItems (fuel : Nat) (first : Bool) : Building (Items Fault) := do
  match fuel with
  | 0 => let f ← stop; return .cut f f
  | fuel + 1 =>
    let t ← peek
    match t.token with
    | .flowSequenceEnd =>
      skip
      return .close t.start.mark
    | token =>
      if first then flowItem fuel
      else if token = .flowEntry then
        skip
        flowItem fuel
      else let f ← stop; return .cut f f

/-- An entry of a flow sequence, which may be a mapping of one member. -/
def flowItem (fuel : Nat) : Building (Items Fault) := do
  match fuel with
  | 0 => let f ← stop; return .cut f f
  | fuel + 1 =>
    let t ← peek
    match t.token with
    | .key =>
      skip
      let entry := .mapping (← flowPair fuel t.start) t.start.mark
      return .item .misplaced entry (← flowItems fuel false)
    | .flowSequenceEnd =>
      skip
      return .close t.start.mark
    | .fault _ => let f ← stop; return .cut f f
    | _ =>
      let entry ← node fuel false false
      return .item .misplaced entry (← flowItems fuel false)

/-- The one member of a mapping that is an entry of a flow sequence. -/
def flowPair (fuel : Nat) (start : Position) : Building (Members Fault) := do
  match fuel with
  | 0 => return .cut (← stop)
  | fuel + 1 =>
    let t ← peek
    if isFault t.token then return .cut (← stop)
    let key ←
      if t.token ∈ [.value, .flowEntry, .flowSequenceEnd] then do
        skip
        pure (blank t.finish)
      else node fuel false false
    let value ← flowValue fuel .flowSequenceEnd
    let last ← peek
    if isFault last.token then return .member key start.mark value (.cut (← stop))
    return .member key start.mark value (.close start.mark)

/-- The value of a member in a flow collection that ends with some token. -/
def flowValue (fuel : Nat) (close : Token) : Building Node := do
  match fuel with
  | 0 => return .fault (← stop)
  | fuel + 1 =>
    let t ← peek
    match t.token with
    | .value =>
      skip
      let next ← peek
      nodeUnless fuel [.flowEntry, close] next.start false false
    | .fault _ => return .fault (← stop)
    | _ => return blank t.start

/-- The members of a flow mapping that starts at a place. -/
def flowMembers (fuel : Nat) (first : Bool) (start : Position) : Building (Members Fault) := do
  match fuel with
  | 0 => return .cut (← stop)
  | fuel + 1 =>
    let t ← peek
    match t.token with
    | .flowMappingEnd =>
      skip
      return .close start.mark
    | token =>
      if first then flowMember fuel start
      else if token = .flowEntry then
        skip
        flowMember fuel start
      else return .cut (← stop)

/-- A member of a flow mapping. Without the sign of a key it has no value either. -/
def flowMember (fuel : Nat) (start : Position) : Building (Members Fault) := do
  match fuel with
  | 0 => return .cut (← stop)
  | fuel + 1 =>
    let t ← peek
    match t.token with
    | .key =>
      skip
      let next ← peek
      let key ← nodeUnless fuel [.value, .flowEntry, .flowMappingEnd] next.start false false
      let value ← flowValue fuel .flowMappingEnd
      return .member key start.mark value (← flowMembers fuel false start)
    | .flowMappingEnd =>
      skip
      return .close start.mark
    | .fault _ => return .cut (← stop)
    | _ =>
      let key ← node fuel false false
      let next ← peek
      let value ← if isFault next.token then pure (.fault (← stop)) else pure (blank next.start)
      return .member key start.mark value (← flowMembers fuel false start)

end

/-! ### Documents -/

/-- The expansions that handles have without a directive. -/
def standardHandles : List (String × String) := [("!", "!"), ("!!", "tag:yaml.org,2002:")]

/-- The directives before a document: whether a version was given, and the handles. -/
def directives (versioned : Bool) : List Lexeme → List (String × String) →
    Except Fault (List Lexeme × List (String × String))
  | [], handles => .ok ([], handles)
  | t :: rest, handles =>
    match t.token with
    | .versionDirective major minor =>
      if versioned || major ≠ 1 || (minor ≠ 1 && minor ≠ 2) then .error .misplaced
      else directives true rest handles
    | .tagDirective handle expansion =>
      if (handles.lookup handle).isSome then .error .misplaced
      else directives versioned rest (handles ++ [(handle, expansion)])
    | _ => .ok (t :: rest, handles)

def startsDirectly : Token → Bool
  | .versionDirective _ _ | .tagDirective _ _ | .documentStart | .endOfText => false
  | _ => true

/-- Whether nothing but the ends of documents is left. -/
def tailFault : List Lexeme → Option Fault
  | [] => some .misplaced
  | t :: rest =>
    match t.token with
    | .documentEnd => tailFault rest
    | .endOfText => none
    | .fault f => some f
    | _ => some .furtherDocument

/-- The document that starts with the tokens at hand. -/
def complete (explicit : Bool) (b : Builder) : Document Fault :=
  let fuel := 6 * b.tokens.length + 8
  let contents : Building Node := do
    let t ← peek
    match t.token with
    | .versionDirective _ _ | .tagDirective _ _ | .documentStart | .documentEnd | .endOfText =>
      if explicit then return blank t.start else node fuel true false
    | _ => node fuel true false
  let (root, b) := contents.run b
  let latestFirst := b.anchored.mergeSort fun x y => y.order ≤ x.order
  { root
    anchors := latestFirst.map fun a => (a.number, a.node)
    tail := tailFault b.tokens }

end Builder

/-- The document of a whole text. A text without a document is a blank one. -/
def document (text : String) : Document Fault :=
  let refused (f : Fault) : Document Fault := ⟨.fault f, [], none⟩
  match tokens text.toList with
  | [] => refused .misplaced
  | first :: rest =>
    match first.token with
    | .fault f => refused f
    | .endOfText => ⟨.scalar (scalar "" .plain none) ⟨1, 1⟩, [], none⟩
    | token =>
      if Builder.startsDirectly token then
        { tokens := first :: rest, handles := Builder.standardHandles : Builder }.complete false
      else
        match Builder.directives false (first :: rest) [] with
        | .error f => refused f
        | .ok (start :: rest, handles) =>
          match start.token with
          | .documentStart =>
            let standard := Builder.standardHandles.filter fun h => (handles.lookup h.1).isNone
            { tokens := rest, handles := handles ++ standard : Builder }.complete true
          | _ => refused .misplaced
        | .ok ([], _) => refused .misplaced

end MaskedInput.Yaml
