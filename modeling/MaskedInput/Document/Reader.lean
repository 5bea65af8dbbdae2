import MaskedInput.Document.Node

/-! Reading typed values from the tree of a document. Records are mappings from known names, each at
most once; a notation may also allow a record as the sequence of its fields. -/

namespace MaskedInput.Document

/-- What a reader has to know about the document around a node. -/
structure Context (φ : Type) where
  anchors : List (Nat × Node φ)
  recordsAsSequences : Bool

abbrev Reading (φ α : Type) := Except (Refusal φ) α

/-- Where a record stands. -/
structure Place where
  path : Path
  mark : Mark

def complain {φ α : Type} (cause : Cause) (path : Path) (mark : Mark) : Reading φ α :=
  .error (.complaint ⟨cause, path, mark⟩)

def refuse {φ α : Type} (fault : φ) : Reading φ α := .error (.fault fault)

namespace Context

variable {φ α σ : Type} (cx : Context φ)

/-- The node that a node stands for. -/
def resolve : Node φ → Node φ
  | .alias anchor => (cx.anchors.lookup anchor).getD (.alias anchor)
  | node => node

/-- Refuses a node where something else is wanted. -/
def mismatch (wanted : String) (path : Path) : Node φ → Reading φ α
  | .fault f => refuse f
  | .scalar s mark => complain (s.finding.cause wanted) path mark
  | .sequence _ mark => complain (.invalidType "sequence" wanted) path mark
  | .mapping _ mark => complain (.invalidType "map" wanted) path mark
  | .alias _ => complain (.invalidType "alias" wanted) path ⟨1, 1⟩

/-- A text, which `wanted` calls by its use. -/
def text (wanted : String) (path : Path) (node : Node φ) : Reading φ String :=
  match cx.resolve node with
  | .scalar s mark =>
    match s.text? with
    | some t => return t
    | none => mismatch wanted path (.scalar s mark)
  | other => mismatch wanted path other

def flag (path : Path) (node : Node φ) : Reading φ Bool :=
  match cx.resolve node with
  | .scalar s mark =>
    match s.flag? with
    | some b => return b
    | none => mismatch "a boolean" path (.scalar s mark)
  | other => mismatch "a boolean" path other

/-- A text that may be left out, in a record at a place. -/
def optionalText (record : Place) (path : Path) (node : Node φ) : Reading φ (Option String) :=
  match cx.resolve node with
  | .scalar s mark =>
    match s.presence with
    | .absent => return none
    | .present => some <$> cx.text "a string" path (.scalar s mark)
    | .mistagged shown wanted => complain (.invalidValue shown wanted) record.path record.mark
  | other => some <$> cx.text "a string" path other

/-! ### Sequences -/

/-- The elements of a sequence, numbered from `index`. -/
def elements (read : Path → Node φ → Reading φ α) (path : Path) (index : Nat) :
    Items φ → Reading φ (List α)
  | .close _ => return []
  | .cut fault _ => refuse fault
  | .item _ node rest => do
    let first ← read (.index index :: path) node
    return first :: (← elements read path (index + 1) rest)

def sequence (read : Path → Node φ → Reading φ α) (path : Path) (node : Node φ) :
    Reading φ (List α) :=
  match cx.resolve node with
  | .sequence items _ => elements read path 0 items
  | .scalar s mark => if s.isBlank then return [] else mismatch "a sequence" path (.scalar s mark)
  | other => mismatch "a sequence" path other

end Context

/-! ### Records -/

/-- A kind of record: its name in complaints, the names of its fields in order, and how the value of
a field goes into what was read so far. -/
structure RecordKind (φ σ : Type) where
  title : String
  fields : List String
  take : String → Place → Path → Node φ → σ → Reading φ σ

/-- How a record was written. -/
inductive RecordForm where
  | members
  | elements
  deriving Repr, DecidableEq

/-- A record that was read to its end: what was read, how it was written, and where it stands. -/
structure RecordRead (σ : Type) where
  state : σ
  form : RecordForm
  close : Place

namespace Context

variable {φ α σ : Type} (cx : Context φ)

/-- The members of a record; `seen` are the names used so far. -/
def members (kind : RecordKind φ σ) (place : Place) (seen : List String) (state : σ) :
    Members φ → Reading φ (σ × Mark)
  | .close mark => return (state, mark)
  | .cut fault => refuse fault
  | .member key repeated value rest => do
    let name ← cx.text "field identifier" place.path key
    let keyMark := match cx.resolve key with
      | .scalar _ mark => mark
      | _ => place.mark
    if name ∉ kind.fields then
      complain (.unknownField name kind.fields) place.path keyMark
    else if name ∈ seen then
      complain (.duplicateField name) place.path repeated
    else
      let step := match key with
        | .scalar _ _ => .key name
        | _ => .unnamed
      let state ← kind.take name place (step :: place.path) value state
      members kind place (name :: seen) state rest

/-- The fields of a record in order. -/
def fields (kind : RecordKind φ σ) (place : Place) (state : σ) :
    List String → Items φ → Reading φ (σ × Mark)
  | _, .close mark => return (state, mark)
  | [], .cut _ surplus => refuse surplus
  | [], .item surplus _ _ => refuse surplus
  | _ :: _, .cut fault _ => refuse fault
  | name :: names, .item _ node rest => do
    let state ← kind.take name place (.key name :: place.path) node state
    fields kind place state names rest

def record (kind : RecordKind φ σ) (path : Path) (start : σ) (node : Node φ) :
    Reading φ (RecordRead σ) :=
  match cx.resolve node with
  | .mapping ms mark => do
    let (state, close) ← cx.members kind ⟨path, mark⟩ [] start ms
    return ⟨state, .members, ⟨path, close⟩⟩
  | .sequence items mark =>
    if cx.recordsAsSequences then do
      let (state, close) ← fields kind ⟨path, mark⟩ start kind.fields items
      return ⟨state, .elements, ⟨path, close⟩⟩
    else mismatch kind.title path (.sequence items mark)
  | .scalar s mark =>
    if s.isBlank then return ⟨start, .members, ⟨path, mark⟩⟩
    else mismatch kind.title path (.scalar s mark)
  | other => mismatch kind.title path other

end Context

/-- Reads the root, and then sees to what follows it. -/
def read {φ α : Type} (d : Document φ) (recordsAsSequences : Bool)
    (read : Context φ → Node φ → Reading φ α) : Reading φ α := do
  let value ← read ⟨d.anchors, recordsAsSequences⟩ d.root
  match d.tail with
  | some fault => refuse fault
  | none => return value

end MaskedInput.Document
