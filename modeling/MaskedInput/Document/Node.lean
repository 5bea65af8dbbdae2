import MaskedInput.Document.Complaint

/-! The tree of a document. A tree is built from a text up to the first fault of notation, which
takes the place of everything after it; so whoever walks the tree in order meets what is wrong with
the contents and what is wrong with the notation in the order in which they stand. -/

namespace MaskedInput.Document

/-- What a scalar is called in a complaint. `mistagged` is one whose text does not suit its tag. -/
inductive Finding where
  | kind (shown : String)
  | mistagged (shown wanted : String)
  deriving Repr, DecidableEq

def Finding.cause (wanted : String) : Finding → Cause
  | .kind shown => .invalidType shown wanted
  | .mistagged shown suited => .invalidValue shown suited

/-- What a scalar is where a value may be left out. -/
inductive Presence where
  | absent
  | present
  | mistagged (shown wanted : String)
  deriving Repr, DecidableEq

/-- What a scalar can stand for. -/
structure Scalar where
  text? : Option String
  flag? : Option Bool
  presence : Presence
  /-- Whether it stands for a collection without elements. -/
  isBlank : Bool
  finding : Finding
  deriving Repr, DecidableEq

mutual

/-- A value, with the place where a complaint about its kind points to. -/
inductive Node (φ : Type) where
  | fault (fault : φ)
  | alias (anchor : Nat)
  | scalar (scalar : Scalar) (mark : Mark)
  | sequence (items : Items φ) (mark : Mark)
  | mapping (members : Members φ) (mark : Mark)

/-- The rest of a sequence. Where the end is wanted instead, `surplus` is what is wrong. -/
inductive Items (φ : Type) where
  | close (mark : Mark)
  | cut (fault surplus : φ)
  | item (surplus : φ) (node : Node φ) (rest : Items φ)

/-- The rest of a mapping. A second use of a key is reported at `repeated`, a key that is missing at
the mark of the end. -/
inductive Members (φ : Type) where
  | close (mark : Mark)
  | cut (fault : φ)
  | member (key : Node φ) (repeated : Mark) (value : Node φ) (rest : Members φ)

end

end MaskedInput.Document

namespace MaskedInput

/-- A document: its root, the values that aliases stand for, and a fault after the root, if any. -/
structure Document (φ : Type) where
  root : Document.Node φ
  anchors : List (Nat × Document.Node φ)
  tail : Option φ

end MaskedInput
