import MaskedInput.Text.CodePoints

/-! What can be wrong with the contents of a document that is well formed: the cause, the path to
the value at fault, and the place in the text. -/

namespace MaskedInput

/-- A place in a text; lines and columns count as the notation of the text has it. -/
structure Mark where
  line : Nat
  column : Nat
  deriving Repr, DecidableEq

namespace Document

/-- A step from a value to one inside it. -/
inductive Step where
  | key (name : String)
  | index (position : Nat)
  | unnamed
  deriving Repr, DecidableEq

/-- The steps from the root to a value, the last one first. -/
abbrev Path := List Step

namespace Path

/-- Keys are joined by points, and an index follows in brackets. The path to the root is empty. -/
def text : Path → String
  | [] => ""
  | .index n :: outer => (if outer.isEmpty then "." else text outer) ++ s!"[{n}]"
  | .key name :: outer => joined (text outer) ++ name
  | .unnamed :: outer => joined (text outer) ++ "?"
where
  joined (outer : String) : String := if outer.isEmpty then "" else outer ++ "."

end Path

inductive Cause where
  | unknownField (name : String) (known : List String)
  | missingField (name : String)
  | duplicateField (name : String)
  | invalidType (found wanted : String)
  | invalidValue (found wanted : String)
  | invalidLength (length : Nat) (wanted : String)
  deriving Repr, DecidableEq

namespace Cause

def inTicks (name : String) : String := "`" ++ name ++ "`"

def expectation : List String → String
  | [] => "there are no fields"
  | [a] => "expected " ++ inTicks a
  | [a, b] => "expected " ++ inTicks a ++ " or " ++ inTicks b
  | names => "expected one of " ++ ", ".intercalate (names.map inTicks)

def message : Cause → String
  | .unknownField name known => "unknown field " ++ inTicks name ++ ", " ++ expectation known
  | .missingField name => "missing field " ++ inTicks name
  | .duplicateField name => "duplicate field " ++ inTicks name
  | .invalidType found wanted => s!"invalid type: {found}, expected {wanted}"
  | .invalidValue found wanted => s!"invalid value: {found}, expected {wanted}"
  | .invalidLength length wanted => s!"invalid length {length}, expected {wanted}"

end Cause

structure Complaint where
  cause : Cause
  path : Path
  mark : Mark
  deriving Repr, DecidableEq

/-- Why a document is refused: a complaint about its contents, or a fault of its notation. -/
inductive Refusal (φ : Type) where
  | complaint (complaint : Complaint)
  | fault (fault : φ)
  deriving Repr, DecidableEq

end Document

end MaskedInput
