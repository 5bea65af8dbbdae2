/-! Keys as a terminal delivers them: what was pressed, and the modifiers held with it. -/

namespace MaskedInput

inductive KeyCode where
  | char (c : Char)
  | backspace
  | delete
  | enter
  | escape
  | left
  | right
  | home
  | toEnd
  | other
  deriving Repr, DecidableEq

/-- A set of modifiers. -/
structure Modifiers where
  shift : Bool := false
  control : Bool := false
  alt : Bool := false
  deriving Repr, DecidableEq

namespace Modifiers

def none : Modifiers := {}

def insert (a b : Modifiers) : Modifiers :=
  ⟨a.shift || b.shift, a.control || b.control, a.alt || b.alt⟩

/-- Whether every modifier of `b` is in `a`. -/
def contains (a b : Modifiers) : Bool :=
  (!b.shift || a.shift) && (!b.control || a.control) && (!b.alt || a.alt)

end Modifiers

structure Key where
  code : KeyCode
  modifiers : Modifiers := .none
  deriving Repr, DecidableEq

namespace Key

def plain (code : KeyCode) : Key := { code }

def isControl (k : Key) : Bool := k.modifiers.contains { control := true }

end Key

end MaskedInput
