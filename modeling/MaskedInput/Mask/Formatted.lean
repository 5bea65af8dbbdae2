import MaskedInput.Mask.Pattern

/-! Laying a raw text out on a pattern. The text loses its separators; then the tokens take what is
left in order, a separator by writing its literal and a placeholder by skipping to the first
character of its class. The layout ends where the input does. -/

namespace MaskedInput

structure Formatted where
  value : Text
  /-- How many placeholders took a character. -/
  filled : Nat
  deriving Repr, DecidableEq

namespace Formatted

def empty : Formatted := ⟨[], 0⟩

def writeLiteral (c : Char) (f : Formatted) : Formatted := ⟨c :: f.value, f.filled⟩

def writeTaken (c : Char) (f : Formatted) : Formatted := ⟨c :: f.value, f.filled + 1⟩

/-- The layout of an input without separators. -/
def layOut (caseSensitive : Bool) : List Token → Text → Formatted
  | [], _ => empty
  | _, [] => empty
  | .separator l :: tokens, c :: input => (layOut caseSensitive tokens (c :: input)).writeLiteral l
  | .placeholder k :: tokens, c :: input =>
    match (c :: input).dropWhile (!k.accepts caseSensitive ·) with
    | [] => empty
    | taken :: rest => (layOut caseSensitive tokens rest).writeTaken taken

/-- Without any input character, the literals in front of the first one are not shown either. -/
def settle (f : Formatted) : Formatted := if f.filled = 0 then empty else f

end Formatted

namespace Pattern

def format (p : Pattern) (caseSensitive : Bool) (raw : Text) : Formatted :=
  (Formatted.layOut caseSensitive p.tokens (p.strip raw)).settle

end Pattern

end MaskedInput
