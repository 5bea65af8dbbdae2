import MaskedInput.Mask.Formatted

/-! Where the caret goes after an edit. The anchor is the offset just before the character that was
typed; the caret lands behind that character and behind the separators that follow it, and never
beyond the new value. -/

namespace MaskedInput

/-- Offsets are words of 64 bits; the one after the last is the last. -/
def maxOffset : Nat := UInt64.size - 1

namespace Caret

def after (anchor : Nat) : Nat := min (anchor + 1) maxOffset

/-- Moves a caret that stands behind a separator to the end of the run of separators. -/
def skipSeparators (tokens : List Token) (caret : Nat) : Nat :=
  match caret with
  | 0 => 0
  | before + 1 => before + 1 + ((tokens.drop before).takeWhile Token.isSeparator).length

def repaired (tokens : List Token) (anchor : Option Nat) (value : Text) : Nat :=
  min (skipSeparators tokens (anchor.elim 0 after)) value.length

end Caret

/-- What an edit makes of a field: nothing, or a new text and caret to write back. -/
inductive Outcome where
  | unchanged
  | reformatted (value : Text) (caret : Nat)
  deriving Repr, DecidableEq

namespace Pattern

/-- A text that equals the one before it needs no new layout. -/
def apply (p : Pattern) (caseSensitive : Bool) (previous current : Text) (anchor : Option Nat) :
    Outcome :=
  if current = previous then .unchanged
  else
    let value := (p.format caseSensitive current).value
    .reformatted value (Caret.repaired p.tokens anchor value)

end Pattern

end MaskedInput
