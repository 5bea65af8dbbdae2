import MaskedInput.Mask.CharClass

/-! The tokens of a mask. Each character of a definition stands for one token: four symbols are
placeholders and everything else is a literal separator. -/

namespace MaskedInput

inductive Token where
  | separator (literal : Char)
  | placeholder (charClass : CharClass)
  deriving Repr, DecidableEq

namespace CharClass

/-- The symbol that asks for a class in a mask definition. -/
def symbol : CharClass → Char
  | .digit => '9'
  | .lower => 'a'
  | .upper => 'A'
  | .any => '*'

def ofSymbol? : Char → Option CharClass
  | '9' => some .digit
  | 'a' => some .lower
  | 'A' => some .upper
  | '*' => some .any
  | _ => none

theorem ofSymbol?_symbol (k : CharClass) : ofSymbol? k.symbol = some k := by
  cases k <;> rfl

theorem ofSymbol?_eq_some_iff {c : Char} {k : CharClass} : ofSymbol? c = some k ↔ c = k.symbol := by
  constructor
  · intro h
    unfold ofSymbol? at h
    split at h <;> first | (cases h; rfl) | simp at h
  · rintro rfl
    exact ofSymbol?_symbol k

end CharClass

namespace Token

def ofChar (c : Char) : Token :=
  match CharClass.ofSymbol? c with
  | some k => .placeholder k
  | none => .separator c

/-- The character of the definition that a token stands for. -/
def toChar : Token → Char
  | .separator c => c
  | .placeholder k => k.symbol

def isSeparator : Token → Bool
  | .separator _ => true
  | .placeholder _ => false

def literal? : Token → Option Char
  | .separator c => some c
  | .placeholder _ => none

@[simp] theorem toChar_ofChar (c : Char) : (ofChar c).toChar = c := by
  unfold ofChar
  split
  · rename_i k h
    exact (CharClass.ofSymbol?_eq_some_iff.1 h).symm
  · rfl

end Token

end MaskedInput
