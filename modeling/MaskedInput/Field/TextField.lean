import MaskedInput.Mask.Caret

/-! What a mask session asks of the field it serves: a text to read and write, and a caret to write
and, where the field knows it, to read. -/

namespace MaskedInput

class TextField (φ : Type) where
  text : φ → Text
  setText : φ → Text → φ
  /-- The offset of the caret; without one, the caret is taken to be at the end of the text. -/
  caret? : φ → Option Nat
  setCaret : φ → Nat → φ

/-- A field that stores whatever caret it is given and reports none. -/
structure SilentField where
  text : Text
  stored : Option Nat := none
  deriving Repr, DecidableEq

instance : TextField SilentField where
  text := SilentField.text
  setText f t := { f with text := t }
  caret? _ := none
  setCaret f n := { f with stored := some n }

/-- A field that reports the caret it was given last, inside its text or not. -/
structure LooseField where
  text : Text
  stored : Option Nat := none
  deriving Repr, DecidableEq

instance : TextField LooseField where
  text := LooseField.text
  setText f t := { f with text := t }
  caret? := LooseField.stored
  setCaret f n := { f with stored := some n }

end MaskedInput
