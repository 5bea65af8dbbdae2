import MaskedInput.Field.TextField
import MaskedInput.Text.Octets

/-! A line of text under edit. Its caret stands between two characters or at an end of the text, so
it never exceeds the number of characters. The text itself is changed at the offset of a character
in its UTF-8 form. An operation that finds nothing to do gives `none`. -/

namespace MaskedInput

/-- An offset brought inside a text. -/
def Text.clamp (offset : Nat) (text : Text) : Nat := min offset text.length

structure LineBuffer where
  text : Text
  caret : Nat
  caret_le : caret ≤ text.length
  deriving Repr, DecidableEq

namespace LineBuffer

def empty : LineBuffer := ⟨[], 0, Nat.le_refl 0⟩

/-- A text with the caret behind its last character. -/
def ofText (text : Text) : LineBuffer := ⟨text, text.length, Nat.le_refl _⟩

/-- Writes a character at the caret, which steps over it. -/
def insert (b : LineBuffer) (c : Char) : LineBuffer where
  text := b.text.insertAt (b.text.offsetOf b.caret) (b.text.isBoundary_offsetOf b.caret) c
  caret := b.caret + 1
  caret_le := by
    have := b.caret_le
    simp only [Text.insertAt_offsetOf, List.length_append, List.length_take, List.length_cons,
      List.length_drop]
    omega

/-- Removes a character by its index and puts the caret in its place. -/
def remove (b : LineBuffer) (index : Nat) (h : index < b.text.length) : LineBuffer where
  text := b.text.removeAt (b.text.offsetOf index) (Text.isStart_offsetOf h)
  caret := index
  caret_le := by
    rw [Text.removeAt_offsetOf h, List.length_append, List.length_take, List.length_drop]
    omega

/-- Removes the character left of the caret. -/
def backspace? (b : LineBuffer) : Option LineBuffer :=
  if h : b.caret = 0 then none
  else some (b.remove (b.caret - 1) (by have := b.caret_le; omega))

/-- Removes the character right of the caret. -/
def delete? (b : LineBuffer) : Option LineBuffer :=
  if h : b.text.length ≤ b.caret then none
  else some (b.remove b.caret (Nat.lt_of_not_le h))

def left? (b : LineBuffer) : Option LineBuffer :=
  if b.caret = 0 then none
  else some { b with caret := b.caret - 1, caret_le := Nat.le_trans (Nat.sub_le ..) b.caret_le }

def right? (b : LineBuffer) : Option LineBuffer :=
  if h : b.text.length ≤ b.caret then none
  else some { b with caret := b.caret + 1, caret_le := Nat.lt_of_not_le h }

def home (b : LineBuffer) : LineBuffer := { b with caret := 0, caret_le := Nat.zero_le _ }

def toEnd (b : LineBuffer) : LineBuffer :=
  { b with caret := b.text.length, caret_le := Nat.le_refl _ }

def clear (_ : LineBuffer) : LineBuffer := empty

/-- Exchanges the text; the caret keeps its offset where the new text has it. -/
def setText (b : LineBuffer) (text : Text) : LineBuffer :=
  ⟨text, Text.clamp b.caret text, Nat.min_le_right ..⟩

def setCaret (b : LineBuffer) (offset : Nat) : LineBuffer :=
  { b with caret := Text.clamp offset b.text, caret_le := Nat.min_le_right .. }

instance : TextField LineBuffer where
  text := LineBuffer.text
  setText := setText
  caret? b := some b.caret
  setCaret := setCaret

theorem text_insert (b : LineBuffer) (c : Char) :
    (b.insert c).text = b.text.take b.caret ++ c :: b.text.drop b.caret :=
  Text.insertAt_offsetOf b.text b.caret c

theorem text_remove (b : LineBuffer) {index : Nat} (h : index < b.text.length) :
    (b.remove index h).text = b.text.take index ++ b.text.drop (index + 1) :=
  Text.removeAt_offsetOf h

end LineBuffer

end MaskedInput
