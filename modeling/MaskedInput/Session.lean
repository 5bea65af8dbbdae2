import MaskedInput.Field.LineBuffer
import MaskedInput.LogEntry

/-! A mask at work on a field. A session remembers the text it saw last; told that the field may
have changed, it lays a new text out and writes the result and a repaired caret back. -/

namespace MaskedInput

structure Session where
  mask : Mask
  lastValue : Text
  caseSensitive : Bool
  deriving Repr

namespace Session

variable {φ : Type} [TextField φ]

/-- A session that has not seen any text. -/
def unseeded (mask : Mask) (options : MaskOptions) : Session :=
  ⟨mask, [], options.caseSensitive⟩

/-- A session that starts from the text of a field. -/
def attach (field : φ) (mask : Mask) (options : MaskOptions) : Session :=
  { unseeded mask options with lastValue := TextField.text field }

def options (s : Session) : MaskOptions := ⟨s.caseSensitive⟩

/-- Changes the mask; the text seen last stays. -/
def setMask (s : Session) (definition : Text) : Session :=
  if s.mask.definition = definition then s else { s with mask := .compile definition }

/-- What the session makes of the present state of a field. -/
def outcome (s : Session) (field : φ) : Outcome :=
  let current := TextField.text field
  let caret := (TextField.caret? field).getD current.length
  s.mask.pattern.apply s.caseSensitive s.lastValue current
    (if caret = 0 then none else some (caret - 1))

/-- Tells the session that the field may have changed. The flag says whether anything was written
back: first the text, then the caret. -/
def notify (s : Session) (field : φ) : Bool × Session × φ :=
  match s.outcome field with
  | .unchanged => (false, s, field)
  | .reformatted value caret =>
    (true, { s with lastValue := value },
      TextField.setCaret (TextField.setText field value) caret)

/-! ### Reports -/

def setMaskLog (s : Session) (definition : Text) : List LogEntry :=
  if s.mask.definition = definition then [] else [(Mask.compile definition).compilation]

def notifyLog (s : Session) (field : φ) : LogEntry :=
  match s.outcome field with
  | .unchanged => .valueUnchanged s.mask.definition
  | .reformatted value caret =>
    .valueReplaced s.mask.definition (TextField.text field) value caret

end Session

end MaskedInput
