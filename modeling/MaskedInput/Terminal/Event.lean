import MaskedInput.Terminal.Key

/-! What happens at a terminal, and the part of it that a program has to answer. -/

namespace MaskedInput

/-- Anything a terminal may report. A key that is held down is pressed again and again. -/
inductive Signal where
  | press (key : Key)
  | release (key : Key)
  | resize
  | focus
  | mouse
  | paste
  deriving Repr, DecidableEq

/-- A report that is acted on. -/
inductive Event where
  | key (key : Key)
  | resize
  deriving Repr, DecidableEq

namespace Signal

def event? : Signal → Option Event
  | .press k => some (.key k)
  | .resize => some .resize
  | .release _ | .focus | .mouse | .paste => none

/-- The events among some signals, in order. -/
def events (signals : List Signal) : List Event := signals.filterMap event?

end Signal

end MaskedInput
