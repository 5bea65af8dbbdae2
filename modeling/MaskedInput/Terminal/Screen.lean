import MaskedInput.Text.Width

/-! What is drawn on a terminal: lines of coloured spans with the cursor in a column, and the
control sequences that draw them. -/

namespace MaskedInput

inductive Color where
  | cyan
  | darkGrey
  | red
  deriving Repr, DecidableEq

/-- The number of a colour in the palette of 256. -/
def Color.index : Color → Nat
  | .cyan => 14
  | .darkGrey => 8
  | .red => 9

structure Span where
  text : Text
  color : Option Color := none
  deriving Repr, DecidableEq

/-- A line on the screen. The cursor column counts from 0. -/
structure Line where
  spans : List Span
  cursor : Nat
  deriving Repr, DecidableEq

/-- One action on the screen: the current line is drawn anew, or left for the next one. -/
inductive Drawing where
  | line (line : Line)
  | lineBreak
  deriving Repr, DecidableEq

namespace Span

def width (s : Span) : Nat := s.text.width

def sequence (s : Span) : String :=
  match s.color with
  | some c => s!"\x1b[38;5;{c.index}m" ++ String.ofList s.text ++ "\x1b[0m"
  | none => String.ofList s.text

end Span

namespace Line

/-- The last column that can be addressed. -/
def lastColumn : Nat := 65535

def sequence (l : Line) : String :=
  "\x1b[1G\x1b[2K" ++ String.join (l.spans.map Span.sequence)
    ++ s!"\x1b[{min l.cursor lastColumn + 1}G"

end Line

namespace Drawing

def sequence : Drawing → String
  | .line l => l.sequence
  | .lineBreak => "\r\n"

end Drawing

end MaskedInput
