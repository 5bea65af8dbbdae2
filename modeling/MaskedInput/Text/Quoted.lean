import MaskedInput.Text.VisibleTables

/-! Quoted text, as messages show it: in double quotes, with an escape for the quote, the backslash,
the common controls and every character that cannot be shown or that would join the one before. -/

namespace MaskedInput.Quoted

def isVisible (c : Char) : Bool :=
  !VisibleTables.extending.contains c.toNat && !VisibleTables.unprintable.contains c.toNat

/-- The digits of a number in base 16, lower case. -/
def hex (n : Nat) : List Char := Nat.toDigits 16 n

def escape (c : Char) : List Char :=
  match c with
  | '"' => ['\\', '"']
  | '\\' => ['\\', '\\']
  | '\n' => ['\\', 'n']
  | '\r' => ['\\', 'r']
  | '\t' => ['\\', 't']
  | '\x00' => ['\\', '0']
  | c => if isVisible c then [c] else ['\\', 'u', '\x7b'] ++ hex c.toNat ++ ['\x7d']

def quote (text : Text) : String :=
  String.ofList ('"' :: (text.flatMap escape ++ ['"']))

/-- Quoted texts in square brackets. -/
def quoteAll (texts : List String) : String :=
  "[" ++ ", ".intercalate (texts.map (quote ·.toList)) ++ "]"

end MaskedInput.Quoted
