import MaskedInput.Form

/-! The answers of a form as JSON text, one member to a line. -/

namespace MaskedInput.Json

def hexDigits : List Char := "0123456789abcdef".toList

/-- A character inside a string. Only the quote, the backslash and controls are escaped. -/
def escaped (c : Char) : List Char :=
  match c with
  | '"' => ['\\', '"']
  | '\\' => ['\\', '\\']
  | '\x08' => ['\\', 'b']
  | '\x0c' => ['\\', 'f']
  | '\n' => ['\\', 'n']
  | '\r' => ['\\', 'r']
  | '\t' => ['\\', 't']
  | c =>
    if c.toNat < 0x20 then
      ['\\', 'u', '0', '0', hexDigits.getD (c.toNat / 16) '0', hexDigits.getD (c.toNat % 16) '0']
    else [c]

def string (t : Text) : List Char := '"' :: (t.flatMap escaped ++ ['"'])

def answerLine (a : String × Text) : List Char :=
  [' ', ' '] ++ string a.1.toList ++ [':', ' '] ++ string a.2

/-- The text of some answers, in their order. -/
def ofAnswers (answers : Answers) : String :=
  match answers with
  | [] => "\x7b\x7d"
  | answers =>
    String.ofList (['\x7b', '\n'] ++ List.intercalate [',', '\n'] (answers.map answerLine)
      ++ ['\n', '\x7d'])

end MaskedInput.Json
