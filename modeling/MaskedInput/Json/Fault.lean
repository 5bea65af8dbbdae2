import MaskedInput.Document.Complaint

/-! Faults of the notation of JSON. Columns count the bytes of a line up to and including the one at
fault. -/

namespace MaskedInput.Json

inductive Cause where
  | endInValue
  | endInObject
  | endInList
  | endInString
  | valueExpected
  | identExpected
  | colonExpected
  | commaOrBraceExpected
  | commaOrBracketExpected
  | keyExpected
  | trailingComma
  | trailingCharacters
  | invalidNumber
  | numberOutOfRange
  | invalidEscape
  | loneSurrogate
  | endOfHexEscape
  | controlCharacter
  deriving Repr, DecidableEq

def Cause.message : Cause → String
  | .endInValue => "EOF while parsing a value"
  | .endInObject => "EOF while parsing an object"
  | .endInList => "EOF while parsing a list"
  | .endInString => "EOF while parsing a string"
  | .valueExpected => "expected value"
  | .identExpected => "expected ident"
  | .colonExpected => "expected `:`"
  | .commaOrBraceExpected => "expected `,` or `\x7d`"
  | .commaOrBracketExpected => "expected `,` or `]`"
  | .keyExpected => "key must be a string"
  | .trailingComma => "trailing comma"
  | .trailingCharacters => "trailing characters"
  | .invalidNumber => "invalid number"
  | .numberOutOfRange => "number out of range"
  | .invalidEscape => "invalid escape"
  | .loneSurrogate => "lone leading surrogate in hex escape"
  | .endOfHexEscape => "unexpected end of hex escape"
  | .controlCharacter => "control character (\\u0000-\\u001F) found while parsing a string"

structure Fault where
  cause : Cause
  mark : Mark
  deriving Repr, DecidableEq

def located (message : String) (mark : Mark) : String :=
  s!"{message} at line {mark.line} column {mark.column}"

def Fault.message (f : Fault) : String := located f.cause.message f.mark

/-- A refused document; complaints do without their path. -/
def refusalMessage : Document.Refusal Fault → String
  | .complaint c => located c.cause.message c.mark
  | .fault f => f.message

end MaskedInput.Json
