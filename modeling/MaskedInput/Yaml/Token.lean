import MaskedInput.Yaml.Cursor

/-! The tokens of YAML. -/

namespace MaskedInput.Yaml

inductive ScalarStyle where
  | plain
  | literal
  | other
  deriving Repr, DecidableEq

inductive Token where
  | versionDirective (major minor : Nat)
  | tagDirective (handle expansion : String)
  | documentStart
  | documentEnd
  | blockSequenceStart
  | blockMappingStart
  | blockEnd
  | flowSequenceStart
  | flowSequenceEnd
  | flowMappingStart
  | flowMappingEnd
  | blockEntry
  | flowEntry
  | key
  | value
  | alias (name : String)
  | anchor (name : String)
  | tag (handle suffix : String)
  | scalar (text : String) (style : ScalarStyle)
  | endOfText
  | fault (fault : Fault)
  deriving Repr, DecidableEq

/-- A token and the places where it starts and ends. -/
structure Lexeme where
  token : Token
  start : Position
  finish : Position
  deriving Repr, DecidableEq

end MaskedInput.Yaml
