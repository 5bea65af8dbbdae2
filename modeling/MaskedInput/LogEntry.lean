import MaskedInput.Mask.Basic
import MaskedInput.Text.Quoted

/-! What masks and sessions have to report about their work, as data, and the wording of it. -/

namespace MaskedInput

inductive LogLevel where
  | debug
  | trace
  deriving Repr, DecidableEq

def LogLevel.name : LogLevel → String
  | .debug => "DEBUG"
  | .trace => "TRACE"

inductive LogEntry where
  | compiled (definition : Text) (tokens separators : Nat)
  | valueUnchanged (definition : Text)
  | valueReplaced (definition before after : Text) (caret : Nat)
  | fieldsLoaded (count : Nat) (path : String)
  deriving Repr, DecidableEq

namespace LogEntry

def level : LogEntry → LogLevel
  | .valueUnchanged _ => .trace
  | _ => .debug

def message : LogEntry → String
  | .compiled d tokens separators =>
    s!"compiled mask {Quoted.quote d}: {tokens} tokens, {separators} separators"
  | .valueUnchanged d => s!"mask {Quoted.quote d}: value unchanged"
  | .valueReplaced d before after caret =>
    s!"mask {Quoted.quote d}: {Quoted.quote before} -> {Quoted.quote after}, caret {caret}"
  | .fieldsLoaded count path => s!"loaded {count} field(s) from {Quoted.quote path.toList}"

end LogEntry

/-- The report of compiling a mask. -/
def Mask.compilation (m : Mask) : LogEntry :=
  .compiled m.definition m.pattern.tokens.length m.pattern.separators.length

end MaskedInput
