import MaskedInput.Document.Complaint

/-! Faults of the notation of YAML. -/

namespace MaskedInput.Yaml

inductive Fault where
  | forbiddenCharacter
  | token
  | misplaced
  | tag
  | unknownAnchor
  | furtherDocument
  deriving Repr, DecidableEq

/-- A complaint names its path, and its place unless that is the start of the text. -/
def complaintMessage (c : Document.Complaint) : String :=
  let path := c.path.text
  (if path.isEmpty then "" else path ++ ": ") ++ c.cause.message
    ++ (if c.mark = ⟨1, 1⟩ then "" else s!" at line {c.mark.line} column {c.mark.column}")

end MaskedInput.Yaml
