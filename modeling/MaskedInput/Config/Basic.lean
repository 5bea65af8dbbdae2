import MaskedInput.Config.Failure
import MaskedInput.Prompt

/-! Configured fields and the prompts made from them. -/

namespace MaskedInput

structure FieldConfig where
  id : String
  label : Option String
  mask : Option String
  preset : Option String
  default : Option String
  caseSensitive : Bool
  deriving Repr, DecidableEq

structure Config where
  fields : List FieldConfig
  deriving Repr, DecidableEq

namespace FieldConfig

def options (f : FieldConfig) : MaskOptions := ⟨f.caseSensitive⟩

/-- The label, which is the identity where none is given. -/
def shownLabel (f : FieldConfig) : String := f.label.getD f.id

/-- A definition wins over a preset. -/
def resolve (f : FieldConfig) : Except Failure Mask :=
  match f.mask, f.preset with
  | some definition, _ => .ok (.compile definition.toList)
  | none, some name => Mask.named name
  | none, none => .error (.missingMask f.id)

def prompt (f : FieldConfig) : Except Failure Prompt := do
  let fresh := Prompt.new f.id f.shownLabel (← f.resolve) f.options
  return match f.default with
    | some value => fresh.withDefault value.toList
    | none => fresh

end FieldConfig

/-- One prompt per field, or the failure of the first field that has none. -/
def Config.prompts (c : Config) : Except Failure (List Prompt) := c.fields.mapM FieldConfig.prompt

end MaskedInput
