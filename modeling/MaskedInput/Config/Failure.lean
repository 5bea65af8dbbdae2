import MaskedInput.Files
import MaskedInput.Json.Fault
import MaskedInput.Mask.Basic
import MaskedInput.Text.Quoted
import MaskedInput.Yaml.Fault

/-! Everything that keeps fields from being shown, and the wording of it. -/

namespace MaskedInput

inductive Failure where
  | unknownPreset (name : String)
  | missingMask (id : String)
  | unreadable (path : String) (fault : ReadFault)
  | json (refusal : Document.Refusal Json.Fault)
  | yaml (refusal : Document.Refusal Yaml.Fault)
  | noTerminal
  deriving Repr, DecidableEq

namespace Failure

/-- The words of a failure. Those on a fault in the notation of YAML are up to the reader of the
notation, and only what stands before them is given. -/
def message : Failure → String
  | .unknownPreset name =>
    s!"unknown preset {Quoted.quote name.toList}, use any of {Quoted.quoteAll Mask.presetNames}"
  | .missingMask id => s!"field {Quoted.quote id.toList} needs either a mask or a preset"
  | .unreadable path fault =>
    s!"failed to read config file {Quoted.quote path.toList}: {fault.message}"
  | .json refusal => s!"failed to parse json: {Json.refusalMessage refusal}"
  | .yaml (.complaint c) => s!"failed to parse yaml: {Yaml.complaintMessage c}"
  | .yaml (.fault _) => "failed to parse yaml"
  | .noTerminal => "No such device or address (os error 6)"

end Failure

/-- The mask that goes by a name. -/
def Mask.named (name : String) : Except Failure Mask :=
  match Mask.preset? name with
  | some m => .ok m
  | none => .error (.unknownPreset name)

end MaskedInput
