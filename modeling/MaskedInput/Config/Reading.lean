import MaskedInput.Config.Basic
import MaskedInput.Document.Reader

/-! The records of a configuration document. -/

namespace MaskedInput

open Document

/-- A field of which some members were read. -/
structure FieldDraft where
  id : Option String := none
  label : Option String := none
  mask : Option String := none
  preset : Option String := none
  default : Option String := none
  caseSensitive : Bool := false

namespace Document.Context

variable {φ : Type} (cx : Context φ)

def fieldKind : RecordKind φ FieldDraft where
  title := "struct FieldConfig"
  fields := ["id", "label", "mask", "preset", "default", "case_sensitive"]
  take name place path node draft :=
    match name with
    | "id" => return { draft with id := some (← cx.text "a string" path node) }
    | "label" => return { draft with label := ← cx.optionalText place path node }
    | "mask" => return { draft with mask := ← cx.optionalText place path node }
    | "preset" => return { draft with preset := ← cx.optionalText place path node }
    | "default" => return { draft with default := ← cx.optionalText place path node }
    | _ => return { draft with caseSensitive := ← cx.flag path node }

def field (path : Path) (node : Node φ) : Reading φ FieldConfig := do
  let r ← cx.record cx.fieldKind path {} node
  match r.state.id with
  | some id =>
    let d := r.state
    return ⟨id, d.label, d.mask, d.preset, d.default, d.caseSensitive⟩
  | none =>
    let cause := match r.form with
      | .members => .missingField "id"
      | .elements => .invalidLength 0 "struct FieldConfig with 6 elements"
    complain cause r.close.path r.close.mark

def configKind : RecordKind φ Config where
  title := "struct Config"
  fields := ["fields"]
  take _ _ path node _ := return ⟨← cx.sequence cx.field path node⟩

def config (node : Node φ) : Reading φ Config :=
  return (← cx.record cx.configKind [] ⟨[]⟩ node).state

def optionsKind : RecordKind φ MaskOptions where
  title := "struct MaskOptions"
  fields := ["case_sensitive"]
  take _ _ path node _ := return ⟨← cx.flag path node⟩

def maskOptions (node : Node φ) : Reading φ MaskOptions :=
  return (← cx.record cx.optionsKind [] ⟨false⟩ node).state

end Document.Context

end MaskedInput
