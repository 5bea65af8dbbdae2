import MaskedInput.Config.Reading
import MaskedInput.Json.Document

/-! Configurations written in JSON. A record may be written as the array of its fields. -/

namespace MaskedInput

def Config.ofJson (text : String) : Except Failure Config :=
  ((Json.document text).read true Document.Context.config).mapError .json

def MaskOptions.ofJson (text : String) : Except Failure MaskOptions :=
  ((Json.document text).read true Document.Context.maskOptions).mapError .json

end MaskedInput
