import MaskedInput.Config.Reading
import MaskedInput.Yaml.Document

/-! Configurations written in YAML. -/

namespace MaskedInput

def Config.ofYaml (text : String) : Except Failure Config :=
  ((Yaml.document text).read false Document.Context.config).mapError .yaml

end MaskedInput
