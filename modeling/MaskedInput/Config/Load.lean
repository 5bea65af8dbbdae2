import MaskedInput.Config.Json
import MaskedInput.Config.Yaml

/-! Configurations from files. -/

namespace MaskedInput

/-- Reads the configuration at a path, in the notation that its extension says: JSON for `json`, and
YAML for everything else. -/
def Config.load (read : FileReader) (path : String) : Except Failure Config :=
  match read path with
  | .error fault => .error (.unreadable path fault)
  | .ok text => if Path.hasExtension path "json" then ofJson text else ofYaml text

/-- The report of loading a configuration. -/
def Config.loading (c : Config) (path : String) : LogEntry := .fieldsLoaded c.fields.length path

end MaskedInput
