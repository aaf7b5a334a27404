import CodecHost.Config
import CodecHost.Text.LowerCase

/-! The format of a configuration file is told by the extension of its path, upper
or lower case. -/
namespace CodecHost

inductive ConfigFormat where
  | json
  | yaml
  | toml
  deriving DecidableEq

namespace ConfigFormat

/-- The extension that the format goes by. -/
def extension : ConfigFormat → String
  | json => "json"
  | yaml => "yaml"
  | toml => "toml"

def ofExtension? (ext : String) : Option ConfigFormat :=
  match ext with
  | "json" => some json
  | "yaml" | "yml" => some yaml
  | "toml" => some toml
  | _ => none

/-- An extension that is not text names no format. -/
def ofPath? (path : Path) : Option ConfigFormat := do
  let ext ← path.extension?
  let text ← Utf8.decode? ext
  ofExtension? (LowerCase.text text)

end ConfigFormat
end CodecHost
