import CodecHost.Config.Format
import CodecHost.Config.Json
import CodecHost.Config.Toml
import CodecHost.Config.Yaml

/-! Reading a configuration from a text and from a file. The format comes first: a
path without a known extension is refused before anything is read. -/
namespace CodecHost.Config

/-- The settings that a text holds in a format. -/
def parse? (format : ConfigFormat) (text : String) : Option Config :=
  match format with
  | .json => Json.config? text
  | .yaml => Yaml.config? text
  | .toml => Toml.config? text

/-- As `parse?`, with the failure that is reported. The parser's own words about it
are not part of the report. -/
def parse (format : ConfigFormat) (text : String) : Except ConfigError Config :=
  match parse? format text with
  | some config => .ok config
  | none => .error (.malformed format.extension "")

/-- The text of a file. -/
def readText (read : Path → Except IoError Bytes) (path : Path) : Except IoError String :=
  match read path with
  | .error cause => .error cause
  | .ok bytes =>
    match Utf8.decode? bytes with
    | some text => .ok text
    | none => .error .notText

/-- The settings in a file. -/
def load (read : Path → Except IoError Bytes) (path : Path) : Except ConfigError Config :=
  match ConfigFormat.ofPath? path with
  | none => .error (.unsupportedFormat path)
  | some format =>
    match readText read path with
    | .error cause => .error (.unreadable path cause)
    | .ok text => parse format text

end CodecHost.Config
