import CodecHost.Error
import CodecHost.SearchPath
import CodecHost.Text.Quoted

/-! A configuration says where plugins are searched for: a list of directories,
and a directory to use when no list says otherwise. -/
namespace CodecHost

/-- The settings that a configuration file holds. -/
structure Config where
  pluginDirectories : List Path
  defaultDirectory : Option Path
  deriving DecidableEq

/-- The settings of a file that says nothing. -/
def Config.empty : Config := ⟨[], none⟩

/-- The environment variable that holds the search path by default. -/
def searchPathVariable : String := "CODECPLUG_PLUGIN_PATH"

/-- The directory that is scanned when none is configured. -/
def standardDirectory : Path := .ofString "/usr/local/lib/codecplug/plugins"

/-- Where the list of search directories comes from. A variable is read anew each
time. -/
inductive PathSource where
  | fixed (directories : List Path)
  | environment (name : String)
  deriving DecidableEq

/-- A variable that is not set lists no directory. -/
def PathSource.directories (lookup : String → Option Bytes) : PathSource → List Path
  | fixed directories => directories
  | environment name =>
    match lookup name with
    | some value => SearchPath.parse value
    | none => []

/-- The source of directories that a configuration is. -/
def Config.source (c : Config) : PathSource := .fixed c.pluginDirectories

/-- The directories to scan: those of the source, or else the default one, but
never both. -/
def PathSource.orDefault (lookup : String → Option Bytes) (source : PathSource)
    (default : Path) : List Path :=
  match source.directories lookup with
  | [] => [default]
  | first :: rest => first :: rest

/-- The source that reads a variable, as diagnostics describe it. -/
def describeEnvironment (name : String) : String :=
  s!"EnvPluginPaths \x7b var: {Quoted.text name} \x7d"

end CodecHost
