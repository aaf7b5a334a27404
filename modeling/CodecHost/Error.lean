import CodecHost.IoError
import CodecHost.Path
import CodecHost.Plugin

/-! What can go wrong, by cause. The wording of every message, and the code and
subcode reported beside it, are each given in one place. -/
namespace CodecHost

/-- Why a module or a descriptor cannot be used as a plugin. -/
inductive LoadFault where
  /-- The loader's own diagnostic. -/
  | reported (diagnostic : String)
  /-- The module's info block names no function table of a known kind. -/
  | noFunctionTable (version : Int32)
  /-- A descriptor that was handed in directly names no function table. -/
  | unusableDescriptor (kind : Option Kind)
  deriving DecidableEq

def LoadFault.text : LoadFault → String
  | reported diagnostic => diagnostic
  | noFunctionTable version =>
    s!"plugin_info has unknown plugin type or a null plugin table (version {version})"
  | unusableDescriptor kind => s!"descriptor {describeDescriptor kind} has no usable plugin table"

/-- Failures of loading, unloading, registering and scanning. -/
inductive PluginError where
  | loadFailure (path : Path) (fault : LoadFault)
  | notLoaded
  | unreadableDirectory (path : Path) (cause : IoError)
  | unsupportedVersion (plugin : String) (version : Int32)
  | unsupportedFeature
  deriving DecidableEq

def PluginError.message : PluginError → String
  | loadFailure path fault => s!"Cannot open plugin '{path.display}': {fault.text}"
  | notLoaded => "Trying to remove a plugin that is not loaded"
  | unreadableDirectory path cause =>
    s!"Cannot read plugin directory '{path.display}': {cause.message}"
  | unsupportedVersion plugin version =>
    s!"Plugin '{plugin}' uses unsupported plugin API version {version}"
  | unsupportedFeature => "Plugins are not supported"

/-- Failures of reading a configuration. -/
inductive ConfigError where
  | unreadable (path : Path) (cause : IoError)
  | unsupportedFormat (path : Path)
  | malformed (format : String) (diagnostic : String)
  deriving DecidableEq

def ConfigError.message : ConfigError → String
  | unreadable path cause => s!"I/O error reading config '{path.display}': {cause.message}"
  | unsupportedFormat path => s!"Unsupported configuration format for path: {path.display}"
  | malformed format diagnostic => s!"Deserialization from '{format}' failed: {diagnostic}"

/-- A failure of either kind. -/
inductive Error where
  | plugin (e : PluginError)
  | config (e : ConfigError)
  deriving DecidableEq

/-- The wide category of a failure. -/
inductive ErrorCode where
  | ok
  | unsupportedFeature
  | usageError
  | pluginLoadingError
  deriving DecidableEq

def ErrorCode.number : ErrorCode → Nat
  | ok => 0
  | unsupportedFeature => 4
  | usageError => 5
  | pluginLoadingError => 6

def ErrorCode.name : ErrorCode → String
  | ok => "Ok"
  | unsupportedFeature => "UnsupportedFeature"
  | usageError => "UsageError"
  | pluginLoadingError => "PluginLoadingError"

/-- The detail within a category. -/
inductive SubCode where
  | unspecified
  | unsupportedPluginVersion
  | pluginLoadingError
  | pluginIsNotLoaded
  | cannotReadPluginDirectory
  deriving DecidableEq

def SubCode.number : SubCode → Nat
  | unspecified => 0
  | unsupportedPluginVersion => 3004
  | pluginLoadingError => 6000
  | pluginIsNotLoaded => 6001
  | cannotReadPluginDirectory => 6002

def SubCode.name : SubCode → String
  | unspecified => "Unspecified"
  | unsupportedPluginVersion => "UnsupportedPluginVersion"
  | pluginLoadingError => "PluginLoadingError"
  | pluginIsNotLoaded => "PluginIsNotLoaded"
  | cannotReadPluginDirectory => "CannotReadPluginDirectory"

namespace PluginError

def code : PluginError → ErrorCode
  | loadFailure _ _ | notLoaded | unreadableDirectory _ _ => .pluginLoadingError
  | unsupportedVersion _ _ => .usageError
  | unsupportedFeature => .unsupportedFeature

def subcode : PluginError → SubCode
  | loadFailure _ _ => .pluginLoadingError
  | notLoaded => .pluginIsNotLoaded
  | unreadableDirectory _ _ => .cannotReadPluginDirectory
  | unsupportedVersion _ _ => .unsupportedPluginVersion
  | unsupportedFeature => .unspecified

/-- The message of the failure underneath, if there is one. -/
def cause? : PluginError → Option String
  | unreadableDirectory _ cause => some cause.message
  | _ => none

end PluginError

/-- The message of the failure underneath, if there is one. -/
def ConfigError.cause? : ConfigError → Option String
  | unreadable _ cause => some cause.message
  | unsupportedFormat _ => none
  | malformed _ diagnostic => some diagnostic

namespace Error

def message : Error → String
  | plugin e => s!"Plugin system error: {e.message}"
  | config e => s!"Configuration error: {e.message}"

/-- A configuration that cannot be read is a usage error. -/
def code : Error → ErrorCode
  | plugin e => e.code
  | config _ => .usageError

def subcode : Error → SubCode
  | plugin e => e.subcode
  | config _ => .unspecified

/-- The message without the words that say which part failed. -/
def innerMessage : Error → String
  | plugin e => e.message
  | config e => e.message

def cause? : Error → Option String
  | plugin e => e.cause?
  | config e => e.cause?

end Error
end CodecHost
