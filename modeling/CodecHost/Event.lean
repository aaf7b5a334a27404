import CodecHost.Error
import CodecHost.ModuleId

/-! What happens while the host works, in order: references to modules are opened
and closed, hooks run, and notices are written to the log. A run is described by
the sequence of its events. -/
namespace CodecHost

/-- One open reference on a native module: the number by which the loader knows
the reference, the identity of the module, and the path it was opened by. -/
structure Handle where
  number : Nat
  id : ModuleId
  path : Path
  deriving DecidableEq

inductive Level where
  | debug
  | info
  | warn
  | error
  deriving DecidableEq

/-- A level is recorded when it weighs at least as much as the threshold. -/
def Level.weight : Level → Nat
  | debug => 0
  | info => 1
  | warn => 2
  | error => 3

/-- The word that a log shows for a level. -/
def Level.name : Level → String
  | debug => "DEBUG"
  | info => "INFO"
  | warn => "WARN"
  | error => "ERROR"

/-- What the host writes to its log. -/
inductive Notice where
  | alreadyRegistered (kind : Kind) (name : String)
  | encoderRegistered (name : String) (priority : Int32)
  | decoderRegistered (name : String)
  | unregistered (kind : Kind) (name : String)
  | encoderNotRegistered (priority : Int32)
  | decoderNotRegistered
  | attached (id : ModuleId) (path : Path) (openCount : Nat)
  | loaded (kind : Option Kind) (path : Path) (id : ModuleId)
  | unloaded (id : ModuleId)
  | released (id : ModuleId) (openCount : Nat)
  | forceUnloaded (id : ModuleId) (references : Nat)
  | unreadableEntry (directory : Path) (cause : IoError)
  | untypedEntry (path : Path) (cause : IoError)
  | skipped (path : Path) (error : PluginError)
  | bufferFull (directory : Path) (capacity : Nat) (count : Nat)
  | scanned (count : Nat) (directory : Path)
  | contextCreated (encoders : Nat) (decoders : Nat)
  | initCounted (count : Nat)
  | deinitCounted (count : Nat)
  | deinitIgnored
  | directoryLoaded (count : Nat) (directory : Path)
  | tornDown (references : Nat)
  | droppedEarly (outstanding : Nat)
  | moduleOpened (path : Path) (id : ModuleId)
  | moduleNotOpened (path : Path) (diagnostic : String)
  | symbolNotFound (path : Path) (diagnostic : String)
  | moduleClosed (path : Path) (id : ModuleId)
  /-- A command was given a path that did not load. -/
  | pathFailed (error : Error)
  | distinctModules (count : Nat)
  deriving DecidableEq

/-- A kind at the start of a sentence. -/
def Kind.capitalized : Kind → String
  | encoder => "Encoder"
  | decoder => "Decoder"

namespace Notice

def level : Notice → Level
  | pathFailed .. => .error
  | loaded .. | unloaded .. | directoryLoaded .. => .info
  | unreadableEntry .. | untypedEntry .. | skipped .. | deinitIgnored | droppedEarly ..
  | moduleNotOpened .. | symbolNotFound .. => .warn
  | _ => .debug

def text : Notice → String
  | alreadyRegistered kind name => s!"{kind.capitalized} '{name}' already registered"
  | encoderRegistered name priority => s!"Registered encoder '{name}' (priority {priority})"
  | decoderRegistered name => s!"Registered decoder '{name}'"
  | unregistered kind name => s!"Unregistered {kind.name} '{name}'"
  | encoderNotRegistered priority => s!"Encoder {describeEncoder priority} is not registered"
  | decoderNotRegistered => s!"Decoder {describeDecoder} is not registered"
  | attached id path openCount =>
    s!"Attached to loaded module {id.display} via {path.display} (open count {openCount})"
  | loaded kind path id =>
    let name := match kind with
      | some k => k.name
      | none => ""
    s!"Loaded {name} plugin from {path.display} (handle {id.display})"
  | unloaded id => s!"Unloaded module {id.display}"
  | released id openCount => s!"Released module {id.display} (open count {openCount})"
  | forceUnloaded id references =>
    s!"Force-unloaded module {id.display} ({references} references)"
  | unreadableEntry directory cause =>
    s!"Error reading entry in {directory.display}: {cause.message}"
  | untypedEntry path cause => s!"Cannot stat {path.display}: {cause.message}"
  | skipped path error => s!"Skipping plugin {path.display}: {error.message}"
  | bufferFull directory capacity count =>
    s!"Output buffer for {directory.display} holds {capacity} of {count} loaded plugins"
  | scanned count directory => s!"Loaded {count} plugins from {directory.display}"
  | contextCreated encoders decoders =>
    s!"Plugin context created, {encoders} built-in encoders and {decoders} built-in decoders"
  | initCounted count => s!"init: count is now {count}"
  | deinitCounted count => s!"deinit: count is now {count}"
  | deinitIgnored => "deinit called more often than init; ignoring"
  | directoryLoaded count directory => s!"Loaded {count} plugins from {directory.display}"
  | tornDown references => s!"Teardown released {references} native module references"
  | droppedEarly outstanding =>
    s!"Plugin context dropped with {outstanding} outstanding init references"
  | moduleOpened path id => s!"Opened native module {path.display} (handle {id.display})"
  | moduleNotOpened path diagnostic =>
    s!"Failed to open native module {path.display}: {diagnostic}"
  | symbolNotFound path diagnostic => s!"Symbol lookup failed in {path.display}: {diagnostic}"
  | moduleClosed path id => s!"Closed native module {path.display} (handle {id.display})"
  | pathFailed error => error.message
  | distinctModules count => s!"{count} distinct modules loaded"

end Notice

/-- One thing that happened. -/
inductive Event where
  | opened (handle : Handle)
  | openFailed (path : Path) (diagnostic : String)
  /-- The loader was asked for the descriptor behind a handle. -/
  | resolved (handle : Handle) (answer : Except String Descriptor)
  | closed (handle : Handle)
  | initHook (plugin : Plugin)
  | endHook (plugin : Plugin)
  /-- The built-ins were asked to register for the given time, counted from zero. -/
  | builtins (round : Nat)
  | notice (n : Notice)

/-- The log entry in an event, if it is one. -/
def Event.notice? : Event → Option Notice
  | notice n => some n
  | _ => none

end CodecHost
