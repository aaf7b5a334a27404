import CodecHost.Config
import CodecHost.Host

/-! A context is the plugin state of a whole program: a host, and a count of the
clients that have initialized it. Built-in plugins are active from the start.
The first client brings in every module of the search path, and when the last
client leaves, everything is unregistered and every reference is given back. -/
namespace CodecHost

/-- Plugins that come with the program. The routine that registers them may do
something else each time: `round n` is what it registers at its call number `n`,
in order, where `none` makes the call fail. -/
structure Builtins where
  round : Nat → List (Option Descriptor)

/-- A routine that follows a list of rounds and then repeats the last one. -/
def Builtins.ofRounds (rounds : List (List (Option Descriptor))) : Builtins :=
  ⟨fun n => (rounds[n]?).getD (rounds.getLast?.getD [])⟩

/-- What stays the same through the life of a context. -/
structure Settings where
  builtins : Option Builtins
  source : PathSource
  defaultDirectory : Path

namespace Settings

/-- No built-ins, and the search path that the environment gives. -/
def standard : Settings := ⟨none, .environment searchPathVariable, standardDirectory⟩

/-- A configuration replaces the source of directories, and the default directory
only when it names one. -/
def withConfig (s : Settings) (c : Config) : Settings :=
  { s with source := c.source, defaultDirectory := c.defaultDirectory.getD s.defaultDirectory }

end Settings

structure Context (σ : Type) where
  host : Host σ
  /-- Clients that have initialized the context and not left it. -/
  initCount : Nat
  builtinsRegistered : Bool
  /-- How often the built-ins have been asked to register. -/
  builtinRounds : Nat

namespace Context

variable {σ α : Type} (S : Surroundings σ) (settings : Settings)

def fresh (system : σ) : Context σ := ⟨.fresh system, 0, false, 0⟩

def registry (c : Context σ) : Registry := c.host.registry

def modules (c : Context σ) : ModuleTable := c.host.modules

/-- An action of the host inside the context. -/
def onHost (a : Action (Host σ) α) : Action (Context σ) α :=
  Action.focus Context.host (fun host c => { c with host }) a

/-- Registers descriptors in order and stops at the first that fails. -/
def registerEach : List (Option Descriptor) → Action (Host σ) (Except PluginError Unit)
  | [] => pure (.ok ())
  | none :: _ => pure (.error .unsupportedFeature)
  | some d :: rest => do
    match ← Host.onRegistry S fun m => Registry.register m d with
    | .error e => pure (.error e)
    | .ok () => registerEach rest

/-- Asks the built-ins to register. -/
def registerBuiltins : Action (Context σ) (Except PluginError Unit) :=
  match settings.builtins with
  | none => pure (.ok ())
  | some builtins => do
    let c ← Action.get
    Action.modify fun c => { c with builtinRounds := c.builtinRounds + 1 }
    Action.emit [.builtins c.builtinRounds]
    onHost (registerEach S (builtins.round c.builtinRounds))

/-- Registers the built-ins and notes that they are active. -/
def activateBuiltins : Action (Context σ) (Except PluginError Unit) := do
  match ← registerBuiltins S settings with
  | .error e => pure (.error e)
  | .ok () =>
    Action.modify fun c => { c with builtinsRegistered := true }
    pure (.ok ())

/-- Brings a fresh context to life. When the built-ins fail there is no context. -/
def start : Action (Context σ) (Except PluginError Unit) := do
  match ← activateBuiltins S settings with
  | .error e => pure (.error e)
  | .ok () =>
    let c ← Action.get
    Action.note (.contextCreated c.registry.encoders.length c.registry.decoders.length)
    pure (.ok ())

/-- Builds a context on a system. -/
def build (system : σ) : Step (Context σ) (Except PluginError Unit) :=
  (start S settings).run (fresh system)

/-- Loads every module of the given directories, up to the first directory that
cannot be opened. -/
def loadDirectories : List Path → Action (Context σ) (Except PluginError Unit)
  | [] => pure (.ok ())
  | directory :: rest => do
    match ← onHost (Host.loadDirectory S directory none) with
    | (.error e, _) => pure (.error e)
    | (.ok count, _) =>
      Action.note (.directoryLoaded count directory)
      loadDirectories rest

/-- Loads every module of the search path. -/
def loadSearchPath : Action (Context σ) (Except PluginError Unit) := do
  let c ← Action.get
  loadDirectories S (settings.source.orDefault (S.lookup c.host.system) settings.defaultDirectory)

/-- One more client. The first one brings the built-ins back, if a teardown has
taken them away, and loads the search path. A client is counted even when that
fails. -/
def init : Action (Context σ) (Except PluginError Unit) := do
  Action.modify fun c => { c with initCount := c.initCount + 1 }
  let c ← Action.get
  Action.note (.initCounted c.initCount)
  if c.initCount = 1 then
    if c.builtinsRegistered then loadSearchPath S settings
    else
      match ← activateBuiltins S settings with
      | .error e => pure (.error e)
      | .ok () => loadSearchPath S settings
  else pure (.ok ())

/-- Unregisters everything and gives every reference back. Decoders go first. -/
def teardown : Action (Context σ) Unit := do
  onHost (Host.onRegistry S Registry.unregisterAllDecoders)
  onHost (Host.onRegistry S Registry.unregisterAllEncoders)
  Action.modify fun c => { c with builtinsRegistered := false }
  let released ← onHost (Host.unloadAll S)
  Action.note (.tornDown released)

/-- One client less. The last one to leave tears everything down; a call without
a client is ignored. -/
def deinit : Action (Context σ) Unit := do
  let c ← Action.get
  if c.initCount = 0 then Action.note .deinitIgnored
  else
    Action.modify fun c => { c with initCount := c.initCount - 1 }
    Action.note (.deinitCounted (c.initCount - 1))
    if c.initCount = 1 then teardown S else pure ()

def load (path : Path) : Action (Context σ) (Except PluginError Descriptor) :=
  onHost (Host.load S path)

def unload (d : Descriptor) : Action (Context σ) (Except PluginError Unit) :=
  onHost (Host.unload S d)

def loadDirectory (directory : Path) (buffer : Option Scan.Buffer) :
    Action (Context σ) (Except PluginError Nat × Option Scan.Buffer) :=
  onHost (Host.loadDirectory S directory buffer)

def unloadAll : Action (Context σ) Nat := onHost (Host.unloadAll S)

/-- Hands the registry as it is now to a callback, which may act on the context;
what it does there does not show in the registry it was given. -/
def withRegistry (callback : Registry → Action (Context σ) α) : Action (Context σ) α := do
  let c ← Action.get
  callback c.registry

/-- The end of a context tears down whatever is left, counted clients or not. -/
def drop : Action (Context σ) Unit := do
  let c ← Action.get
  if c.initCount = 0 then pure () else Action.note (.droppedEarly c.initCount)
  teardown S

/-- The context as diagnostics describe it. -/
def describe (settings : Settings) : String :=
  s!"PluginContext \x7b default_plugin_dir: {Quoted.bytes settings.defaultDirectory.bytes}, .. \x7d"

end Context
end CodecHost
