import CodecHost.CommandLine.Arguments
import CodecHost.Config.Reading
import CodecHost.Context
import CodecHost.Report

/-! What each command does with a system, as the text it prints and the failure it
ends in. Only one context exists while a command runs, and it is gone before the
command ends. -/
namespace CodecHost.CommandLine

/-- How a command went: what it printed, what it failed with, and what happened. -/
structure Outcome where
  printed : String
  failure : Option Error
  events : List Event

variable {σ : Type} (S : Surroundings σ)

/-- Runs a command on a context that is built for it and ends with it. -/
def inContext (settings : Settings) (body : Action (Context σ) (String × Option Error))
    (system : σ) : Outcome :=
  let built := Context.build S settings system
  match built.value with
  | .error e => ⟨"", some (.plugin e), built.events⟩
  | .ok () =>
    let done := body.run built.state
    let ended := (Context.drop S).run done.state
    ⟨done.value.1, done.value.2, built.events ++ done.events ++ ended.events⟩

/-- Settings under which no search path is looked up. -/
def withoutSearchPath : Settings := { Settings.standard with source := .fixed [] }

/-- The slots of a buffer that a scan has filled. -/
def recorded : Scan.Buffer → List Descriptor
  | some d :: rest => d :: recorded rest
  | _ => []

/-- The text about a scan: the count, the plugins that are known, and how many more
there are. -/
def scanText (m : Memory) (directory : Path) (count : Nat) (known : List Descriptor) : String :=
  s!"Loaded {count} plugins from {directory.display}\n" ++
    String.join (known.map fun d => s!"  {Report.plugin m d}\n") ++
    (if known.length < count then s!"  ... {count - known.length} more not recorded\n" else "")

def scanBody (directory : Path) (capacity : Option Nat) :
    Action (Context σ) (String × Option Error) := do
  match ← Context.loadDirectory S directory (capacity.map fun n => List.replicate n none) with
  | (.error e, _) => pure ("", some (.plugin e))
  | (.ok count, buffer) =>
    let c ← Action.get
    let known := match buffer with
      | some slots => recorded slots
      | none => c.modules.descriptors
    pure (scanText (S.memory c.host.system) directory count known, none)

/-- Loads paths in order. Every failure goes to the log and stops nothing. The first
one is the one that counts. -/
def loadPaths : List Path → Action (Context σ) (String × Option Error)
  | [] => pure ("", none)
  | path :: rest => do
    match ← Context.load S path with
    | .ok d =>
      let c ← Action.get
      let (others, failure) ← loadPaths rest
      pure (s!"{path.display}: {Report.plugin (S.memory c.host.system) d}\n" ++ others, failure)
    | .error e =>
      Action.note (.pathFailed (.plugin e))
      let (others, _) ← loadPaths rest
      pure (others, some (.plugin e))

/-- Loads paths and notes how many modules they came to. -/
def loadBody (paths : List Path) : Action (Context σ) (String × Option Error) := do
  let told ← loadPaths S paths
  let c ← Action.get
  Action.note (.distinctModules c.modules.size)
  pure told

def listBody (settings : Settings) : Action (Context σ) (String × Option Error) := do
  let result ← Context.init S settings
  let c ← Action.get
  let listing := Report.registry (S.memory c.host.system) c.registry
  Context.deinit S
  match result with
  | .ok () => pure (listing, none)
  | .error e => pure ("", some (.plugin e))

/-- The settings for a listing. A directory on the command line replaces the
default one of the configuration, but not its list. -/
def listSettings (files : Path → Except IoError Bytes) (config : Option Path)
    (pluginDirectory : Option Path) : Except ConfigError Settings := do
  let settings ← match config with
    | some path => (Config.load files path).map Settings.standard.withConfig
    | none => .ok Settings.standard
  match pluginDirectory with
  | some directory => .ok { settings with defaultDirectory := directory }
  | none => .ok settings

/-- Carries a command out. -/
def perform (files : Path → Except IoError Bytes) (command : Command) (system : σ) : Outcome :=
  match command with
  | .scan directory capacity => inContext S withoutSearchPath (scanBody S directory capacity) system
  | .load first others => inContext S withoutSearchPath (loadBody S (first :: others)) system
  | .list config pluginDirectory =>
    match listSettings files config pluginDirectory with
    | .error e => ⟨"", some (.config e), []⟩
    | .ok settings => inContext S settings (listBody S settings) system

/-- What the program leaves behind. -/
structure Output where
  status : Nat
  out : String
  err : String
  events : List Event

/-- A failure is told in two lines, the second one for programs. -/
def Outcome.output (o : Outcome) : Output :=
  match o.failure with
  | none => ⟨0, o.printed, "", o.events⟩
  | some e => ⟨1, o.printed, s!"Error: {e.message}\n{Report.codes e}\n", o.events⟩

/-- How the program is used. -/
def usageText : String :=
  "Usage: codecplug [-v] scan DIR [--capacity N]\n" ++
  "       codecplug [-v] load PATH...\n" ++
  "       codecplug [-v] list [--config FILE] [--plugin-dir DIR]\n"

def versionText : String := "codecplug 0.1.0\n"

/-- Without a command there is help on request, and a failure otherwise. -/
def Stop.output : Stop → Output
  | .help => ⟨0, usageText, "", []⟩
  | .version => ⟨0, versionText, "", []⟩
  | .misuse => ⟨2, "", usageText, []⟩

/-- The lowest level that goes to the log. -/
def Invocation.threshold (i : Invocation) : Level := if i.verbose then .debug else .warn

/-- The whole program on the words of a command line. -/
def run (files : Path → Except IoError Bytes) (words : List Bytes) (system : σ) : Output :=
  match parse words with
  | .error stop => stop.output
  | .ok invocation => (perform S files invocation.command system).output

end CodecHost.CommandLine
