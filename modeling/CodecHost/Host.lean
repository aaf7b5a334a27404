import CodecHost.ModuleTable
import CodecHost.Registry
import CodecHost.Scan
import CodecHost.Surroundings

/-! Loading and unloading tie the registry to the table of loaded modules. A
module enters the table only after its plugin is registered. Its last reference
is given back only after the plugin is unregistered, so that no hook runs in a
module that is gone. -/
namespace CodecHost

/-- What loading changes: the active plugins, the loaded modules, and the system. -/
structure Host (σ : Type) where
  registry : Registry
  modules : ModuleTable
  system : σ

namespace Host

variable {σ α : Type} (S : Surroundings σ)

/-- A host with nothing active and nothing loaded. -/
def fresh (system : σ) : Host σ := ⟨.empty, .empty, system⟩

/-- What memory holds at this moment. -/
def readMemory : Action (Host σ) Memory := do
  let host ← Action.get
  pure (S.memory host.system)

/-- A registry operation on what memory holds at this moment. -/
def onRegistry (f : Memory → Action Registry α) : Action (Host σ) α := do
  let m ← readMemory S
  Action.focus Host.registry (fun r host => { host with registry := r }) (f m)

def modifyModules (f : ModuleTable → ModuleTable) : Action (Host σ) Unit :=
  Action.modify fun host => { host with modules := f host.modules }

/-- Opens a module. -/
def acquire (path : Path) : Action (Host σ) (Except PluginError Handle) := fun host =>
  match S.openModule path host.system with
  | (.ok handle, system) => ⟨.ok handle, { host with system }, [.opened handle]⟩
  | (.error diagnostic, system) =>
    ⟨.error (.loadFailure path (.reported diagnostic)), { host with system },
      [.openFailed path diagnostic]⟩

/-- Asks for the descriptor behind a handle. -/
def resolve (handle : Handle) : Action (Host σ) (Except PluginError Descriptor) := fun host =>
  match S.resolve handle host.system with
  | (.ok d, system) => ⟨.ok d, { host with system }, [.resolved handle (.ok d)]⟩
  | (.error diagnostic, system) =>
    ⟨.error (.loadFailure handle.path (.reported diagnostic)), { host with system },
      [.resolved handle (.error diagnostic)]⟩

/-- Gives a reference back. -/
def release (handle : Handle) : Action (Host σ) Unit := fun host =>
  ⟨(), { host with system := S.close handle host.system }, [.closed handle]⟩

/-- Gives references back one after the other. -/
def releaseAll : List Handle → Action (Host σ) Unit
  | [] => pure ()
  | handle :: rest => do
    release S handle
    releaseAll rest

/-- Takes a freshly opened module into the table. It has to resolve, to lead to a
function table, and to register; otherwise its reference is given back. The
version that is reported for a module without a function table is read after
that. -/
def accept (path : Path) (handle : Handle) : Action (Host σ) (Except PluginError Descriptor) := do
  match ← resolve S handle with
  | .error e =>
    release S handle
    pure (.error e)
  | .ok d =>
    let m ← readMemory S
    if (m.plugin? d).isNone then
      release S handle
      let m ← readMemory S
      pure (.error (.loadFailure path (.noFunctionTable (m.info d).version)))
    else
      match ← onRegistry S fun m => Registry.register m d with
      | .error e =>
        release S handle
        pure (.error e)
      | .ok () =>
        let m ← readMemory S
        Action.note (.loaded (m.info d).kind? path handle.id)
        modifyModules (·.insert d handle)
        pure (.ok d)

/-- Loads the module at a path, or takes another reference on it when its
identity is already in the table. The registry is touched only for a module that
is new. -/
def load (path : Path) : Action (Host σ) (Except PluginError Descriptor) := do
  match ← acquire S path with
  | .error e => pure (.error e)
  | .ok handle =>
    let host ← Action.get
    match host.modules.record? handle.id with
    | some record =>
      modifyModules (·.attach handle)
      Action.note (.attached handle.id path (record.openCount + 1))
      pure (.ok record.descriptor)
    | none => accept S path handle

/-- Gives back the newest reference on the module that exports a descriptor. The
plugin is unregistered with the last reference, before that is given back. -/
def unload (d : Descriptor) : Action (Host σ) (Except PluginError Unit) := do
  let host ← Action.get
  match host.modules.records.findIdx? (·.descriptor = d) with
  | none => pure (.error .notLoaded)
  | some index =>
    match host.modules.records[index]? with
    | none => pure (.error .notLoaded)
    | some record =>
      match record.handles.getLast? with
      | none => pure (.error .notLoaded)
      | some handle =>
        let kept := record.handles.dropLast
        if kept.isEmpty then
          modifyModules fun t => ⟨ModuleTable.swapRemove t.records index⟩
          let _ ← onRegistry S fun m => Registry.unregister m d
          Action.note (.unloaded record.id)
        else
          modifyModules fun t => ⟨t.records.set index { record with handles := kept }⟩
          Action.note (.released record.id kept.length)
        release S handle
        pure (.ok ())

/-- Unregisters each module of a list and gives all its references back. -/
def unloadRecords : List Record → Action (Host σ) Nat
  | [] => pure 0
  | record :: rest => do
    let _ ← onRegistry S fun m => Registry.unregister m record.descriptor
    releaseAll S record.handles
    Action.note (.forceUnloaded record.id record.openCount)
    let others ← unloadRecords rest
    pure (record.openCount + others)

/-- Empties the table, however many references are held. Answers how many were
given back. -/
def unloadAll : Action (Host σ) Nat := do
  let host ← Action.get
  modifyModules fun _ => .empty
  unloadRecords S host.modules.records

/-- Scans a directory, loading each module it holds. -/
def loadDirectory (directory : Path) (buffer : Option Scan.Buffer) :
    Action (Host σ) (Except PluginError Nat × Option Scan.Buffer) := do
  let host ← Action.get
  Scan.scan directory (S.listing host.system directory) buffer (load S)

end Host
end CodecHost
