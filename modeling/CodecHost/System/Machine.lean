import CodecHost.Surroundings
import CodecHost.System.Environment
import CodecHost.System.FileTree

/-! A machine with files, an environment and a loader for native modules. A module
is known by its file, so all names of a file lead to one module; it is mapped
with the first reference and goes away with the last. While it is mapped, the
loader knows it by every name it was opened by, and asks the file tree only about
other names. A name without a separator is no path and leads to no file here. -/
namespace CodecHost

/-- A module that is mapped. -/
structure Mapping where
  inode : Inode
  /-- The names it was opened by, the first one first. -/
  names : List Bytes
  references : Nat

structure Machine where
  files : FileTree
  environment : Environment
  mappings : List Mapping
  /-- The number for the next reference. -/
  next : Nat

namespace Machine

/-- A machine on which no module is mapped. -/
def fresh (files : FileTree) (environment : Environment) : Machine := ⟨files, environment, [], 0⟩

/-! Finding the file of a module. -/

/-- The name that the loader is handed for a path: it ends before a zero byte, and
no zero byte may stand anywhere else. -/
def loaderName (path : Path) : Except String Bytes :=
  if ¬ path.bytes.contains 0 then .ok path.bytes
  else if path.bytes.getLast? ≠ some 0 then .error "could not create a C string from bytes"
  else if path.bytes.dropLast.contains 0 then
    .error "could not create a C string from bytes with trailing null"
  else .ok path.bytes.dropLast

/-- What the loader says when the system does not let it open a file. -/
def openFault : IoError → String
  | .os code => s!"cannot open shared object file: {errorDescription code}"
  | .other text => s!"cannot open shared object file: {text}"

/-- The file that a name leads to, if it can be mapped. -/
def fileOf (m : Machine) (name : Bytes) : Except String Inode :=
  if ¬ name.contains Path.separator then .error (openFault .notFound)
  else
    match m.files.locate name with
    | .error cause => .error (openFault cause)
    | .ok i =>
      match m.files.node? i with
      | some (.file (.module _)) => .ok i
      | some (.file (.data bytes)) => .error (SharedObject.faultOf bytes)
      | _ => .error s!"cannot read file data: {errorDescription 21}"

/-- The module that a name leads to, mapped or not. -/
def moduleOf (m : Machine) (name : Bytes) : Except String Inode :=
  match m.mappings.find? (·.names.contains name) with
  | some mapping => .ok mapping.inode
  | none => m.fileOf name

def mapping? (m : Machine) (i : Inode) : Option Mapping := m.mappings.find? (·.inode = i)

def object? (m : Machine) (i : Inode) : Option SharedObject :=
  match m.files.node? i with
  | some (.file (.module object)) => some object
  | _ => none

/-! References. -/

/-- One more reference on a module, by a name. -/
def Mapping.attach (name : Bytes) (mapping : Mapping) : Mapping :=
  { mapping with
    names := if mapping.names.contains name then mapping.names else mapping.names ++ [name]
    references := mapping.references + 1 }

/-- Maps a module, or takes another reference on one that is mapped. -/
def take (m : Machine) (i : Inode) (name : Bytes) : List Mapping :=
  if (m.mapping? i).isSome then
    m.mappings.map fun mapping => if mapping.inode = i then Mapping.attach name mapping else mapping
  else m.mappings ++ [⟨i, [name], 1⟩]

/-- Gives a reference back. -/
def give (m : Machine) (i : Inode) : List Mapping :=
  m.mappings.filterMap fun mapping =>
    if mapping.inode ≠ i then some mapping
    else if mapping.references ≤ 1 then none
    else some { mapping with references := mapping.references - 1 }

def openModule (path : Path) (m : Machine) : Except String Handle × Machine :=
  match loaderName path with
  | .error diagnostic => (.error diagnostic, m)
  | .ok name =>
    match m.moduleOf name with
    | .error fault => (.error s!"{Utf8.lossy name}: {fault}", m)
    | .ok i => (.ok ⟨m.next, ⟨i⟩, path⟩, { m with mappings := m.take i name, next := m.next + 1 })

/-- How a failed resolution is reported, around what the loader says. -/
def missingSymbol (said : String) : String := s!"missing symbol plugin_info: {said}"

/-- What the loader says about a module without a descriptor. It names the module
as it was opened first. -/
def undefinedSymbol (m : Machine) (i : Inode) : String :=
  match (m.mapping? i).bind (·.names.head?) with
  | some name => s!"{Utf8.lossy name}: undefined symbol: plugin_info"
  | none => "undefined symbol: plugin_info"

/-- A module and its descriptor have one number. -/
def resolve (handle : Handle) (m : Machine) : Except String Descriptor × Machine :=
  match (m.object? handle.id.value).bind SharedObject.plugin with
  | some _ => (.ok ⟨handle.id.value⟩, m)
  | none => (.error (missingSymbol (m.undefinedSymbol handle.id.value)), m)

def close (handle : Handle) (m : Machine) : Machine :=
  { m with mappings := m.give handle.id.value }

/-! Memory. A module's info block and its function table lie at the module's
number. -/

def plugin? (m : Machine) (address : Address) : Option ExportedPlugin :=
  (m.object? address).bind SharedObject.plugin

def info (m : Machine) (d : Descriptor) : Info :=
  match m.plugin? d.address with
  | some plugin => ⟨plugin.version, plugin.table.kind.tag, some d.address⟩
  | none => ⟨0, -1, none⟩

def encoderTable (m : Machine) (e : Encoder) : EncoderTable :=
  match (m.plugin? e.address).map ExportedPlugin.table with
  | some (.encoder table) => table
  | _ => ⟨0, 0, none, 0, none, false, false⟩

def decoderTable (m : Machine) (d : Decoder) : DecoderTable :=
  match (m.plugin? d.address).map ExportedPlugin.table with
  | some (.decoder table) => table
  | _ => ⟨0, none, fun _ => 0, false, false⟩

def memory (m : Machine) : Memory := ⟨m.info, m.encoderTable, m.decoderTable⟩

/-- The machine as the system that a host works on. -/
def surroundings : Surroundings Machine where
  openModule := openModule
  resolve := resolve
  close := close
  memory := memory
  listing := fun m path => m.files.listing path
  lookup := fun m name => m.environment.value? (Utf8.encode name)

/-! The log. The loader tells of its work before the host goes on. -/

/-- What the loader said, out of the report of a failed resolution. -/
def saidOf (report : String) : String :=
  String.ofList (report.toList.drop (missingSymbol "").length)

/-- The log entries that an event leaves. -/
def noticesOf : Event → List Notice
  | .opened handle => [.moduleOpened handle.path handle.id]
  | .openFailed path diagnostic => [.moduleNotOpened path diagnostic]
  | .resolved handle (.error report) => [.symbolNotFound handle.path (saidOf report)]
  | .closed handle => [.moduleClosed handle.path handle.id]
  | .notice n => [n]
  | _ => []

end Machine
end CodecHost
