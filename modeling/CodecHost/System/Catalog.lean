import CodecHost.Surroundings
import CodecHost.System.Environment

/-! A system whose modules, directories and variables are declared one by one. A
module is found by the exact text of its path, and what it exports is settled
when it is opened. -/
namespace CodecHost

/-- A module that can be opened, or that fails in a declared way. -/
structure DeclaredModule where
  path : Path
  id : ModuleId
  descriptor : Option Descriptor
  openError : Option String
  resolveError : Option String

structure Catalog where
  modules : List DeclaredModule
  directories : List (Path × Listing)
  environment : Environment
  memory : Memory
  /-- References that are open, with the declaration each was opened under. -/
  references : List (Nat × DeclaredModule)
  /-- The number for the next reference. -/
  next : Nat

namespace Catalog

/-- A declaration replaces an earlier one of the same path. -/
def declare (c : Catalog) (m : DeclaredModule) : Catalog :=
  { c with modules := c.modules.filter (·.path ≠ m.path) ++ [m] }

def withdraw (c : Catalog) (path : Path) : Catalog :=
  { c with modules := c.modules.filter (·.path ≠ path) }

/-- A listing replaces an earlier one of the same path. -/
def setDirectory (c : Catalog) (path : Path) (listing : Listing) : Catalog :=
  { c with directories := (path, listing) :: c.directories.filter (·.1 ≠ path) }

def removeDirectory (c : Catalog) (path : Path) : Catalog :=
  { c with directories := c.directories.filter (·.1 ≠ path) }

def openModule (path : Path) (c : Catalog) : Except String Handle × Catalog :=
  match c.modules.find? (·.path = path) with
  | none => (.error "cannot open shared object file: No such file or directory", c)
  | some m =>
    match m.openError with
    | some diagnostic => (.error diagnostic, c)
    | none =>
      (.ok ⟨c.next, m.id, path⟩,
        { c with references := (c.next, m) :: c.references, next := c.next + 1 })

def resolve (handle : Handle) (c : Catalog) : Except String Descriptor × Catalog :=
  let answer : Except String Descriptor :=
    match c.references.lookup handle.number with
    | none => .error "the module is not open"
    | some m =>
      match m.resolveError, m.descriptor with
      | some diagnostic, _ => .error diagnostic
      | none, some d => .ok d
      | none, none => .error "undefined symbol: plugin_info"
  (answer, c)

def close (handle : Handle) (c : Catalog) : Catalog :=
  { c with references := c.references.filter (·.1 ≠ handle.number) }

/-- The part of a directory that can be read: an entry that fails to be read ends
the enumeration. -/
def readable : List DirEntry → List DirEntry
  | [] => []
  | .unreadable cause :: _ => [.unreadable cause]
  | entry :: rest => entry :: readable rest

def listing (c : Catalog) (path : Path) : Listing :=
  if path.bytes.contains 0 then .error .zeroByteInName
  else match c.directories.find? (·.1 = path) with
    | none => .error .notFound
    | some (_, .error cause) => .error cause
    | some (_, .ok entries) => .ok (readable entries)

/-- The catalog as the system that a host works on. -/
def surroundings : Surroundings Catalog where
  openModule := openModule
  resolve := resolve
  close := close
  memory := Catalog.memory
  listing := listing
  lookup := fun c name => c.environment.value? (Utf8.encode name)

end Catalog
end CodecHost
