import CodecHost.Event

/-! The table of loaded modules has one record for each module, found by the
identity that the loader gives it. A record knows the descriptor that its module
exports and holds the open references on the module. -/
namespace CodecHost

/-- A loaded module and the references held on it, oldest first. -/
structure Record where
  id : ModuleId
  descriptor : Descriptor
  handles : List Handle
  deriving DecidableEq

def Record.openCount (r : Record) : Nat := r.handles.length

structure ModuleTable where
  records : List Record
  deriving DecidableEq

namespace ModuleTable

def empty : ModuleTable := ⟨[]⟩

def size (t : ModuleTable) : Nat := t.records.length

def isEmpty (t : ModuleTable) : Bool := t.records.isEmpty

def descriptors (t : ModuleTable) : List Descriptor := t.records.map Record.descriptor

/-- The first record of a descriptor. -/
def find? (t : ModuleTable) (d : Descriptor) : Option Record :=
  t.records.find? (·.descriptor = d)

def contains (t : ModuleTable) (d : Descriptor) : Bool := (t.find? d).isSome

/-- References held on the module that exports a descriptor. -/
def openCount? (t : ModuleTable) (d : Descriptor) : Option Nat := (t.find? d).map Record.openCount

/-- The record of a module. -/
def record? (t : ModuleTable) (id : ModuleId) : Option Record := t.records.find? (·.id = id)

/-- Puts another reference into the first record for which `p` holds. -/
def attachFirst (p : Record → Bool) (h : Handle) : List Record → List Record
  | [] => []
  | r :: rest =>
    if p r then { r with handles := r.handles ++ [h] } :: rest
    else r :: attachFirst p h rest

/-- Another reference on a module that is already in the table. -/
def attach (t : ModuleTable) (h : Handle) : ModuleTable :=
  ⟨attachFirst (·.id = h.id) h t.records⟩

/-- A module that is new to the table. -/
def insert (t : ModuleTable) (d : Descriptor) (h : Handle) : ModuleTable :=
  ⟨t.records ++ [⟨h.id, d, [h]⟩]⟩

/-- Takes an element out of a list and puts the last one in its place. -/
def swapRemove {α : Type} (xs : List α) (index : Nat) : List α :=
  match xs.getLast? with
  | none => []
  | some last => (xs.set index last).dropLast

end ModuleTable
end CodecHost
