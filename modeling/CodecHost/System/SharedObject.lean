import CodecHost.Plugin

/-! A file can be opened as a module when it is a shared object for this machine.
The first bytes of a file tell whether it is: they hold a mark, and behind the
mark the width of the machine's words. What a shared object exports is a
descriptor, or nothing that the host knows. -/
namespace CodecHost

/-- The function table that a module exports. -/
inductive ExportedTable where
  | encoder (table : EncoderTable)
  | decoder (table : DecoderTable)

def ExportedTable.kind : ExportedTable → Kind
  | encoder _ => .encoder
  | decoder _ => .decoder

/-- The descriptor that a module exports, with the table it names. -/
structure ExportedPlugin where
  version : Int32
  table : ExportedTable

/-- A module in a file, by what it exports. -/
structure SharedObject where
  plugin : Option ExportedPlugin

/-- A module whose hooks run also counts how often it is initialized. -/
def SharedObject.countsUse (object : SharedObject) : Bool :=
  match object.plugin.map ExportedPlugin.table with
  | some (.encoder table) => table.hasInit || table.hasEnd
  | some (.decoder table) => table.hasInit || table.hasEnd
  | none => false

namespace SharedObject

/-- The bytes that every shared object starts with. -/
def mark : Bytes := [0x7F, 0x45, 0x4C, 0x46]

/-- The byte behind the mark in a module with words of 64 bits. -/
def wideWords : UInt8 := 2

/-- The length of the header. -/
def headerSize : Nat := 64

/-- What stands for the bytes of a shared object where they are read as data. They
are no text. -/
def image : Bytes := mark ++ [wideWords, 0xFF]

/-- Why bytes that are data do not load as a module. A header alone is a module
that was cut off. -/
def faultOf (data : Bytes) : String :=
  if data.length < headerSize then "file too short"
  else if ¬ mark.isPrefixOf data then "invalid ELF header"
  else if data[mark.length]? ≠ some wideWords then "wrong ELF class: ELFCLASS32"
  else "file too short"

end SharedObject
end CodecHost
