import CodecHost.IoError
import CodecHost.Path

/-! A directory is read entry by entry, in the order the system reports them. An
entry may fail to be read, and a named entry may hide its type. A native module
is a file, or a link to one, whose name has the module suffix. -/
namespace CodecHost

inductive FileKind where
  | file
  | symlink
  | directory
  | fifo
  | charDevice
  | blockDevice
  | socket
  deriving DecidableEq

inductive DirEntry where
  | unreadable (cause : IoError)
  | named (name : Bytes) (kind : Except IoError FileKind)

/-- What reading a directory gives: a failure to open it, or its entries. -/
abbrev Listing := Except IoError (List DirEntry)

/-- A scan follows links and opens plain files. -/
def FileKind.mayBeModule : FileKind → Bool
  | file | symlink => true
  | _ => false

/-- The suffix of native modules. -/
def moduleSuffix : String := ".so"

/-- A module name is text that ends in the suffix and has something before it. -/
def isModuleName (name : Bytes) : Bool :=
  let suffix := Utf8.encode moduleSuffix
  (Utf8.decode? name).isSome && suffix.length < name.length && suffix.isSuffixOf name

end CodecHost
