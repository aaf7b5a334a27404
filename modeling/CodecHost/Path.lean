import CodecHost.Text.Utf8

/-! A path is a string of bytes and is never normalised: two spellings of one
file are two paths. Only the last component is looked into, where trailing
slashes and `/.` do not count. -/
namespace CodecHost

structure Path where
  bytes : Bytes
  deriving DecidableEq, Inhabited

namespace Path

/-- The byte between two components. -/
def separator : UInt8 := 0x2F

def ofString (text : String) : Path := ⟨Utf8.encode text⟩

/-- The path as messages show it. -/
def display (p : Path) : String := Utf8.lossy p.bytes

/-- A name inside a directory. One separator stands between the two, unless the
directory is empty or already ends in one. -/
def join (directory : Path) (name : Bytes) : Path :=
  match directory.bytes.getLast? with
  | none => ⟨name⟩
  | some last =>
    if last = separator then ⟨directory.bytes ++ name⟩
    else ⟨directory.bytes ++ separator :: name⟩

/-- The components that say where the path leads: neither empty nor a dot. -/
def components (p : Path) : List Bytes :=
  (Bytes.splitOn separator p.bytes).filter fun s => s ≠ [] ∧ s ≠ [0x2E]

/-- The last component, unless it climbs to the parent directory. -/
def fileName? (p : Path) : Option Bytes :=
  match p.components.getLast? with
  | some name => if name = [0x2E, 0x2E] then none else some name
  | none => none

/-- What stands behind the last dot of the file name. A name whose only dot is
its first byte has no extension. -/
def extension? (p : Path) : Option Bytes := do
  let name ← p.fileName?
  let backwards := name.reverse
  match backwards.dropWhile (· ≠ 0x2E) with
  | [] | [_] => none
  | _ :: _ :: _ => some (backwards.takeWhile (· ≠ 0x2E)).reverse

end Path
end CodecHost
