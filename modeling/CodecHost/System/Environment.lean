import CodecHost.Bytes

/-! The environment is a list of texts `NAME=VALUE`. -/
namespace CodecHost

/-- Variables that are set, each with its value. -/
abbrev Environment := List (Bytes × Bytes)

namespace Environment

/-- A value that is written anew replaces the old one. -/
def set (env : Environment) (name value : Bytes) : Environment :=
  env.filter (·.1 ≠ name) ++ [(name, value)]

def unset (env : Environment) (name : Bytes) : Environment := env.filter (·.1 ≠ name)

/-- The text behind a start, if the bytes start so. -/
def behind? : Bytes → Bytes → Option Bytes
  | [], rest => some rest
  | _ :: _, [] => none
  | b :: start, c :: rest => if b = c then behind? start rest else none

/-- The value of a variable is what stands behind the first text that starts with
the name and an equals sign. The empty name is never set. -/
def value? (env : Environment) (name : Bytes) : Option Bytes :=
  if name.isEmpty then none
  else env.findSome? fun (n, v) => behind? (name ++ [0x3D]) (n ++ 0x3D :: v)

end Environment
end CodecHost
