/-! The identity that the loader gives a native module. Every open reference to
one module carries the same identity. -/
namespace CodecHost

structure ModuleId where
  value : Nat
  deriving DecidableEq, Inhabited

/-- Hexadecimal digits, the most significant first. -/
def hexDigits (n : Nat) : String := String.ofList (Nat.toDigits 16 n)

def ModuleId.display (id : ModuleId) : String := "0x" ++ hexDigits id.value

end CodecHost
