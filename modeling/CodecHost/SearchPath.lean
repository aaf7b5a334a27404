import CodecHost.Path

/-! The value of a search path variable is a list of directories with a colon
between them. Empty entries say nothing, so a value of colons alone lists no
directory at all. -/
namespace CodecHost.SearchPath

def colon : UInt8 := 0x3A

/-- The directories that a value lists, in order and with repeats. -/
def parse (value : Bytes) : List Path :=
  ((Bytes.splitOn colon value).filter (· ≠ [])).map Path.mk

/-- A value that lists the given directories. -/
def render (directories : List Path) : Bytes :=
  Bytes.joinWith colon (directories.map Path.bytes)

end CodecHost.SearchPath
