import CodecHost.CommandLine.Program
import CodecHost.System.Machine

/-! The program on this machine. It takes a picture of the files that the command line
leads to and works on the picture. No code is ever run from a module, so nothing is
known of what a module exports. -/
namespace CodecHost.Main

/-- What a file is to the loader. -/
def contentOf (bytes : Bytes) : FileContent :=
  if SharedObject.headerSize ≤ bytes.length ∧ SharedObject.mark.isPrefixOf bytes ∧
      bytes[SharedObject.mark.length]? = some SharedObject.wideWords then .module ⟨none⟩
  else .data bytes

/-- Adds what a path leads to, a directory without what is in it. A path that cannot be
read is left out of the picture. -/
def addFile (t : FileTree) (path : Path) : IO FileTree := do
  try
    let file ← IO.FS.realPath path.display
    if ← file.isDir then pure (t.makeDirectory path)
    else
      let bytes ← IO.FS.readBinFile file
      pure (t.write path (contentOf bytes.data.toList))
  catch _ => pure t

/-- The paths that lie directly in a directory. -/
def pathsIn (path : Path) : IO (List Path) := do
  try
    let directory ← IO.FS.realPath path.display
    let entries ← directory.readDir
    pure (entries.toList.map fun entry => path.join (Utf8.encode entry.fileName))
  catch _ => pure []

/-- Adds a directory with what lies directly in it. -/
def addDirectory (t : FileTree) (path : Path) : IO FileTree := do
  (path :: (← pathsIn path)).foldlM addFile t

/-- The files that a command leads to. -/
def picture (lookup : String → Option Bytes) : CommandLine.Command → IO FileTree
  | .scan directory _ => addDirectory .empty directory
  | .load first others => (first :: others).foldlM addFile .empty
  | .list config pluginDirectory => do
    let t ← config.toList.foldlM addFile .empty
    match CommandLine.listSettings t.read config pluginDirectory with
    | .error _ => pure t
    | .ok settings =>
      (settings.source.orDefault lookup settings.defaultDirectory).foldlM addDirectory t

/-- The one variable that matters. -/
def environment : IO Environment := do
  match ← IO.getEnv searchPathVariable with
  | some value => pure [(Utf8.encode searchPathVariable, Utf8.encode value)]
  | none => pure []

/-- Prints the log, and then what the program says. -/
def print (threshold : Level) (output : CommandLine.Output) : IO UInt32 := do
  for notice in output.events.flatMap Machine.noticesOf do
    if threshold.weight ≤ notice.level.weight then
      IO.eprintln s!"{notice.level.name} {notice.text}"
  IO.print output.out
  IO.eprint output.err
  pure (UInt32.ofNat output.status)

/-- Runs the program on its arguments and answers its exit status. -/
def run (arguments : List String) : IO UInt32 := do
  let words := arguments.map Utf8.encode
  match CommandLine.parse words with
  | .error stop => print .warn stop.output
  | .ok invocation =>
    let env ← environment
    let files ← picture (fun name => env.value? (Utf8.encode name)) invocation.command
    print invocation.threshold
      (CommandLine.run Machine.surroundings files.read words (Machine.fresh files env))

end CodecHost.Main

def main (arguments : List String) : IO UInt32 := CodecHost.Main.run arguments
