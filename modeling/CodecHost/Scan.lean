import CodecHost.Action
import CodecHost.Directory

/-! A scan loads every module that lies directly in a directory. Only a directory
that cannot be opened is an error: entries that cannot be read, files of other
kinds or names and modules that do not load are passed over, the failures with a
notice. The caller may hand in a buffer of slots, which records the descriptors
of the first modules loaded; a full buffer does not stop the scan. -/
namespace CodecHost.Scan

/-- Slots for descriptors. -/
abbrev Buffer := List (Option Descriptor)

variable {σ : Type}

/-- What a scan has come to: how many modules it loaded, and the buffer. -/
structure Progress where
  loaded : Nat
  buffer : Option Buffer

/-- One more module. Its descriptor goes to the slot that the count so far
names, if the buffer has that slot. -/
def Progress.record (p : Progress) (d : Descriptor) : Progress :=
  { loaded := p.loaded + 1, buffer := p.buffer.map (·.set p.loaded (some d)) }

/-- What the scan does with one entry. -/
def visit (directory : Path) (load : Path → Action σ (Except PluginError Descriptor))
    (p : Progress) : DirEntry → Action σ Progress
  | .unreadable cause => do
    Action.note (.unreadableEntry directory cause)
    pure p
  | .named name (.error cause) => do
    Action.note (.untypedEntry (directory.join name) cause)
    pure p
  | .named name (.ok kind) =>
    if kind.mayBeModule && isModuleName name then do
      let path := directory.join name
      match ← load path with
      | .ok d => pure (p.record d)
      | .error e =>
        Action.note (.skipped path e)
        pure p
    else pure p

/-- The entries in order. -/
def visitAll (directory : Path) (load : Path → Action σ (Except PluginError Descriptor)) :
    Progress → List DirEntry → Action σ Progress
  | p, [] => pure p
  | p, entry :: rest => do
    let p ← visit directory load p entry
    visitAll directory load p rest

/-- A buffer that is not full gets an empty slot behind the last descriptor. -/
def Progress.close (p : Progress) : Option Buffer := p.buffer.map (·.set p.loaded none)

/-- A buffer that is too small is worth a notice. -/
def Progress.overflow (directory : Path) (p : Progress) : List Event :=
  match p.buffer with
  | some slots =>
    if slots.length < p.loaded then [.notice (.bufferFull directory slots.length p.loaded)] else []
  | none => []

/-- Scans a directory with the given listing. Answers the number of modules that
loaded, and what the buffer holds afterwards. -/
def scan (directory : Path) (listing : Listing) (buffer : Option Buffer)
    (load : Path → Action σ (Except PluginError Descriptor)) :
    Action σ (Except PluginError Nat × Option Buffer) :=
  match listing with
  | .error cause => pure (.error (.unreadableDirectory directory cause), buffer)
  | .ok entries => do
    let p ← visitAll directory load ⟨0, buffer⟩ entries
    Action.emit (p.overflow directory)
    Action.note (.scanned p.loaded directory)
    pure (.ok p.loaded, p.close)

end CodecHost.Scan
