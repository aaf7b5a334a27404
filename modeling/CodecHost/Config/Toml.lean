import CodecHost.Config
import CodecHost.Config.Toml.Document

/-! Settings in TOML stand under their names in the outermost table. A key that is
not known is passed over with its value. -/
namespace CodecHost.Toml

def Node.path? : Node → Option Path
  | .text s => some (.ofString s)
  | _ => none

def Node.paths? : Node → Option (List Path)
  | .array items => items.mapM Node.path?
  | _ => none

/-- The settings in the outermost table. -/
def Table.config? (t : Table) : Option Config := do
  let directories ← match t.entries.lookup "plugin_directories" with
    | some v => v.paths?
    | none => some []
  let default ← match t.entries.lookup "default_plugin_directory" with
    | some v => v.path?.map some
    | none => some none
  pure ⟨directories, default⟩

/-- The settings that a text holds. -/
def config? (source : String) : Option Config := parse? source >>= Table.config?

end CodecHost.Toml
