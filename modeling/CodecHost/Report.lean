import CodecHost.Registry

/-! The texts that the command line prints: a line for a plugin, the listing of the
active plugins, and the codes of a failure. -/
namespace CodecHost.Report

/-- One line about the plugin behind a descriptor. -/
def plugin (m : Memory) (d : Descriptor) : String :=
  match m.plugin? d with
  | some (.encoder e) =>
    let table := m.encoder e
    s!"encoder '{table.name}' (format {table.format}, priority {table.priority})"
  | some (.decoder e) => s!"decoder '{(m.decoder e).name}'"
  | none => s!"unknown plugin kind ({describeDescriptor (m.info d).kind?})"

/-- A text moved to the right end of a column of the given width. -/
def alignRight (width : Nat) (text : String) : String :=
  String.ofList (List.replicate (width - text.length) ' ') ++ text

/-- The line of an encoder in the listing. -/
def encoderLine (table : EncoderTable) : String :=
  s!"  {alignRight 4 (toString table.priority)}  {table.name} (format {table.format}, API v{table.apiVersion})\n"

/-- The line of a decoder in the listing. -/
def decoderLine (table : DecoderTable) : String :=
  s!"        {table.name} (API v{table.apiVersion})\n"

/-- The listing of encoders and decoders, each under its count. -/
def listing (encoders : List EncoderTable) (decoders : List DecoderTable) : String :=
  s!"{encoders.length} encoders\n" ++ String.join (encoders.map encoderLine) ++
    s!"{decoders.length} decoders\n" ++ String.join (decoders.map decoderLine)

/-- The listing of what is active. -/
def registry (m : Memory) (r : Registry) : String :=
  listing (r.encoders.map m.encoder) (r.decoders.map m.decoder)

/-- Code and subcode of a failure, for programs that match on them. -/
def codes (e : Error) : String :=
  s!"code {e.code.number} ({e.code.name}), subcode {e.subcode.number} ({e.subcode.name})"

end CodecHost.Report
