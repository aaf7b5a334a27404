import CodecHost.Action

/-! The registry holds the encoders and decoders that are active. Encoders stand
in descending order of priority, equal priorities and all decoders in the order
they were registered. Registering a plugin runs its init hook before it enters a
list, and removing one runs its end hook before it leaves. -/
namespace CodecHost

structure Registry where
  encoders : List Encoder
  decoders : List Decoder
  deriving DecidableEq

namespace Registry

def empty : Registry := ⟨[], []⟩

def isEmpty (r : Registry) : Bool := r.encoders.isEmpty && r.decoders.isEmpty

/-- Whether a function table is in the list of its kind. -/
def holds (r : Registry) : Plugin → Bool
  | .encoder e => r.encoders.contains e
  | .decoder d => r.decoders.contains d

/-- A descriptor is registered when its function table is. -/
def isRegistered (m : Memory) (r : Registry) (d : Descriptor) : Bool :=
  match m.plugin? d with
  | some plugin => r.holds plugin
  | none => false

/-- The newcomer stands before the first encoder of lower priority. -/
def insertEncoder (m : Memory) (e : Encoder) : List Encoder → List Encoder
  | [] => [e]
  | first :: rest =>
    if (m.encoder first).priority < (m.encoder e).priority then e :: first :: rest
    else first :: insertEncoder m e rest

/-- The init hook of a plugin, if it has one. -/
def initHooks (m : Memory) (plugin : Plugin) : List Event :=
  if m.hasInit plugin then [.initHook plugin] else []

/-- The end hook of a plugin, if it has one. -/
def endHooks (m : Memory) (plugin : Plugin) : List Event :=
  if m.hasEnd plugin then [.endHook plugin] else []

/-- The version is checked before anything else, and a plugin that is already
active is left alone. -/
def registerEncoder (m : Memory) (e : Encoder) : Action Registry (Except PluginError Unit) := do
  let table := m.encoder e
  if Kind.encoder.supports table.apiVersion then
    let r ← Action.get
    if r.encoders.contains e then
      Action.note (.alreadyRegistered .encoder table.name)
      pure (.ok ())
    else
      Action.emit (initHooks m (.encoder e))
      Action.modify fun r => { r with encoders := insertEncoder m e r.encoders }
      Action.note (.encoderRegistered table.name table.priority)
      pure (.ok ())
  else
    pure (.error (.unsupportedVersion table.name table.apiVersion))

/-- A decoder goes to the end of its list. -/
def registerDecoder (m : Memory) (d : Decoder) : Action Registry (Except PluginError Unit) := do
  let table := m.decoder d
  if Kind.decoder.supports table.apiVersion then
    let r ← Action.get
    if r.decoders.contains d then
      Action.note (.alreadyRegistered .decoder table.name)
      pure (.ok ())
    else
      Action.emit (initHooks m (.decoder d))
      Action.modify fun r => { r with decoders := r.decoders ++ [d] }
      Action.note (.decoderRegistered table.name)
      pure (.ok ())
  else
    pure (.error (.unsupportedVersion table.name table.apiVersion))

/-- Registers the function table behind a descriptor. -/
def register (m : Memory) (d : Descriptor) : Action Registry (Except PluginError Unit) :=
  match m.plugin? d with
  | some (.encoder e) => registerEncoder m e
  | some (.decoder d) => registerDecoder m d
  | none => pure (.error (.loadFailure ⟨[]⟩ (.unusableDescriptor (m.info d).kind?)))

/-- Answers whether the encoder was there. -/
def unregisterEncoder (m : Memory) (e : Encoder) : Action Registry Bool := do
  let table := m.encoder e
  let r ← Action.get
  if r.encoders.contains e then
    Action.emit (endHooks m (.encoder e))
    Action.modify fun r => { r with encoders := r.encoders.erase e }
    Action.note (.unregistered .encoder table.name)
    pure true
  else
    Action.note (.encoderNotRegistered table.priority)
    pure false

/-- Answers whether the decoder was there. -/
def unregisterDecoder (m : Memory) (d : Decoder) : Action Registry Bool := do
  let table := m.decoder d
  let r ← Action.get
  if r.decoders.contains d then
    Action.emit (endHooks m (.decoder d))
    Action.modify fun r => { r with decoders := r.decoders.erase d }
    Action.note (.unregistered .decoder table.name)
    pure true
  else
    Action.note .decoderNotRegistered
    pure false

/-- Removes the function table behind a descriptor. -/
def unregister (m : Memory) (d : Descriptor) : Action Registry Bool :=
  match m.plugin? d with
  | some (.encoder e) => unregisterEncoder m e
  | some (.decoder d) => unregisterDecoder m d
  | none => pure false

/-- Empties the list of encoders after their end hooks have run in list order. -/
def unregisterAllEncoders (m : Memory) : Action Registry Unit := do
  let r ← Action.get
  Action.emit (r.encoders.flatMap fun e => endHooks m (.encoder e))
  Action.modify fun r => { r with encoders := [] }

/-- Empties the list of decoders after their end hooks have run in list order. -/
def unregisterAllDecoders (m : Memory) : Action Registry Unit := do
  let r ← Action.get
  Action.emit (r.decoders.flatMap fun d => endHooks m (.decoder d))
  Action.modify fun r => { r with decoders := [] }

/-- The first encoder of a format in list order. -/
def findEncoder (m : Memory) (r : Registry) (format : Int32) : Option Encoder :=
  r.encoders.find? fun e => (m.encoder e).format = format

/-- The better of the choice so far and the next decoder. A decoder without
support is never chosen, and of equal levels the later one wins. -/
def betterDecoder (m : Memory) (format : Int32) (best : Option Decoder) (d : Decoder) :
    Option Decoder :=
  let level := (m.decoder d).supportLevel format
  if 0 < level then
    match best with
    | none => some d
    | some b => if (m.decoder b).supportLevel format ≤ level then some d else some b
  else best

/-- The decoder with the highest support level for a format. -/
def findDecoder (m : Memory) (r : Registry) (format : Int32) : Option Decoder :=
  r.decoders.foldl (betterDecoder m format) none

end Registry
end CodecHost
