import CodecHost.Text.Utf8

/-! Plugins are known by where they lie in memory and never by what they
contain. A descriptor names an info block, which names the function table of an
encoder or a decoder; two descriptors may name one table. What lies at an
address is a question to the memory of the moment, since a module's memory goes
away with the module. -/
namespace CodecHost

/-- The two kinds of plugin the host knows. -/
inductive Kind where
  | encoder
  | decoder
  deriving DecidableEq

namespace Kind

/-- The number that stands for a kind in an info block. -/
def tag : Kind → Int32
  | encoder => 0
  | decoder => 1

/-- Any other number is a kind the host does not know. -/
def ofTag? (tag : Int32) : Option Kind :=
  if tag = 0 then some encoder else if tag = 1 then some decoder else none

def name : Kind → String
  | encoder => "encoder"
  | decoder => "decoder"

theorem ofTag?_tag (k : Kind) : ofTag? k.tag = some k := by
  cases k <;> decide

end Kind

abbrev Address := Nat

/-- Names an info block. -/
structure Descriptor where
  address : Address
  deriving DecidableEq

/-- Names an encoder's function table. -/
structure Encoder where
  address : Address
  deriving DecidableEq

/-- Names a decoder's function table. -/
structure Decoder where
  address : Address
  deriving DecidableEq

/-- A function table together with its kind. -/
inductive Plugin where
  | encoder (e : Encoder)
  | decoder (d : Decoder)
  deriving DecidableEq

def Plugin.kind : Plugin → Kind
  | encoder _ => .encoder
  | decoder _ => .decoder

/-- What a module says about its plugin. -/
structure Info where
  version : Int32
  tag : Int32
  table : Option Address
  deriving DecidableEq

def Info.kind? (info : Info) : Option Kind := Kind.ofTag? info.tag

/-- The function table that an info block leads to: none for a kind that is not
known, none without a table. -/
def Info.plugin? (info : Info) : Option Plugin :=
  match info.kind?, info.table with
  | some .encoder, some address => some (.encoder ⟨address⟩)
  | some .decoder, some address => some (.decoder ⟨address⟩)
  | _, _ => none

/-- What the registry reads of an encoder. `reportedName` is what the encoder
answers when it is asked for its name, if it can be asked and does answer. -/
structure EncoderTable where
  apiVersion : Int32
  format : Int32
  idName : Option Bytes
  priority : Int32
  reportedName : Option Bytes
  hasInit : Bool
  hasEnd : Bool

/-- What the registry reads of a decoder. A decoder that cannot be asked about a
format has support level zero for every format. -/
structure DecoderTable where
  apiVersion : Int32
  reportedName : Option Bytes
  supportLevel : Int32 → Int32
  hasInit : Bool
  hasEnd : Bool

/-- A name in memory ends at its first zero byte. -/
def nameText (bytes : Bytes) : String := Utf8.lossy (bytes.takeWhile (· ≠ 0))

def EncoderTable.name (t : EncoderTable) : String :=
  match t.reportedName, t.idName with
  | some reported, _ => nameText reported
  | none, some id => nameText id
  | none, none => "<unnamed encoder>"

def DecoderTable.name (t : DecoderTable) : String :=
  match t.reportedName with
  | some reported => nameText reported
  | none => "<unnamed decoder>"

/-- What is read at each address. -/
structure Memory where
  info : Descriptor → Info
  encoder : Encoder → EncoderTable
  decoder : Decoder → DecoderTable

namespace Memory

def plugin? (m : Memory) (d : Descriptor) : Option Plugin := (m.info d).plugin?

def name (m : Memory) : Plugin → String
  | .encoder e => (m.encoder e).name
  | .decoder d => (m.decoder d).name

def apiVersion (m : Memory) : Plugin → Int32
  | .encoder e => (m.encoder e).apiVersion
  | .decoder d => (m.decoder d).apiVersion

def hasInit (m : Memory) : Plugin → Bool
  | .encoder e => (m.encoder e).hasInit
  | .decoder d => (m.decoder d).hasInit

def hasEnd (m : Memory) : Plugin → Bool
  | .encoder e => (m.encoder e).hasEnd
  | .decoder d => (m.decoder d).hasEnd

end Memory

/-- The lowest plugin API version the host accepts. -/
def minApiVersion : Int32 := 1

/-- The highest API version the host accepts of a kind. -/
def maxApiVersion : Kind → Int32
  | .encoder => 3
  | .decoder => 4

/-- Whether the host can work with a plugin of this kind and API version. -/
def Kind.supports (kind : Kind) (version : Int32) : Bool :=
  minApiVersion ≤ version && version ≤ maxApiVersion kind

/-- An address differs from run to run, so descriptions put a mark in its place. -/
def addressMark : String := "0xADDR"

/-- A descriptor as diagnostics describe it. -/
def describeDescriptor (kind : Option Kind) : String :=
  let shown := match kind with
    | some .encoder => "Some(Encoder)"
    | some .decoder => "Some(Decoder)"
    | none => "None"
  s!"PluginDescriptor \x7b address: {addressMark}, kind: {shown} \x7d"

/-- An encoder as diagnostics describe it. -/
def describeEncoder (priority : Int32) : String :=
  s!"EncoderRef \x7b address: {addressMark}, priority: {priority} \x7d"

/-- A decoder as diagnostics describe it. -/
def describeDecoder : String :=
  s!"DecoderRef \x7b address: {addressMark} \x7d"

end CodecHost
