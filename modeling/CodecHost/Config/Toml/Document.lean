import CodecHost.Config.Toml.Number
import CodecHost.Config.Toml.Table
import CodecHost.Config.Toml.Text

/-! A TOML document is a sequence of lines: blank ones, comments, headers that say
which table the next lines write to, and lines that write a value under a key. -/
namespace CodecHost.Toml

/-- Paths of keys and values inside values may not be this deep. -/
def depthLimit : Nat := 80

def isBareKey (c : Char) : Bool :=
  ('a' ≤ c && c ≤ 'z') || ('A' ≤ c && c ≤ 'Z') || isDecimal c || c = '_' || c = '-'

/-- One part of a key, bare or quoted. -/
def simpleKey : Reader String := do
  match ← Reader.peek? with
  | some '"' | some '\'' => shortText
  | _ => String.ofList <$> Reader.takeWhile1 isBareKey

/-- The parts of a key, with dots between them and blanks around them. -/
def keyParts : Nat → Reader (List String)
  | 0 => Reader.fail
  | fuel + 1 => do
    blank
    let first ← simpleKey
    blank
    if ← Reader.accept (· = '.') then
      let rest ← keyParts fuel
      pure (first :: rest)
    else pure [first]

/-- A key, as the path to a table and the name in it. -/
def key : Reader (List String × String) := do
  let parts ← keyParts depthLimit
  match parts.getLast? with
  | some name => if parts.length < depthLimit then pure (parts.dropLast, name) else Reader.fail
  | none => Reader.fail

/-- A comment up to the end of its line, if there is one. -/
def comment : Reader Unit := do
  if ← Reader.accept (· = '#') then
    let _ ← Reader.takeWhile isPlain

/-- Blanks, comments and line breaks. -/
def filler : Nat → Reader Unit
  | 0 => pure ()
  | fuel + 1 => do
    blank
    match ← Reader.peek? with
    | some '#' =>
      comment
      filler fuel
    | _ =>
      if ← acceptBreak then filler fuel else pure ()

/-- All blanks, comments and line breaks that come next. -/
def fillers : Reader Unit := withFuel filler

mutual

/-- A value; `depth` more levels may be opened inside it. -/
def value : Nat → Nat → Reader Node
  | _, 0 => Reader.fail
  | depth, fuel + 1 => do
    match ← Reader.peek? with
    | some '"' | some '\'' => .text <$> text
    | some '[' =>
      if depth = 0 then Reader.fail
      else
        let _ ← Reader.next
        fillers
        if ← Reader.accept (· = ']') then pure (.array [])
        else .array <$> items (depth - 1) fuel
    | some '\x7b' =>
      if depth = 0 then Reader.fail
      else
        let _ ← Reader.next
        blank
        if ← Reader.accept (· = '\x7d') then pure .other
        else
          pairs (depth - 1) fuel (.explicit [])
          pure .other
    | some c =>
      if c = '+' || c = '-' || isDecimal c then numeric else named
      pure .other
    | none => Reader.fail

/-- The items of an array up to its end. A comma may stand behind the last one. -/
def items : Nat → Nat → Reader (List Node)
  | _, 0 => Reader.fail
  | depth, fuel + 1 => do
    let first ← value depth fuel
    fillers
    if ← Reader.accept (· = ',') then
      fillers
      if ← Reader.accept (· = ']') then pure [first]
      else
        let rest ← items depth fuel
        pure (first :: rest)
    else
      Reader.expect ']'
      pure [first]

/-- The pairs of an inline table up to its end, written one after the other into the
table that those before have made. -/
def pairs : Nat → Nat → Table → Reader Unit
  | _, 0, _ => Reader.fail
  | depth, fuel + 1, t => do
    let (path, name) ← key
    Reader.expect '='
    blank
    let v ← value depth fuel
    blank
    match t.put path name v with
    | none => Reader.fail
    | some t =>
      if ← Reader.accept (· = ',') then pairs depth fuel t
      else Reader.expect '\x7d'

end

/-- A line of a document. -/
inductive Line where
  | blank
  | header (path : List String) (name : String)
  | arrayHeader (path : List String) (name : String)
  | pair (path : List String) (name : String) (value : Node)

/-- The content of a line. -/
def content : Reader Line := do
  match ← Reader.peek? with
  | none | some '#' | some '\n' | some '\r' => pure .blank
  | some '[' =>
    if ← Reader.acceptWord ['[', '['] then
      let (path, name) ← key
      Reader.expectWord [']', ']']
      pure (.arrayHeader path name)
    else
      let _ ← Reader.next
      let (path, name) ← key
      Reader.expect ']'
      pure (.header path name)
  | some _ =>
    let (path, name) ← key
    Reader.expect '='
    blank
    let v ← fun text => value (depthLimit - 1) (2 * text.length + 2) text
    pure (.pair path name v)

/-- A line without its break. -/
def line : Reader Line := do
  blank
  let found ← content
  blank
  comment
  pure found

/-- The lines of a document. -/
def lines : Nat → Reader (List Line)
  | 0 => Reader.fail
  | fuel + 1 => do
    let first ← line
    if ← acceptBreak then
      let rest ← lines fuel
      pure (first :: rest)
    else pure [first]

/-- What has been read: the finished tables, and the table that lines write to. -/
structure State where
  root : Table
  current : Table
  /-- Where the current table belongs; the first one is the root itself. -/
  place : Option (List String × String)
  inArray : Bool

def State.start : State := ⟨.explicit [], .explicit [], none, false⟩

/-- The root with the current table put where it belongs. -/
def State.finish (s : State) : Option Table :=
  match s.place with
  | none => some s.current
  | some (path, name) =>
    if s.inArray then s.root.addToArray path name s.current.entries
    else s.root.addTable path name s.current.entries

/-- What a line does. -/
def State.read (s : State) : Line → Option State
  | .blank => some s
  | .pair path name v => (s.current.put path name v).map fun current => { s with current }
  | .header path name => do
    let root ← s.finish
    let (entries, root) ← root.takeForHeader path name
    pure ⟨root, .explicit entries, some (path, name), false⟩
  | .arrayHeader path name => do
    let root ← s.finish
    let root ← root.admitsArray path name
    pure ⟨root, .explicit [], some (path, name), true⟩

/-- A byte order mark may stand in front of a document. -/
def withoutMark : List Char → List Char
  | '\uFEFF' :: rest => rest
  | text => text

/-- The tables that a text holds. -/
def parse? (source : String) : Option Table := do
  let text := withoutMark source.toList
  let read ← Reader.whole (lines (text.length + 1)) text
  let final ← read.foldlM State.read State.start
  final.finish

end CodecHost.Toml
