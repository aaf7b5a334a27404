import CodecHost.Config
import CodecHost.Text.Reader

/-! Settings in JSON. They stand in an object under their names, or in a list in
order. A key that is not known is passed over with its value, whatever that is,
and for that reason a text may hold half of a surrogate pair: it is an error only
where its characters are needed. -/
namespace CodecHost.Json

/-- A text is `none` when its escapes spell no sequence of characters. -/
inductive Value where
  | null
  | bool (value : Bool)
  | number
  | text (value : Option String)
  | list (items : List Value)
  | object (members : List (Option String × Value))

def isBlank (c : Char) : Bool := c = ' ' || c = '\t' || c = '\n' || c = '\r'

def blank : Reader Unit := do
  let _ ← Reader.takeWhile isBlank

/-- Part of a text: a character, or a number in an escape, which may be half of a
surrogate pair. -/
inductive Part where
  | char (c : Char)
  | unit (code : Nat)

/-- The character that a short escape stands for. -/
def shortEscape? : Char → Option Char
  | '"' => some '"'
  | '\\' => some '\\'
  | '/' => some '/'
  | 'b' => some '\x08'
  | 'f' => some '\x0c'
  | 'n' => some '\n'
  | 'r' => some '\r'
  | 't' => some '\t'
  | _ => none

/-- The parts of a text up to its closing quote. -/
def parts : Nat → Reader (List Part)
  | 0 => Reader.fail
  | fuel + 1 => do
    match ← Reader.next with
    | '"' => pure []
    | '\\' =>
      match ← Reader.next with
      | 'u' =>
        let digits ← Reader.takeExactly isHexDigit 4
        let rest ← parts fuel
        pure (.unit (numberOf 16 digits) :: rest)
      | c =>
        match shortEscape? c with
        | some escaped =>
          let rest ← parts fuel
          pure (.char escaped :: rest)
        | none => Reader.fail
    | c =>
      if c < ' ' then Reader.fail
      else
        let rest ← parts fuel
        pure (.char c :: rest)

def isHighHalf (code : Nat) : Bool := 0xD800 ≤ code && code ≤ 0xDBFF

def isLowHalf (code : Nat) : Bool := 0xDC00 ≤ code && code ≤ 0xDFFF

/-- The characters that parts spell. Halves of a surrogate pair have to come as a
pair. -/
def characters : List Part → Option (List Char)
  | [] => some []
  | .char c :: rest => (characters rest).map (c :: ·)
  | .unit high :: .unit low :: rest =>
    if isHighHalf high then
      if isLowHalf low then
        (characters rest).map (Char.ofNat (0x10000 + (high - 0xD800) * 0x400 + (low - 0xDC00)) :: ·)
      else none
    else if isLowHalf high then none
    else (characters (.unit low :: rest)).map (Char.ofNat high :: ·)
  | .unit code :: rest =>
    if isHighHalf code || isLowHalf code then none
    else (characters rest).map (Char.ofNat code :: ·)

/-- A text behind its opening quote. -/
def text : Reader (Option String) := fun cs => do
  let (found, rest) ← parts (cs.length + 1) cs
  pure ((characters found).map String.ofList, rest)

/-- Digits of which there has to be one. -/
def digits : Reader Unit := do
  let _ ← Reader.takeWhile1 isDecimal

/-- A number behind its sign. No further digit follows a leading zero. -/
def unsigned : Reader Unit := do
  let c ← Reader.next
  if c = '0' then pure ()
  else if isDecimal c then do
    let _ ← Reader.takeWhile isDecimal
  else Reader.fail
  if ← Reader.accept (· = '.') then digits
  if ← Reader.accept (fun c => c = 'e' || c = 'E') then
    let _ ← Reader.accept (fun c => c = '+' || c = '-')
    digits

mutual

/-- A value without the blanks around it. -/
def value : Nat → Reader Value
  | 0 => Reader.fail
  | fuel + 1 => do
    match ← Reader.peek? with
    | some '"' => do
      let _ ← Reader.next
      .text <$> text
    | some '[' => do
      let _ ← Reader.next
      blank
      if ← Reader.accept (· = ']') then pure (.list [])
      else .list <$> items fuel
    | some '\x7b' => do
      let _ ← Reader.next
      blank
      if ← Reader.accept (· = '\x7d') then pure (.object [])
      else .object <$> members fuel
    | some 'n' => do
      Reader.expectWord ['n', 'u', 'l', 'l']
      pure .null
    | some 't' => do
      Reader.expectWord ['t', 'r', 'u', 'e']
      pure (.bool true)
    | some 'f' => do
      Reader.expectWord ['f', 'a', 'l', 's', 'e']
      pure (.bool false)
    | _ => do
      let _ ← Reader.accept (· = '-')
      unsigned
      pure .number

/-- The items of a list up to its end. -/
def items : Nat → Reader (List Value)
  | 0 => Reader.fail
  | fuel + 1 => do
    let first ← value fuel
    blank
    match ← Reader.next with
    | ']' => pure [first]
    | ',' =>
      blank
      let rest ← items fuel
      pure (first :: rest)
    | _ => Reader.fail

/-- The members of an object up to its end. -/
def members : Nat → Reader (List (Option String × Value))
  | 0 => Reader.fail
  | fuel + 1 => do
    Reader.expect '"'
    let key ← text
    blank
    Reader.expect ':'
    blank
    let first ← value fuel
    blank
    match ← Reader.next with
    | '\x7d' => pure [(key, first)]
    | ',' =>
      blank
      let rest ← members fuel
      pure ((key, first) :: rest)
    | _ => Reader.fail

end

/-- A document is one value with blanks around it. Every level of the reader takes
a character or hands over to the next, so two steps for each character do. -/
def document : Reader Value := fun cs =>
  (do
    blank
    let v ← value (2 * cs.length + 2)
    blank
    pure v : Reader Value) cs

/-- The document that a text holds. -/
def parse? (source : String) : Option Value := Reader.whole document source.toList

def Value.path? : Value → Option Path
  | .text (some s) => some (.ofString s)
  | _ => none

/-- A list of paths. -/
def Value.paths? : Value → Option (List Path)
  | .list items => items.mapM Value.path?
  | _ => none

/-- A path, or nothing. -/
def Value.optionalPath? : Value → Option (Option Path)
  | .null => some none
  | v => v.path?.map some

/-- The one value of a key that may be missing: repeating a key is an error. -/
def unique? (members : List (String × Value)) (key : String) : Option (Option Value) :=
  match members.filter (·.1 = key) with
  | [] => some none
  | [(_, v)] => some (some v)
  | _ => none

/-- The settings in a document. -/
def Value.config? : Value → Option Config
  | .object members => do
    let named ← members.mapM fun (key, v) => key.map (·, v)
    let directories ← match ← unique? named "plugin_directories" with
      | some v => v.paths?
      | none => some []
    let default ← match ← unique? named "default_plugin_directory" with
      | some v => v.optionalPath?
      | none => some none
    pure ⟨directories, default⟩
  | .list [] => some .empty
  | .list [directories] => do pure ⟨← directories.paths?, none⟩
  | .list [directories, default] => do pure ⟨← directories.paths?, ← default.optionalPath?⟩
  | _ => none

/-- The settings that a text holds. -/
def config? (source : String) : Option Config := parse? source >>= Value.config?

end CodecHost.Json
