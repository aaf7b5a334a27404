import CodecHost.Text.Reader

/-! Texts in TOML. A basic text has escapes, a literal text stands for itself, and
each has a form with three quotes that may run over several lines. A line break
is a line feed, alone or behind a carriage return. -/
namespace CodecHost.Toml

def isBlank (c : Char) : Bool := c = ' ' || c = '\t'

def blank : Reader Unit := do
  let _ ← Reader.takeWhile isBlank

/-- A line break, if there is one. -/
def acceptBreak : Reader Bool
  | '\n' :: rest => some (true, rest)
  | '\r' :: '\n' :: rest => some (true, rest)
  | text => some (false, text)

/-- Characters that may stand for themselves: no control character but the tab. -/
def isPlain (c : Char) : Bool := c = '\t' || (' ' ≤ c && c ≠ '\x7f')

/-- The character of a long escape. Surrogates have none. -/
def longEscape (length : Nat) : Reader Char := do
  let digits ← Reader.takeExactly isHexDigit length
  match charOfCode? (numberOf 16 digits) with
  | some c => pure c
  | none => Reader.fail

/-- An escape behind its backslash. -/
def escape : Reader Char := do
  match ← Reader.next with
  | 'b' => pure '\x08'
  | 't' => pure '\t'
  | 'n' => pure '\n'
  | 'f' => pure '\x0c'
  | 'r' => pure '\r'
  | '"' => pure '"'
  | '\\' => pure '\\'
  | 'u' => longEscape 4
  | 'U' => longEscape 8
  | _ => Reader.fail

/-- A basic text up to its closing quote. -/
def basicBody : Nat → Reader (List Char)
  | 0 => Reader.fail
  | fuel + 1 => do
    match ← Reader.next with
    | '"' => pure []
    | '\\' =>
      let c ← escape
      let rest ← basicBody fuel
      pure (c :: rest)
    | c =>
      if isPlain c then
        let rest ← basicBody fuel
        pure (c :: rest)
      else Reader.fail

/-- A literal text up to its closing quote. -/
def literalBody : Reader (List Char) := do
  let taken ← Reader.takeWhile fun c => isPlain c && c ≠ '\''
  Reader.expect '\''
  pure taken

/-- A text without the blanks and line breaks it starts with. -/
def withoutLines : List Char → List Char
  | ' ' :: rest => withoutLines rest
  | '\t' :: rest => withoutLines rest
  | '\n' :: rest => withoutLines rest
  | '\r' :: '\n' :: rest => withoutLines rest
  | text => text

/-- What follows a backslash at the end of a line: blanks, a line break, and then
all blanks and line breaks up to the next character. -/
def lineContinuation : Reader Bool := fun text =>
  match acceptBreak (text.dropWhile isBlank) with
  | some (true, rest) => some (true, withoutLines rest)
  | _ => some (false, text)

/-- Quotes that end a text of three quotes, or that belong to it. A text may end in
up to two quotes of its own. -/
def closing (quote : Char) : Reader (List Char × Bool) := fun text =>
  let run := (text.takeWhile (· = quote)).length
  if run < 3 then some ((List.replicate run quote, false), text.drop run)
  else
    let own := min (run - 3) 2
    some ((List.replicate own quote, true), text.drop (own + 3))

/-- A basic text of three quotes up to its end. -/
def longBasicBody : Nat → Reader (List Char)
  | 0 => Reader.fail
  | fuel + 1 => do
    match ← Reader.peek? with
    | none => Reader.fail
    | some '"' =>
      let (quotes, ended) ← closing '"'
      if ended then pure quotes
      else
        let rest ← longBasicBody fuel
        pure (quotes ++ rest)
    | some '\\' =>
      let _ ← Reader.next
      if ← lineContinuation then longBasicBody fuel
      else
        let c ← escape
        let rest ← longBasicBody fuel
        pure (c :: rest)
    | some c =>
      if ← acceptBreak then
        let rest ← longBasicBody fuel
        pure ('\n' :: rest)
      else if isPlain c then
        let _ ← Reader.next
        let rest ← longBasicBody fuel
        pure (c :: rest)
      else Reader.fail

/-- A literal text of three quotes up to its end. -/
def longLiteralBody : Nat → Reader (List Char)
  | 0 => Reader.fail
  | fuel + 1 => do
    match ← Reader.peek? with
    | none => Reader.fail
    | some '\'' =>
      let (quotes, ended) ← closing '\''
      if ended then pure quotes
      else
        let rest ← longLiteralBody fuel
        pure (quotes ++ rest)
    | some c =>
      if ← acceptBreak then
        let rest ← longLiteralBody fuel
        pure ('\n' :: rest)
      else if isPlain c then
        let _ ← Reader.next
        let rest ← longLiteralBody fuel
        pure (c :: rest)
      else Reader.fail

/-- Runs a reader that takes at least one character at each level. -/
def withFuel {α : Type} (reader : Nat → Reader α) : Reader α := fun text =>
  reader (text.length + 1) text

/-- A text on one line, as keys use it. -/
def shortText : Reader String := do
  match ← Reader.next with
  | '"' => String.ofList <$> withFuel basicBody
  | '\'' => String.ofList <$> literalBody
  | _ => Reader.fail

/-- A text of any form. A line break right behind three opening quotes does not
count. -/
def text : Reader String := do
  if ← Reader.acceptWord ['"', '"', '"'] then
    let _ ← acceptBreak
    String.ofList <$> withFuel longBasicBody
  else if ← Reader.acceptWord ['\'', '\'', '\''] then
    let _ ← acceptBreak
    String.ofList <$> withFuel longLiteralBody
  else shortText

end CodecHost.Toml
