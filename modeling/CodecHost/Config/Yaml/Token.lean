import CodecHost.Config.Yaml.Scalar
import CodecHost.Text.Utf8

/-! The tokens of YAML. Indentation becomes tokens that open and close blocks. A key
is only known to be one at the colon behind it, so a place where a key may begin is
kept in mind, and its tokens are put there later. Such a key stays on one line and
is not longer than 1024 characters. -/
namespace CodecHost.Yaml

/-- Part of a tag, in bytes because escapes in it spell bytes. -/
abbrev TagText := Bytes

inductive Token where
  | version (major minor : Nat)
  | tagHandle (handle : TagText) (stands : TagText)
  | documentStart
  | documentEnd
  | sequenceStart
  | mappingStart
  | blockEnd
  | flowSequenceStart
  | flowSequenceEnd
  | flowMappingStart
  | flowMappingEnd
  | flowEntry
  | blockEntry
  | key
  | value
  | anchor (name : String)
  | alias (name : String)
  | tag (handle suffix : TagText)
  | scalar (plain : Bool) (text : String)
  deriving DecidableEq

/-! Tags and names. -/

/-- Bytes of ASCII characters. -/
def asciiBytes (text : List Char) : TagText := text.map fun c => UInt8.ofNat c.toNat

/-- Characters of a tag's address. Between angle brackets it may hold a comma and
square brackets too. -/
def isAddress (wide : Bool) (c : Char) : Bool :=
  isWord c || [';', '/', '?', ':', '@', '&', '=', '+', '$', '.', '%', '!', '~', '*', '\'', '(', ')'].contains c ||
    (wide && (c = ',' || c = '[' || c = ']'))

/-- The number of bytes in a UTF-8 character that starts with the given byte. -/
def width? (lead : Nat) : Option Nat :=
  if lead < 0x80 then some 1
  else if 0xC0 ≤ lead ∧ lead < 0xE0 then some 2
  else if 0xE0 ≤ lead ∧ lead < 0xF0 then some 3
  else if 0xF0 ≤ lead ∧ lead < 0xF8 then some 4
  else none

/-- A byte escape: a percent sign and two digits. -/
def byteEscape? (c : Cursor) : Option (Nat × Cursor) :=
  match c.rest with
  | '%' :: high :: low :: _ =>
    if isHexDigit high && isHexDigit low then some (numberOf 16 [high, low], c.skipMany 3) else none
  | _ => none

/-- The bytes that continue an escaped character. -/
def trailingEscapes : Nat → Cursor → Option (TagText × Cursor)
  | 0, c => some ([], c)
  | n + 1, c => do
    let (byte, c) ← byteEscape? c
    if 0x80 ≤ byte ∧ byte < 0xC0 then
      let (others, c) ← trailingEscapes n c
      some (UInt8.ofNat byte :: others, c)
    else none

/-- An escaped character. -/
def escapedBytes (c : Cursor) : Option (TagText × Cursor) := do
  let (lead, c) ← byteEscape? c
  let width ← width? lead
  let (others, c) ← trailingEscapes (width - 1) c
  some (UInt8.ofNat lead :: others, c)

/-- The address of a tag, which may be empty. -/
def addressFrom (wide : Bool) : Nat → TagText → Cursor → Option (TagText × Cursor)
  | 0, _, _ => none
  | fuel + 1, found, c =>
    match c.head? with
    | none => some (found, c)
    | some d =>
      if d = '%' then do
        let (bytes, c) ← escapedBytes c
        addressFrom wide fuel (found ++ bytes) c
      else if isAddress wide d then addressFrom wide fuel (found ++ asciiBytes [d]) c.skip
      else some (found, c)

/-- The address of a tag up to a zero byte in it. Without a `head` in front it is not
empty. -/
def address (wide : Bool) (head : List Char) (c : Cursor) : Option (TagText × Cursor) := do
  let (found, after) ← addressFrom wide (c.rest.length + 1) (asciiBytes head.tail) c
  if head.isEmpty && after.index = c.index then none
  else some (found.takeWhile (· ≠ 0), after)

/-- A tag's handle: an exclamation mark, and perhaps a word with another behind it. -/
def handle (c : Cursor) : Option (List Char × Cursor) :=
  if c.isAt '!' then
    let (word, c) := c.skip.takeWhile isWord
    if c.isAt '!' then some ('!' :: word ++ ['!'], c.skip) else some ('!' :: word, c)
  else none

/-- A handle that ends in a second exclamation mark. -/
def isClosedHandle (text : List Char) : Bool :=
  match text with
  | _ :: _ :: _ => text.getLast? = some '!'
  | _ => false

/-- A tag, from its exclamation mark on. A tag of that mark alone has no handle. -/
def tagToken (c : Cursor) : Option (Token × Cursor) := do
  if c.ahead? 1 = some '<' then
    let (found, c) ← address true [] (c.skipMany 2)
    if c.isAt '>' then some (.tag [] found, c.skip) else none
  else
    let (start, c) ← handle c
    if isClosedHandle start then
      let (suffix, c) ← address false [] c
      some (.tag (asciiBytes start) suffix, c)
    else
      let (suffix, c) ← address false start c
      if suffix.isEmpty then some (.tag [] (asciiBytes ['!']), c)
      else some (.tag (asciiBytes ['!']) suffix, c)

/-- The name of an anchor or an alias, behind its mark. -/
def anchorName (c : Cursor) : Option (String × Cursor) :=
  let (word, after) := c.takeWhile isWord
  let ends := after.isGap 0 ||
    after.head?.any fun d => ['?', ':', ',', ']', '\x7d', '%', '@', '\x60'].contains d
  if !word.isEmpty && ends then some (String.ofList word, after) else none

/-! Directives. -/

/-- A number of at most nine digits. -/
def versionNumber (c : Cursor) : Option (Nat × Cursor) :=
  let (digits, after) := c.takeWhile isDecimal
  if digits.isEmpty || 9 < digits.length then none else some (numberOf 10 digits, after)

def versionDirective (c : Cursor) : Option (Token × Cursor) := do
  let (major, c) ← versionNumber (c.skipWhile isBlank)
  if c.isAt '.' then
    let (minor, c) ← versionNumber c.skip
    some (.version major minor, c)
  else none

def tagDirective (c : Cursor) : Option (Token × Cursor) := do
  let (start, c) ← handle (c.skipWhile isBlank)
  if start ≠ ['!'] && !isClosedHandle start then none
  else if !c.atBlank then none
  else
    let (stands, c) ← address true [] (c.skipWhile isBlank)
    if c.isGap 0 then some (.tagHandle (asciiBytes start) stands, c) else none

/-- A directive from its percent sign on, with the rest of its line. -/
def directive (c : Cursor) : Option (Token × Cursor) := do
  let (name, c) := c.skip.takeWhile isWord
  if !c.isGap 0 then none
  else
    let (token, c) ←
      if name = ['Y', 'A', 'M', 'L'] then versionDirective c
      else if name = ['T', 'A', 'G'] then tagDirective c
      else none
    let c := c.skipWhile isBlank
    let c := if c.isAt '#' then c.skipToBreak else c
    if c.atBreakOrEnd then some (token, c.skipLine) else none

/-! The lexer. -/

/-- A place where a key may begin, and how many tokens come before it. A key is
required where a line starts at the indentation of a block. -/
structure PossibleKey where
  required : Bool
  tokens : Nat
  index : Nat
  line : Nat
  column : Nat

structure Lexer where
  cursor : Cursor
  /-- The tokens found so far, the newest first. -/
  found : List Token
  /-- The column of the innermost block, or minus one. -/
  indent : Int
  /-- The columns of the blocks around it. -/
  outer : List Int
  /-- Whether a key may begin here. -/
  keyAllowed : Bool
  /-- The place of a possible key for each open bracket and for the outside, the
  innermost first. -/
  keys : List (Option PossibleKey)

namespace Lexer

def start (text : List Char) : Lexer := ⟨.start text, [], -1, [], true, [none]⟩

/-- Whether a bracket is open. -/
def inFlow (l : Lexer) : Bool := 1 < l.keys.length

def push (l : Lexer) (t : Token) : Lexer := { l with found := t :: l.found }

/-- Puts a token behind the first `count` ones. -/
def insertAt (l : Lexer) (count : Nat) (t : Token) : Lexer :=
  let after := l.found.length - count
  { l with found := l.found.take after ++ t :: l.found.drop after }

/-- A byte order mark may stand at the start of a line, where it takes up a column. -/
def byteOrderMark : Char := '\uFEFF'

/-- Blanks, comments and breaks up to the next token. A tab counts as a blank only
where no key may begin, or in brackets. Outside brackets a new line may begin with
a key. -/
def skipToToken : Nat → Lexer → Lexer
  | 0, l => l
  | fuel + 1, l =>
    let tabs := l.inFlow || !l.keyAllowed
    let c := if l.cursor.column = 0 && l.cursor.isAt byteOrderMark then l.cursor.skip else l.cursor
    let c := c.skipWhile fun d => d = ' ' || (tabs && d = '\t')
    let c := if c.isAt '#' then c.skipToBreak else c
    if c.atBreak then
      skipToToken fuel { l with cursor := c.skipLine, keyAllowed := l.keyAllowed || !l.inFlow }
    else { l with cursor := c }

/-- A possible key that is too far back is none. A required key may not be lost. -/
def PossibleKey.stale (k : PossibleKey) (c : Cursor) : Bool :=
  k.line < c.line || k.index + 1024 < c.index

/-- Gives up keys that are too far back. -/
def dropStale (l : Lexer) : Option Lexer := do
  let keys ← l.keys.mapM fun key =>
    match key with
    | some k => if PossibleKey.stale k l.cursor then (if k.required then none else some none) else some (some k)
    | none => some none
  some { l with keys }

/-- Gives up the innermost possible key, which may not be required. -/
def removeKey (l : Lexer) : Option Lexer :=
  match l.keys with
  | some k :: rest => if k.required then none else some { l with keys := none :: rest }
  | _ => some l

/-- Keeps this place in mind if a key may begin here. -/
def saveKey (l : Lexer) : Option Lexer :=
  if l.keyAllowed then do
    let key : PossibleKey :=
      { required := !l.inFlow && l.indent = l.cursor.column
        tokens := l.found.length
        index := l.cursor.index
        line := l.cursor.line
        column := l.cursor.column }
    let l ← l.removeKey
    some { l with keys := some key :: l.keys.tail }
  else some l

/-- Opens a block at a column that is further in than the innermost one. Its token
goes behind the first `count` ones. -/
def openBlock (l : Lexer) (column : Nat) (count : Nat) (t : Token) : Lexer :=
  if !l.inFlow && l.indent < column then
    { l with indent := column, outer := l.indent :: l.outer }.insertAt count t
  else l

/-- Closes the blocks that stand further in than a column. -/
def closeTo (column : Int) : List Int → Lexer → Lexer
  | [], l => { l with outer := [] }
  | next :: rest, l =>
    if column < l.indent then
      closeTo column rest { l.push .blockEnd with indent := next, outer := rest }
    else { l with outer := next :: rest }

/-- Closes blocks, unless a bracket is open. -/
def closeBlocks (l : Lexer) (column : Int) : Lexer :=
  if l.inFlow then l else closeTo column l.outer l

/-- A token of so many characters. -/
def take (l : Lexer) (length : Nat) (t : Token) : Lexer :=
  { l with cursor := l.cursor.skipMany length }.push t

/-- A mark between documents closes all blocks. -/
def documentMark (l : Lexer) (t : Token) : Option Lexer := do
  let l ← (l.closeBlocks (-1)).removeKey
  some ({ l with keyAllowed := false }.take 3 t)

def directiveLine (l : Lexer) : Option Lexer := do
  let l ← (l.closeBlocks (-1)).removeKey
  let (token, cursor) ← directive l.cursor
  some ({ l with keyAllowed := false, cursor }.push token)

/-- A bracket that opens may be the beginning of a key. -/
def flowStart (l : Lexer) (t : Token) : Option Lexer := do
  let l ← l.saveKey
  some ({ l with keys := none :: l.keys, keyAllowed := true }.take 1 t)

def flowEnd (l : Lexer) (t : Token) : Option Lexer := do
  let l ← l.removeKey
  let keys := match l.keys with
    | _ :: outer :: rest => outer :: rest
    | keys => keys
  some ({ l with keys, keyAllowed := false }.take 1 t)

def flowEntry (l : Lexer) : Option Lexer := do
  let l ← l.removeKey
  some ({ l with keyAllowed := true }.take 1 .flowEntry)

/-- A dash, which may open a sequence. -/
def blockEntry (l : Lexer) : Option Lexer := do
  if !l.inFlow && !l.keyAllowed then none
  else
    let l ← (l.openBlock l.cursor.column l.found.length .sequenceStart).removeKey
    some ({ l with keyAllowed := true }.take 1 .blockEntry)

/-- A question mark, which may open a mapping. -/
def keyMark (l : Lexer) : Option Lexer := do
  if !l.inFlow && !l.keyAllowed then none
  else
    let l ← (l.openBlock l.cursor.column l.found.length .mappingStart).removeKey
    some ({ l with keyAllowed := !l.inFlow }.take 1 .key)

/-- A colon makes a key of what began at the possible key, or it follows a key of
several lines. -/
def valueMark (l : Lexer) : Option Lexer :=
  match l.keys with
  | some k :: rest =>
    let l := (l.insertAt k.tokens .key).openBlock k.column k.tokens .mappingStart
    some ({ l with keys := none :: rest, keyAllowed := false }.take 1 .value)
  | _ =>
    if !l.inFlow && !l.keyAllowed then none
    else
      let l := l.openBlock l.cursor.column l.found.length .mappingStart
      some ({ l with keyAllowed := !l.inFlow }.take 1 .value)

/-- A name behind an ampersand or an asterisk. -/
def nameMark (l : Lexer) (make : String → Token) : Option Lexer := do
  let l ← l.saveKey
  let (name, cursor) ← anchorName l.cursor.skip
  some ({ l with keyAllowed := false, cursor }.push (make name))

def tagMark (l : Lexer) : Option Lexer := do
  let l ← l.saveKey
  let (token, cursor) ← tagToken l.cursor
  if cursor.isGap 0 || (l.inFlow && cursor.isAt ',') then
    some ({ l with keyAllowed := false, cursor }.push token)
  else none

def blockScalar (l : Lexer) (literal : Bool) : Option Lexer := do
  let l ← l.removeKey
  let (text, cursor) ← block literal l.indent l.cursor
  some ({ l with keyAllowed := true, cursor }.push (.scalar false (String.ofList text)))

def quotedScalar (l : Lexer) (single : Bool) : Option Lexer := do
  let l ← l.saveKey
  let (text, cursor) ← quoted single l.cursor
  some ({ l with keyAllowed := false, cursor }.push (.scalar false (String.ofList text)))

def plainScalar (l : Lexer) : Option Lexer := do
  let l ← l.saveKey
  let (text, broken, cursor) ← plain l.inFlow l.indent l.cursor
  some ({ l with keyAllowed := broken, cursor }.push (.scalar true (String.ofList text)))

/-- Characters that do not begin a plain scalar. -/
def isIndicator (c : Char) : Bool :=
  ['-', '?', ':', ',', '[', ']', '\x7b', '\x7d', '#', '&', '*', '!', '|', '>', '\'', '"', '%', '@',
    '\x60'].contains c

/-- Whether a plain scalar begins here. -/
def beginsPlain (l : Lexer) (d : Char) : Bool :=
  let c := l.cursor
  !(isBlank d || isBreak d || isIndicator d) || (d = '-' && !(c.ahead? 1).any isBlank) ||
    (!l.inFlow && (d = '?' || d = ':') && !c.isGap 1)

/-- The next token. -/
def next (l : Lexer) (d : Char) : Option Lexer :=
  let c := l.cursor
  if c.column = 0 && d = '%' then l.directiveLine
  else if c.atDocumentMark then
    l.documentMark (if d = '-' then .documentStart else .documentEnd)
  else if d = '[' then l.flowStart .flowSequenceStart
  else if d = '\x7b' then l.flowStart .flowMappingStart
  else if d = ']' then l.flowEnd .flowSequenceEnd
  else if d = '\x7d' then l.flowEnd .flowMappingEnd
  else if d = ',' then l.flowEntry
  else if d = '-' && c.isGap 1 then l.blockEntry
  else if d = '?' && (l.inFlow || c.isGap 1) then l.keyMark
  else if d = ':' && (l.inFlow || c.isGap 1) then l.valueMark
  else if d = '*' then l.nameMark .alias
  else if d = '&' then l.nameMark .anchor
  else if d = '!' then l.tagMark
  else if d = '|' && !l.inFlow then l.blockScalar true
  else if d = '>' && !l.inFlow then l.blockScalar false
  else if d = '\'' then l.quotedScalar true
  else if d = '"' then l.quotedScalar false
  else if l.beginsPlain d then l.plainScalar
  else none

/-- The end of the text closes all blocks. -/
def finish (l : Lexer) : Option Lexer := (l.closeBlocks (-1)).removeKey

/-- All tokens of the text. Every step takes at least one character. -/
def run : Nat → Lexer → Option Lexer
  | 0, _ => none
  | fuel + 1, l => do
    let l ← (skipToToken (l.cursor.rest.length + 1) l).dropStale
    let l := l.closeBlocks l.cursor.column
    match l.cursor.head? with
    | none => l.finish
    | some d =>
      let l ← l.next d
      run fuel l

end Lexer

/-- The tokens of a text. -/
def tokens? (source : String) : Option (List Token) :=
  let text := source.toList
  if text.all isPrintable then
    ((Lexer.start text).run (text.length + 1)).map fun l => l.found.reverse
  else none

end CodecHost.Yaml
