/-! A place in a YAML text, with the line and the column it is in. Lines end in a
carriage return, a line feed, both, or one of three Unicode separators. -/
namespace CodecHost.Yaml

/-- The next-line control character. -/
def nextLine : Char := '\u0085'

def lineSeparator : Char := '\u2028'

def paragraphSeparator : Char := '\u2029'

def isBreak (c : Char) : Bool :=
  c = '\n' || c = '\r' || c = nextLine || c = lineSeparator || c = paragraphSeparator

def isBlank (c : Char) : Bool := c = ' ' || c = '\t'

/-- Characters of names. -/
def isWord (c : Char) : Bool :=
  ('a' ≤ c && c ≤ 'z') || ('A' ≤ c && c ≤ 'Z') || ('0' ≤ c && c ≤ '9') || c = '_' || c = '-'

/-- Characters that may stand in a text at all. -/
def isPrintable (c : Char) : Bool :=
  c = '\t' || c = '\n' || c = '\r' || (' ' ≤ c && c ≤ '~') || c = nextLine ||
    ('\u00A0' ≤ c && c ≤ '\uFFFD') || 0x10000 ≤ c.toNat

structure Cursor where
  rest : List Char
  index : Nat
  line : Nat
  column : Nat

namespace Cursor

/-- The start of a text. -/
def start (text : List Char) : Cursor := ⟨text, 0, 0, 0⟩

def head? (c : Cursor) : Option Char := c.rest.head?

/-- The character `n` places on. -/
def ahead? (c : Cursor) (n : Nat) : Option Char := c.rest[n]?

def isAt (c : Cursor) (expected : Char) : Bool := c.head? = some expected

def atEnd (c : Cursor) : Bool := c.rest.isEmpty

def atBreak (c : Cursor) : Bool := c.head?.any isBreak

def atBlank (c : Cursor) : Bool := c.head?.any isBlank

def atBreakOrEnd (c : Cursor) : Bool := c.atEnd || c.atBreak

/-- Whether a blank, a break or the end of the text is `n` places on. -/
def isGap (c : Cursor) (n : Nat) : Bool :=
  match c.ahead? n with
  | none => true
  | some d => isBlank d || isBreak d

/-- Past one character that is no break. -/
def skip (c : Cursor) : Cursor :=
  match c.rest with
  | [] => c
  | _ :: rest => ⟨rest, c.index + 1, c.line, c.column + 1⟩

def skipMany : Nat → Cursor → Cursor
  | 0, c => c
  | n + 1, c => skipMany n c.skip

/-- Past a break. -/
def skipLine (c : Cursor) : Cursor :=
  match c.rest with
  | '\r' :: '\n' :: rest => ⟨rest, c.index + 2, c.line + 1, 0⟩
  | b :: rest => if isBreak b then ⟨rest, c.index + 1, c.line + 1, 0⟩ else c
  | [] => c

/-- What a break counts for in a scalar. The separators stand for themselves, and
every other break is a line feed. -/
def breakText (c : Cursor) : List Char :=
  match c.head? with
  | none => []
  | some b =>
    if b = lineSeparator || b = paragraphSeparator then [b]
    else if isBreak b then ['\n']
    else []

/-- The characters from here on that satisfy `p`, none of them a break, and the
place behind them. -/
def takeWhile (p : Char → Bool) (c : Cursor) : List Char × Cursor :=
  let taken := c.rest.takeWhile p
  (taken, ⟨c.rest.dropWhile p, c.index + taken.length, c.line, c.column + taken.length⟩)

def skipWhile (p : Char → Bool) (c : Cursor) : Cursor := (c.takeWhile p).2

/-- Past the characters up to the end of the line. -/
def skipToBreak (c : Cursor) : Cursor := c.skipWhile fun d => !isBreak d

/-- Three dashes or three dots alone at the start of a line bound documents. -/
def atDocumentMark (c : Cursor) : Bool :=
  c.column = 0 && (['-', '-', '-'].isPrefixOf c.rest || ['.', '.', '.'].isPrefixOf c.rest) &&
    c.isGap 3

end Cursor
end CodecHost.Yaml
