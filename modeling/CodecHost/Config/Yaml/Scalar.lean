import CodecHost.Config.Yaml.Cursor
import CodecHost.Text.Reader

/-! Scalars in YAML: plain ones, quoted ones, and blocks of lines. Where a scalar of
the first two kinds runs over a line break, the break and the blanks around it
count as one space, and further breaks count for themselves. -/
namespace CodecHost.Yaml

/-- Blanks and breaks between the words of a scalar: the blanks before the first
break, that break, and the breaks behind it. -/
structure Gap where
  blanks : List Char
  first : List Char
  more : List Char
  broken : Bool

/-- Nothing between two words. -/
def Gap.none : Gap := ⟨[], [], [], false⟩

/-- What a gap counts for. -/
def Gap.text (g : Gap) : List Char :=
  if g.broken then
    if g.first = ['\n'] then (if g.more.isEmpty then [' '] else g.more)
    else g.first ++ g.more
  else g.blanks

/-- The blanks and breaks that come next. `allowed` says where a blank may stand once
a line has been broken. -/
def gap (allowed : Cursor → Bool) : Nat → Gap → Cursor → Option (Gap × Cursor)
  | 0, _, _ => none
  | fuel + 1, g, c =>
    match c.head? with
    | none => some (g, c)
    | some b =>
      if isBlank b then
        if g.broken then
          if allowed c then gap allowed fuel g c.skip else none
        else gap allowed fuel { g with blanks := g.blanks ++ [b] } c.skip
      else if isBreak b then
        if g.broken then gap allowed fuel { g with more := g.more ++ c.breakText } c.skipLine
        else gap allowed fuel ⟨[], c.breakText, [], true⟩ c.skipLine
      else some (g, c)

/-! Plain scalars. -/

/-- Characters that bound a scalar inside brackets. -/
def isFlowIndicator (c : Char) : Bool :=
  c = ',' || c = '[' || c = ']' || c = '\x7b' || c = '\x7d'

/-- A word of a plain scalar. A colon before a gap ends it, and so does an indicator
inside brackets, where a colon may not stand before one. -/
def plainWord (inFlow : Bool) : List Char → Option (List Char)
  | [] => some []
  | c :: rest =>
    if isBlank c || isBreak c then some []
    else if c = ':' && (match rest with
        | [] => true
        | d :: _ => isBlank d || isBreak d) then some []
    else if inFlow && c = ':' && (match rest with
        | [] => false
        | d :: _ => isFlowIndicator d || d = '?') then none
    else if inFlow && isFlowIndicator c then some []
    else (plainWord inFlow rest).map (c :: ·)

/-- A plain scalar up to its end, and whether a line was broken behind its last word.
Outside brackets every line of it stands further in than `indent`. -/
def plainFrom (inFlow : Bool) (indent : Int) :
    Nat → List Char → Gap → Cursor → Option (List Char × Bool × Cursor)
  | 0, _, _, _ => none
  | fuel + 1, text, g, c =>
    if c.atDocumentMark || c.isAt '#' then some (text, g.broken, c)
    else do
      let word ← plainWord inFlow c.rest
      let text := if word.isEmpty then text else text ++ g.text ++ word
      let g := if word.isEmpty then g else Gap.none
      let c := c.skipMany word.length
      if c.atBlank || c.atBreak then
        let tabAllowed (at_ : Cursor) : Bool := !(at_.isAt '\t' && (at_.column : Int) < indent + 1)
        let (g, c) ← gap tabAllowed (c.rest.length + 1) g c
        if !inFlow && (c.column : Int) < indent + 1 then some (text, g.broken, c)
        else plainFrom inFlow indent fuel text g c
      else some (text, g.broken, c)

/-- A plain scalar. -/
def plain (inFlow : Bool) (indent : Int) (c : Cursor) : Option (List Char × Bool × Cursor) :=
  plainFrom inFlow indent (c.rest.length + 1) [] .none c

/-! Quoted scalars. -/

/-- The character that a short escape stands for. -/
def shortEscape? : Char → Option Char
  | '0' => some '\x00'
  | 'a' => some '\x07'
  | 'b' => some '\x08'
  | 't' => some '\t'
  | '\t' => some '\t'
  | 'n' => some '\n'
  | 'v' => some '\x0b'
  | 'f' => some '\x0c'
  | 'r' => some '\r'
  | 'e' => some '\x1b'
  | ' ' => some ' '
  | '"' => some '"'
  | '/' => some '/'
  | '\\' => some '\\'
  | 'N' => some nextLine
  | '_' => some '\u00A0'
  | 'L' => some lineSeparator
  | 'P' => some paragraphSeparator
  | _ => none

/-- How many digits follow the letter of a long escape. -/
def escapeLength? : Char → Option Nat
  | 'x' => some 2
  | 'u' => some 4
  | 'U' => some 8
  | _ => none

/-- An escape behind its backslash. -/
def escape? (c : Cursor) : Option (Char × Cursor) := do
  let letter ← c.head?
  match escapeLength? letter with
  | some length =>
    let digits := c.rest.tail.take length
    if digits.length = length && digits.all isHexDigit then
      let found ← charOfCode? (numberOf 16 digits)
      some (found, c.skipMany (length + 1))
    else none
  | none => (shortEscape? letter).map (·, c.skip)

/-- A word of a quoted scalar, and whether an escaped break ended it. The characters
found so far stand in `word`, the newest first. -/
def quotedWord (single : Bool) :
    Nat → List Char → Cursor → Option (List Char × Bool × Cursor)
  | 0, _, _ => none
  | fuel + 1, word, c =>
    match c.head? with
    | none => some (word.reverse, false, c)
    | some d =>
      if isBlank d || isBreak d then some (word.reverse, false, c)
      else if single then
        if d = '\'' then
          if c.ahead? 1 = some '\'' then quotedWord single fuel ('\'' :: word) (c.skipMany 2)
          else some (word.reverse, false, c)
        else quotedWord single fuel (d :: word) c.skip
      else if d = '"' then some (word.reverse, false, c)
      else if d = '\\' then
        if (c.ahead? 1).any isBreak then some (word.reverse, true, c.skip.skipLine)
        else do
          let (found, c) ← escape? c.skip
          quotedWord single fuel (found :: word) c
      else quotedWord single fuel (d :: word) c.skip

/-- A quoted scalar up to its closing quote. -/
def quotedFrom (single : Bool) : Nat → List Char → Cursor → Option (List Char × Cursor)
  | 0, _, _ => none
  | fuel + 1, text, c =>
    if c.atDocumentMark || c.atEnd then none
    else do
      let (word, escaped, c) ← quotedWord single (c.rest.length + 1) [] c
      let text := text ++ word
      if c.isAt (if single then '\'' else '"') then some (text, c.skip)
      else
        let g : Gap := if escaped then ⟨[], [], [], true⟩ else .none
        let (g, c) ← gap (fun _ => true) (c.rest.length + 1) g c
        quotedFrom single fuel (text ++ g.text) c

/-- A quoted scalar, from its opening quote on. -/
def quoted (single : Bool) (c : Cursor) : Option (List Char × Cursor) :=
  quotedFrom single (c.rest.length + 1) [] c.skip

/-! Block scalars. -/

/-- What becomes of the breaks at the end of a block. -/
inductive Chomping where
  | strip
  | clip
  | keep

/-- The sign that says how the end of a block is treated, if there is one. -/
def chomping (c : Cursor) : Option Chomping × Cursor :=
  if c.isAt '+' then (some .keep, c.skip)
  else if c.isAt '-' then (some .strip, c.skip)
  else (none, c)

/-- The digit that says how far in a block stands, if there is one. It is not zero. -/
def indentDigit (c : Cursor) : Option (Nat × Cursor) :=
  match c.head? with
  | some d =>
    if isDecimal d then (if d = '0' then none else some (d.toNat - '0'.toNat, c.skip))
    else some (0, c)
  | none => some (0, c)

/-- The sign and the digit of a block, in either order. -/
def blockHeader (c : Cursor) : Option (Chomping × Nat × Cursor) := do
  match chomping c with
  | (some found, c) =>
    let (increment, c) ← indentDigit c
    some (found, increment, c)
  | (none, c) =>
    let (increment, c) ← indentDigit c
    if increment = 0 then some (.clip, 0, c)
    else
      let (found, c) := chomping c
      some (found.getD .clip, increment, c)

/-- The indentation and the empty lines that come next, and the deepest column on the
way. With `indent` zero the indentation is not known yet. -/
def emptyLines (indent : Nat) :
    Nat → Nat → List Char → Cursor → Option (List Char × Nat × Cursor)
  | 0, _, _, _ => none
  | fuel + 1, deepest, breaks, c =>
    let spaces := (c.rest.takeWhile (· = ' ')).length
    let c := c.skipMany (if indent = 0 then spaces else min spaces (indent - c.column))
    let deepest := max deepest c.column
    if (indent = 0 || c.column < indent) && c.isAt '\t' then none
    else if c.atBreak then emptyLines indent fuel deepest (breaks ++ c.breakText) c.skipLine
    else some (breaks, deepest, c)

/-- The lines of a block. Where lines are folded, a break between two lines that both
start with a word counts as a space, or as nothing before an empty line. -/
def blockLines (literal : Bool) (indent : Nat) :
    Nat → List Char → List Char → List Char → Bool → Cursor →
      Option (List Char × List Char × List Char × Cursor)
  | 0, _, _, _, _, _ => none
  | fuel + 1, text, lineBreak, breaks, startsBlank, c =>
    if c.column = indent && !c.atEnd then do
      let blank := c.atBlank
      let joint :=
        if !literal && lineBreak = ['\n'] && !startsBlank && !blank then
          (if breaks.isEmpty then [' '] else [])
        else lineBreak
      let (line, c) := c.takeWhile fun d => !isBreak d
      let lineBreak := c.breakText
      let text := text ++ joint ++ breaks ++ line
      let c := c.skipLine
      let (breaks, _, c) ← emptyLines indent (c.rest.length + 1) 0 [] c
      blockLines literal indent fuel text lineBreak breaks blank c
    else some (text, lineBreak, breaks, c)

/-- A block scalar from its indicator on, inside a block that stands in `parent`
columns, or minus one at the outermost level. -/
def block (literal : Bool) (parent : Int) (c : Cursor) : Option (List Char × Cursor) := do
  let (chomp, increment, c) ← blockHeader c.skip
  let c := c.skipWhile isBlank
  let c := if c.isAt '#' then c.skipToBreak else c
  if !c.atBreakOrEnd then none
  else
    let c := c.skipLine
    let known := if increment = 0 then 0 else (max parent 0).toNat + increment
    let (breaks, deepest, c) ← emptyLines known (c.rest.length + 1) 0 [] c
    let indent := if known = 0 then max (max deepest (parent + 1).toNat) 1 else known
    let (text, lineBreak, breaks, c) ←
      blockLines literal indent (c.rest.length + 1) [] [] breaks false c
    let tail := match chomp with
      | .strip => []
      | .clip => lineBreak
      | .keep => lineBreak ++ breaks
    some (text ++ tail, c)

end CodecHost.Yaml
