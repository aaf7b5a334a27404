import CodecHost.Config.Yaml.Token

/-! A YAML document as a tree. A value that is left out is an empty plain scalar.
Anchors and aliases are kept by name; which node an alias means is settled once the
whole document is known. -/
namespace CodecHost.Yaml

/-- A tree whose anchors and aliases are of type `ν`. -/
inductive Node (ν : Type) where
  | scalar (anchor : Option ν) (tag : Option TagText) (plain : Bool) (text : String)
  | sequence (anchor : Option ν) (items : List (Node ν))
  | mapping (anchor : Option ν) (pairs : List (Node ν × Node ν))
  | alias (name : ν)

/-- A tree as it is written, with names. -/
abbrev Written := Node String

/-- What is read where nothing stands. -/
def Node.empty {ν : Type} : Node ν := .scalar none none true ""

/-- What tag handles stand for. -/
abbrev Handles := List (TagText × TagText)

/-- The tag that a handle and a suffix spell. Without a handle the suffix is the tag,
and a handle that is not known is an error. -/
def tagText? (handles : Handles) (handle suffix : TagText) : Option TagText :=
  if handle.isEmpty then some suffix else (handles.lookup handle).map (· ++ suffix)

/-- What stands in front of a node: an anchor and a tag, in either order, each at
most once. -/
structure Properties where
  anchor : Option String
  tag : Option TagText

def Properties.isEmpty (p : Properties) : Bool := p.anchor.isNone && p.tag.isNone

def properties (handles : Handles) : List Token → Option (Properties × List Token)
  | .anchor name :: .tag handle suffix :: rest
  | .tag handle suffix :: .anchor name :: rest => do
    let tag ← tagText? handles handle suffix
    some (⟨some name, some tag⟩, rest)
  | .anchor name :: rest => some (⟨some name, none⟩, rest)
  | .tag handle suffix :: rest => do
    let tag ← tagText? handles handle suffix
    some (⟨none, some tag⟩, rest)
  | rest => some (⟨none, none⟩, rest)

/-- The tag of a bare exclamation mark says nothing about a scalar that is there. -/
def scalarTag (tag : Option TagText) : Option TagText :=
  if tag = some (asciiBytes ['!']) then none else tag

/-- Whether a value is missing before the token in a block mapping. -/
def endsBlockValue : Token → Bool
  | .key | .value | .blockEnd => true
  | _ => false

/-- Whether an item is missing before the token in a sequence without indentation. -/
def endsIndentlessItem : Token → Bool
  | .blockEntry | .key | .value | .blockEnd => true
  | _ => false

/-- Whether an item is missing before the token in a block sequence. -/
def endsBlockItem : Token → Bool
  | .blockEntry | .blockEnd => true
  | _ => false

mutual

/-- A node. `block` says whether a block may begin here, and `indentless` whether the
items of a sequence may stand at the indentation of the mapping around it. -/
def node (handles : Handles) (block indentless : Bool) :
    Nat → List Token → Option (Written × List Token)
  | 0, _ => none
  | _ + 1, .alias name :: rest => some (.alias name, rest)
  | fuel + 1, tokens => do
    let (p, tokens) ← properties handles tokens
    match tokens with
    | .scalar plain text :: rest => some (.scalar p.anchor (scalarTag p.tag) plain text, rest)
    | .flowSequenceStart :: rest =>
      let (items, rest) ← flowItems handles true fuel rest
      some (.sequence p.anchor items, rest)
    | .flowMappingStart :: rest =>
      let (pairs, rest) ← flowPairs handles true fuel rest
      some (.mapping p.anchor pairs, rest)
    | .sequenceStart :: rest =>
      if block then
        let (items, rest) ← blockItems handles fuel rest
        some (.sequence p.anchor items, rest)
      else missing p (.sequenceStart :: rest)
    | .mappingStart :: rest =>
      if block then
        let (pairs, rest) ← blockPairs handles fuel rest
        some (.mapping p.anchor pairs, rest)
      else missing p (.mappingStart :: rest)
    | .blockEntry :: rest =>
      if indentless then
        let (items, rest) ← indentlessItems handles fuel (.blockEntry :: rest)
        some (.sequence p.anchor items, rest)
      else missing p (.blockEntry :: rest)
    | rest => missing p rest

/-- A node of properties alone is an empty scalar. -/
def missing (p : Properties) (rest : List Token) : Option (Written × List Token) :=
  if p.isEmpty then none else some (.scalar p.anchor p.tag true "", rest)

/-- A node, unless the next token says that there is none. -/
def nodeUnless (ends : Token → Bool) (handles : Handles) (block indentless : Bool) :
    Nat → List Token → Option (Written × List Token)
  | 0, _ => none
  | fuel + 1, t :: rest =>
    if ends t then some (.empty, t :: rest) else node handles block indentless fuel (t :: rest)
  | _ + 1, [] => none

/-- The items of a block sequence up to its end. -/
def blockItems (handles : Handles) : Nat → List Token → Option (List Written × List Token)
  | 0, _ => none
  | _ + 1, .blockEnd :: rest => some ([], rest)
  | fuel + 1, .blockEntry :: rest => do
    let (item, rest) ← nodeUnless endsBlockItem handles true false fuel rest
    let (items, rest) ← blockItems handles fuel rest
    some (item :: items, rest)
  | _ + 1, _ => none

/-- Items that stand at the indentation of the mapping around them. -/
def indentlessItems (handles : Handles) : Nat → List Token → Option (List Written × List Token)
  | 0, _ => none
  | fuel + 1, .blockEntry :: rest => do
    let (item, rest) ← nodeUnless endsIndentlessItem handles true false fuel rest
    let (items, rest) ← indentlessItems handles fuel rest
    some (item :: items, rest)
  | _ + 1, rest => some ([], rest)

/-- The pairs of a block mapping up to its end. Each has a key mark. -/
def blockPairs (handles : Handles) : Nat → List Token → Option (List (Written × Written) × List Token)
  | 0, _ => none
  | _ + 1, .blockEnd :: rest => some ([], rest)
  | fuel + 1, .key :: rest => do
    let (key, rest) ← nodeUnless endsBlockValue handles true true fuel rest
    let (value, rest) ← blockValue handles fuel rest
    let (pairs, rest) ← blockPairs handles fuel rest
    some ((key, value) :: pairs, rest)
  | _ + 1, _ => none

/-- The value of a pair in a block mapping, which may be left out with its mark. -/
def blockValue (handles : Handles) : Nat → List Token → Option (Written × List Token)
  | 0, _ => none
  | fuel + 1, .value :: rest => nodeUnless endsBlockValue handles true true fuel rest
  | _ + 1, rest => some (.empty, rest)

/-- The items of a sequence in brackets up to its end. An item with a key is a mapping
of one pair. -/
def flowItems (handles : Handles) (first : Bool) :
    Nat → List Token → Option (List Written × List Token)
  | 0, _ => none
  | _ + 1, .flowSequenceEnd :: rest => some ([], rest)
  | fuel + 1, tokens => do
    let tokens ← separated first tokens
    match tokens with
    | .flowSequenceEnd :: rest => some ([], rest)
    | .key :: rest =>
      let (key, rest) ← singleKey handles fuel rest
      let (value, rest) ← singleValue handles fuel rest
      let (items, rest) ← flowItems handles false fuel rest
      some (.mapping none [(key, value)] :: items, rest)
    | tokens =>
      let (item, rest) ← node handles false false fuel tokens
      let (items, rest) ← flowItems handles false fuel rest
      some (item :: items, rest)

/-- The tokens behind a comma, which stands before every item but the first. -/
def separated (first : Bool) : List Token → Option (List Token)
  | .flowEntry :: rest => if first then some (.flowEntry :: rest) else some rest
  | tokens => if first then some tokens else none

/-- The key of a single pair. Where it is missing, the token in its place is lost. -/
def singleKey (handles : Handles) : Nat → List Token → Option (Written × List Token)
  | 0, _ => none
  | _ + 1, .value :: rest | _ + 1, .flowEntry :: rest | _ + 1, .flowSequenceEnd :: rest =>
    some (.empty, rest)
  | fuel + 1, tokens => node handles false false fuel tokens

/-- The value of a single pair. -/
def singleValue (handles : Handles) : Nat → List Token → Option (Written × List Token)
  | 0, _ => none
  | _ + 1, .value :: .flowEntry :: rest => some (.empty, .flowEntry :: rest)
  | _ + 1, .value :: .flowSequenceEnd :: rest => some (.empty, .flowSequenceEnd :: rest)
  | fuel + 1, .value :: rest => node handles false false fuel rest
  | _ + 1, rest => some (.empty, rest)

/-- The pairs of a mapping in brackets up to its end. A node without a key mark is a
key without a value. -/
def flowPairs (handles : Handles) (first : Bool) :
    Nat → List Token → Option (List (Written × Written) × List Token)
  | 0, _ => none
  | _ + 1, .flowMappingEnd :: rest => some ([], rest)
  | fuel + 1, tokens => do
    let tokens ← separated first tokens
    match tokens with
    | .flowMappingEnd :: rest => some ([], rest)
    | .key :: rest =>
      let (key, rest) ← flowKey handles fuel rest
      let (value, rest) ← flowValue handles fuel rest
      let (pairs, rest) ← flowPairs handles false fuel rest
      some ((key, value) :: pairs, rest)
    | tokens =>
      let (key, rest) ← node handles false false fuel tokens
      let (pairs, rest) ← flowPairs handles false fuel rest
      some ((key, .empty) :: pairs, rest)

/-- A key in brackets, which may be missing. -/
def flowKey (handles : Handles) : Nat → List Token → Option (Written × List Token)
  | 0, _ => none
  | _ + 1, .value :: rest => some (.empty, .value :: rest)
  | _ + 1, .flowEntry :: rest => some (.empty, .flowEntry :: rest)
  | _ + 1, .flowMappingEnd :: rest => some (.empty, .flowMappingEnd :: rest)
  | fuel + 1, tokens => node handles false false fuel tokens

/-- A value in brackets, which may be missing with its mark or without. -/
def flowValue (handles : Handles) : Nat → List Token → Option (Written × List Token)
  | 0, _ => none
  | _ + 1, .value :: .flowEntry :: rest => some (.empty, .flowEntry :: rest)
  | _ + 1, .value :: .flowMappingEnd :: rest => some (.empty, .flowMappingEnd :: rest)
  | fuel + 1, .value :: rest => node handles false false fuel rest
  | _ + 1, rest => some (.empty, rest)

end

/-! Documents. -/

/-- The directives in front of a document: at most one version, which has to be 1.1 or
1.2, and handles that are each declared once. -/
def directives (versioned : Bool) (handles : Handles) : List Token → Option (Handles × List Token)
  | .version major minor :: rest =>
    if versioned || major ≠ 1 || (minor ≠ 1 && minor ≠ 2) then none
    else directives true handles rest
  | .tagHandle handle stands :: rest =>
    if handles.any (·.1 = handle) then none
    else directives versioned (handles ++ [(handle, stands)]) rest
  | rest => some (handles, rest)

/-- Handles that need no declaration. -/
def standardHandles : Handles :=
  [(asciiBytes ['!'], asciiBytes ['!']), (asciiBytes ['!', '!'], Utf8.encode "tag:yaml.org,2002:")]

/-- The root of a document that has a mark in front of it, and which may be empty. -/
def markedRoot (handles : Handles) (tokens : List Token) : Option (Written × List Token) :=
  match tokens with
  | [] | .version .. :: _ | .tagHandle .. :: _ | .documentStart :: _ | .documentEnd :: _ =>
    some (.empty, tokens)
  | _ => node handles true false (4 * tokens.length + 4) tokens

/-- The root of the only document in a stream, if the stream is not empty. Marks for
the end of a document may follow it, but not another document. -/
def root? (tokens : List Token) : Option (Option Written) := do
  match tokens with
  | [] => some none
  | .version .. :: _ | .tagHandle .. :: _ | .documentStart :: _ =>
    match ← directives false [] tokens with
    | (handles, .documentStart :: rest) =>
      let (root, rest) ← markedRoot (handles ++ standardHandles) rest
      if rest.all (· = .documentEnd) then some (some root) else none
    | _ => none
  | tokens =>
    let (root, rest) ← node standardHandles true false (4 * tokens.length + 4) tokens
    if rest.all (· = .documentEnd) then some (some root) else none

end CodecHost.Yaml
