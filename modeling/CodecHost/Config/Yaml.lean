import CodecHost.Config
import CodecHost.Config.Yaml.Node

/-! Settings in YAML stand under their names in a mapping. Scalars are taken as their
text, a key that is not known is passed over with its value, and an empty document
holds no settings. Aliases are followed where a value is wanted. -/
namespace CodecHost.Yaml

/-- A tree whose anchors and aliases are numbers. -/
abbrev Numbered := Node Nat

/-- The number of every name that has been given to a node. -/
abbrev Names := List (String × Nat)

/-- Gives a name to a node. The number is the count of names in use, so a name that is
used again takes a number that a later name may take too. -/
def Names.give (names : Names) : Option String → Option Nat × Names
  | none => (none, names)
  | some name => (some names.length, (name, names.length) :: names.filter (·.1 ≠ name))

mutual

/-- Puts numbers in the place of names, in the order the nodes are written. An alias
needs a name that has been given before. -/
def number : Written → Names → Option (Numbered × Names)
  | .scalar anchor tag plain text, names =>
    let (anchor, names) := names.give anchor
    some (.scalar anchor tag plain text, names)
  | .sequence anchor items, names => do
    let (anchor, names) := names.give anchor
    let (items, names) ← numberItems items names
    some (.sequence anchor items, names)
  | .mapping anchor pairs, names => do
    let (anchor, names) := names.give anchor
    let (pairs, names) ← numberPairs pairs names
    some (.mapping anchor pairs, names)
  | .alias name, names => (names.lookup name).map fun n => (.alias n, names)

def numberItems : List Written → Names → Option (List Numbered × Names)
  | [], names => some ([], names)
  | item :: rest, names => do
    let (item, names) ← number item names
    let (rest, names) ← numberItems rest names
    some (item :: rest, names)

def numberPairs : List (Written × Written) → Names → Option (List (Numbered × Numbered) × Names)
  | [], names => some ([], names)
  | (key, value) :: rest, names => do
    let (key, names) ← number key names
    let (value, names) ← number value names
    let (rest, names) ← numberPairs rest names
    some ((key, value) :: rest, names)

end

/-- The entry of a node that has an anchor. -/
def entry (anchor : Option Nat) (n : Numbered) : List (Nat × Numbered) :=
  match anchor with
  | some number => [(number, n)]
  | none => []

mutual

/-- The nodes that have anchors, in the order they are written. -/
def anchored : Numbered → List (Nat × Numbered)
  | .scalar anchor tag plain text => entry anchor (.scalar anchor tag plain text)
  | .sequence anchor items => entry anchor (.sequence anchor items) ++ anchoredItems items
  | .mapping anchor pairs => entry anchor (.mapping anchor pairs) ++ anchoredPairs pairs
  | .alias _ => []

def anchoredItems : List Numbered → List (Nat × Numbered)
  | [] => []
  | item :: rest => anchored item ++ anchoredItems rest

def anchoredPairs : List (Numbered × Numbered) → List (Nat × Numbered)
  | [] => []
  | (key, value) :: rest => anchored key ++ (anchored value ++ anchoredPairs rest)

end

/-- A document: its root, and the node that each number stands for, which is the last
one that took the number. -/
structure Document where
  root : Numbered
  meanings : List (Nat × Numbered)

/-- The tag that says that a scalar is the null value. -/
def nullTag : TagText := Utf8.encode "tag:yaml.org,2002:null"

/-- The spellings of null, besides the empty one. -/
def isNull (text : String) : Bool := ["null", "Null", "NULL", "~"].contains text

namespace Document

/-- The node that an alias stands for. Anchored nodes are no aliases themselves. -/
def follow (d : Document) : Numbered → Option Numbered
  | .alias number => d.meanings.lookup number
  | node => some node

/-- The text of a scalar. -/
def text? (d : Document) (n : Numbered) : Option String :=
  match d.follow n with
  | some (.scalar _ _ _ text) => some text
  | _ => none

def path? (d : Document) (n : Numbered) : Option Path := (d.text? n).map .ofString

/-- A list of paths. A value that is left out is the empty list. -/
def paths? (d : Document) (n : Numbered) : Option (List Path) :=
  match d.follow n with
  | some (.sequence _ items) => items.mapM d.path?
  | some (.scalar _ _ true "") => some []
  | _ => none

/-- A path, or null. Only a plain scalar can be null. -/
def optionalPath? (d : Document) (n : Numbered) : Option (Option Path) :=
  match d.follow n with
  | some (.scalar _ tag plain text) =>
    if !plain then some (some (.ofString text))
    else if tag = some nullTag then (if isNull text then some none else none)
    else if tag.isSome then some (some (.ofString text))
    else if text.isEmpty || isNull text then some none
    else some (some (.ofString text))
  | _ => none

/-- The one value of a key that may be missing: repeating a key is an error. -/
def unique? (pairs : List (String × Numbered)) (key : String) : Option (Option Numbered) :=
  match pairs.filter (·.1 = key) with
  | [] => some none
  | [(_, n)] => some (some n)
  | _ => none

/-- The settings in a document. Every key is a scalar. -/
def config? (d : Document) : Option Config :=
  match d.root with
  | .mapping _ pairs => do
    let named ← pairs.mapM fun (key, n) => (d.text? key).map (·, n)
    let directories ← match ← unique? named "plugin_directories" with
      | some n => d.paths? n
      | none => some []
    let default ← match ← unique? named "default_plugin_directory" with
      | some n => d.optionalPath? n
      | none => some none
    pure ⟨directories, default⟩
  | .scalar _ _ true "" => some .empty
  | _ => none

end Document

/-- The document that a text holds, if it holds one at all. -/
def parse? (source : String) : Option (Option Document) := do
  match ← root? (← tokens? source) with
  | none => some none
  | some written =>
    let (root, _) ← number written []
    some (some ⟨root, (anchored root).reverse⟩)

/-- The settings that a text holds. -/
def config? (source : String) : Option Config := do
  match ← parse? source with
  | none => some .empty
  | some d => d.config?

end CodecHost.Yaml
