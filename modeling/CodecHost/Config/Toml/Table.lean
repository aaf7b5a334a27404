/-! The tables of a TOML document. A table may come into being only because a path
leads through it, either from a header or from a dotted key; whether it may be
written to later depends on which. -/
namespace CodecHost.Toml

/-- How a table came into being: on the way to another one, and if so by a dotted
key. -/
structure Origin where
  implicit : Bool
  dotted : Bool
  deriving DecidableEq

/-- A value other than a text or an array is of no interest and cannot be written
to. -/
inductive Node where
  | text (value : String)
  | other
  | array (items : List Node)
  | table (origin : Origin) (entries : List (String × Node))
  | tables (items : List (Origin × List (String × Node)))

abbrev Entries := List (String × Node)

structure Table where
  origin : Origin
  entries : Entries

def Table.toNode (t : Table) : Node := .table t.origin t.entries

/-- A table with a header of its own. -/
def Table.explicit (entries : Entries) : Table := ⟨⟨false, false⟩, entries⟩

/-- Puts a node in the place of the one with the same key, or behind all others. -/
def setEntry (key : String) (node : Node) (entries : Entries) : Entries :=
  if entries.any (·.1 = key) then entries.map fun (k, n) => if k = key then (k, node) else (k, n)
  else entries ++ [(key, node)]

/-- Changes the table at the end of a path, making the tables that are missing on
the way. A dotted key does not lead through a table that has a header; a header
leads into the last table of an array of tables. -/
def alter {α : Type} (dotted : Bool) (f : Table → Option (α × Table)) :
    List String → Table → Option (α × Table)
  | [], t => f t
  | key :: path, t => do
    match t.entries.lookup key with
    | none =>
      let (answer, child) ← alter dotted f path ⟨⟨true, dotted⟩, []⟩
      pure (answer, { t with entries := setEntry key child.toNode t.entries })
    | some (.table origin entries) =>
      if dotted && !origin.implicit then none
      else
        let (answer, child) ← alter dotted f path ⟨origin, entries⟩
        pure (answer, { t with entries := setEntry key child.toNode t.entries })
    | some (.tables items) =>
      match items.getLast? with
      | none => none
      | some (origin, entries) =>
        let (answer, child) ← alter dotted f path ⟨origin, entries⟩
        let items := items.dropLast ++ [(child.origin, child.entries)]
        pure (answer, { t with entries := setEntry key (.tables items) t.entries })
    | some _ => none

/-- Writes a value under a key. The table that the key's path leads to has to be one
that dotted keys made, unless the path is empty, and the key has to be new. -/
def Table.put (path : List String) (key : String) (value : Node) (t : Table) : Option Table :=
  (alter true (fun t =>
    if t.origin.dotted = path.isEmpty then none
    else if t.entries.any (·.1 = key) then none
    else some ((), { t with entries := t.entries ++ [(key, value)] })) path t).map Prod.snd

/-- Takes out what stands where a header puts a table. Only a table that headers
made on the way may stand there, and its entries stay. -/
def Table.takeForHeader (path : List String) (key : String) (t : Table) : Option (Entries × Table) :=
  alter false (fun t =>
    match t.entries.lookup key with
    | none => some ([], t)
    | some (.table origin entries) =>
      if origin.implicit && !origin.dotted then
        some (entries, { t with entries := t.entries.filter (·.1 ≠ key) })
      else none
    | some _ => none) path t

/-- Puts a table under a key that is free. -/
def Table.addTable (path : List String) (key : String) (entries : Entries) (t : Table) :
    Option Table :=
  (alter false (fun t =>
    if t.entries.any (·.1 = key) then none
    else some ((), { t with entries := t.entries ++ [(key, (Table.explicit entries).toNode)] }))
    path t).map Prod.snd

/-- Whether a key is free for an array of tables, or holds one already. -/
def Table.admitsArray (path : List String) (key : String) (t : Table) : Option Table :=
  (alter false (fun t =>
    match t.entries.lookup key with
    | none => some ((), { t with entries := t.entries ++ [(key, .tables [])] })
    | some (.tables _) => some ((), t)
    | some _ => none) path t).map Prod.snd

/-- Puts another table into an array of tables. -/
def Table.addToArray (path : List String) (key : String) (entries : Entries) (t : Table) :
    Option Table :=
  (alter false (fun t =>
    match t.entries.lookup key with
    | some (.tables items) =>
      some ((), { t with entries := setEntry key (.tables (items ++ [(⟨false, false⟩, entries)])) t.entries })
    | none => some ((), { t with entries := t.entries ++ [(key, .tables [(⟨false, false⟩, entries)])] })
    | some _ => none) path t).map Prod.snd

end CodecHost.Toml
