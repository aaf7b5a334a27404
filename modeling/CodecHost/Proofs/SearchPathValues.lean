import CodecHost.Proofs.SearchPathLoads

/-! Reading a search path value. The directories of a list are found again in every value that
has them in order with colons around them, however many, since a colon ends a directory and
nothing else is said by it. What is read is always such a list, so that a value names no directory
only when there is nothing but colons in it, and then the default directory is searched. -/
namespace CodecHost

variable {σ : Type} {S : Surroundings σ} {settings : Settings}

namespace SearchPath

variable {value : Bytes} {directories : List Path}

/-- The path can stand in a value: there is something to it, and no colon. -/
def Listable (p : Path) : Prop := p.bytes ≠ [] ∧ colon ∉ p.bytes

/-- The directories in a value with more colons than are needed: some in front, and behind each
directory as many as stand with it, besides the one that divides it from the next. -/
def spread (front : Nat) : List (Path × Nat) → Bytes
  | [] => List.replicate front colon
  | [(p, behind)] => List.replicate front colon ++ (p.bytes ++ List.replicate behind colon)
  | (p, behind) :: next :: rest =>
    List.replicate front colon ++ (p.bytes ++ colon :: spread behind (next :: rest))

/-- Without further colons this is the usual value. -/
theorem spread_none (directories : List Path) :
    spread 0 (directories.map fun p => (p, 0)) = render directories := by
  induction directories with
  | nil => rfl
  | cons p rest ih =>
    cases rest with
    | nil => exact List.append_nil _
    | cons next rest =>
      simp only [List.map_cons] at ih
      simp only [List.map_cons, spread, ih]
      rfl

theorem parse_append (front back : Bytes) :
    parse (front ++ colon :: back) = parse front ++ parse back := by
  simp only [parse, Bytes.splitOn_append, List.filter_append, List.map_append]

/-- A colon in front says nothing. -/
theorem parse_cons_colon (value : Bytes) : parse (colon :: value) = parse value :=
  parse_append [] value

/-- Nor do several. -/
theorem parse_colons_append (front : Nat) (value : Bytes) :
    parse (List.replicate front colon ++ value) = parse value := by
  induction front with
  | zero => rfl
  | succ n ih => rw [List.replicate_succ, List.cons_append, parse_cons_colon, ih]

theorem parse_colons (n : Nat) : parse (List.replicate n colon) = [] := by
  rw [← List.append_nil (List.replicate n colon), parse_colons_append]
  rfl

/-- Colons behind say nothing either. -/
theorem parse_append_colons (value : Bytes) (behind : Nat) :
    parse (value ++ List.replicate behind colon) = parse value := by
  cases behind with
  | zero => rw [List.replicate_zero, List.append_nil]
  | succ n => rw [List.replicate_succ, parse_append, parse_colons, List.append_nil]

theorem parse_single {p : Path} (listable : Listable p) : parse p.bytes = [p] := by
  obtain ⟨something, free⟩ := listable
  simp [parse, Bytes.splitOn_free free, something]

/-- What is read can be listed again. -/
theorem parse_listable (value : Bytes) : ∀ p ∈ parse value, Listable p := by
  intro p member
  obtain ⟨piece, kept, rfl⟩ := List.mem_map.mp member
  obtain ⟨part, something⟩ := List.mem_filter.mp kept
  exact ⟨by simpa using something, Bytes.separator_not_mem part⟩

/-- Directories are found again, whatever colons stand around them. -/
theorem parse_spread (front : Nat) (gaps : List (Path × Nat))
    (listable : ∀ gap ∈ gaps, Listable gap.1) : parse (spread front gaps) = gaps.map Prod.fst := by
  induction gaps generalizing front with
  | nil => exact parse_colons front
  | cons gap rest ih =>
    obtain ⟨p, behind⟩ := gap
    have first : parse p.bytes = [p] := parse_single (listable (p, behind) List.mem_cons_self)
    cases rest with
    | nil => rw [spread, parse_colons_append, parse_append_colons, first]; rfl
    | cons next rest =>
      have others := ih behind fun gap member => listable gap (List.mem_cons_of_mem _ member)
      rw [spread, parse_colons_append, parse_append, first, others]
      rfl

theorem parse_render (listable : ∀ p ∈ directories, Listable p) :
    parse (render directories) = directories := by
  rw [← spread_none, parse_spread 0 _ (by simpa using listable), List.map_map]
  exact List.map_id' directories

/-- A value names no directory just when it is colons throughout. -/
theorem parse_eq_nil_iff : parse value = [] ↔ ∀ b ∈ value, b = colon := by
  constructor
  · intro none
    induction value with
    | nil => simp
    | cons b rest ih =>
      by_cases same : b = colon
      · subst same
        rw [parse_cons_colon] at none
        simpa using ih none
      · obtain ⟨first, others, pieces⟩ := List.exists_cons_of_ne_nil
          (Bytes.splitOn_ne_nil colon rest)
        simp [parse, Bytes.splitOn, same, pieces] at none
  · intro colons
    rw [List.eq_replicate_iff.mpr ⟨rfl, colons⟩, parse_colons]

end SearchPath

namespace Context

variable {c : Context σ} {name : String} {value : Bytes}

/-- A client finds nothing else when the directories that the source names at that moment are
fixed beforehand. -/
theorem init_fixed {directories : List Path}
    (named : settings.source.orDefault (S.lookup c.host.system) settings.defaultDirectory =
      directories) (some : directories ≠ []) :
    (init S { settings with source := .fixed directories }).run c = (init S settings).run c := by
  -- The built-ins may register before the search path is looked up, but they leave the system
  -- as it is.
  have searched : ∀ other : Context σ, other.host.system = c.host.system →
      (loadSearchPath S { settings with source := .fixed directories }).run other =
        (loadSearchPath S settings).run other := by
    intro other same
    simp only [loadSearchPath, Action.run_bind, Action.run_get, same, named]
    obtain ⟨first, rest, rfl⟩ := List.exists_cons_of_ne_nil some
    rfl
  have activates : activateBuiltins S { settings with source := .fixed directories } =
      activateBuiltins S settings := rfl
  simp only [init, Action.run_bind, Action.run_modify, Action.run_get, Action.run_note, activates]
  by_cases first : c.initCount + 1 = 1
  · simp only [first, ↓reduceIte]
    cases c.builtinsRegistered with
    | true =>
      have found := searched { c with initCount := 1, builtinsRegistered := true } rfl
      simp only [↓reduceIte, found]
    | false =>
      obtain ⟨registry, confined⟩ := activateBuiltins_confined S settings
        { c with initCount := 1, builtinsRegistered := false }
      simp only [Bool.false_eq_true, ↓reduceIte, Action.run_bind]
      generalize (activateBuiltins S settings).run _ = step at confined ⊢
      obtain ⟨answer, next, events⟩ := step
      cases answer with
      | error e => rfl
      | ok _ => rw [searched next (by rw [confined])]
  · simp only [first, ↓reduceIte]

end Context

namespace SearchPath

/-- The default directory is searched for a value that names no directory. -/
theorem orDefault_environment {lookup : String → Option Bytes} {name : String} {value : Bytes}
    (set : lookup name = some value) (default : Path) :
    (PathSource.environment name).orDefault lookup default =
      if parse value = [] then [default] else parse value := by
  simp only [PathSource.orDefault, PathSource.directories, set]
  cases parse value <;> rfl

/-- It is searched, whichever it is, just when the value is colons throughout. -/
theorem searches_default_iff {lookup : String → Option Bytes} {name : String} {value : Bytes}
    (set : lookup name = some value) :
    (∀ default, (PathSource.environment name).orDefault lookup default = [default]) ↔
      ∀ b ∈ value, b = colon := by
  simp only [orDefault_environment set, ← parse_eq_nil_iff]
  constructor
  · intro falls
    by_contra names
    -- Two different default directories cannot both be what the value names.
    have first := falls ⟨[]⟩
    have second := falls ⟨[colon]⟩
    rw [if_neg names] at first second
    rw [first] at second
    exact absurd second (by decide)
  · intro none default
    rw [if_pos none]

/-- **Reading a value inverts writing it.** No directory that is read from a value is empty or has
a colon in it. Directories that are neither are read back from the value that lists them, in order
and with repeats, also when there are more colons in front, behind and between. What was read is
read again from the value that lists it, and two values with a colon between them name what the
first names and then what the second names. When the source is a variable that is set, the default
directory is searched if its value is colons throughout, and only then; a client that comes finds
what it would find if the one directory, or the directories that the value names, were fixed. -/
theorem values_read_back (S : Surroundings σ) (settings : Settings) (c : Context σ) :
    (∀ value, ∀ p ∈ parse value, p.bytes ≠ [] ∧ colon ∉ p.bytes) ∧
    (∀ directories, (∀ p ∈ directories, Listable p) → parse (render directories) = directories) ∧
    (∀ front gaps, (∀ gap ∈ gaps, Listable gap.1) →
      parse (spread front gaps) = gaps.map Prod.fst) ∧
    (∀ value, parse (render (parse value)) = parse value) ∧
    (∀ front back, parse (front ++ colon :: back) = parse front ++ parse back) ∧
    ∀ name value, settings.source = .environment name →
      S.lookup c.host.system name = some value →
      ((∀ default, settings.source.orDefault (S.lookup c.host.system) default = [default]) ↔
        ∀ b ∈ value, b = colon) ∧
      ((∀ b ∈ value, b = colon) →
        (Context.init S settings).run c =
          (Context.init S { settings with source := .fixed [settings.defaultDirectory] }).run c) ∧
      (¬ (∀ b ∈ value, b = colon) →
        (Context.init S settings).run c =
          (Context.init S { settings with source := .fixed (parse value) }).run c) := by
  refine ⟨parse_listable, fun _ => parse_render, parse_spread, ?_, parse_append, ?_⟩
  · exact fun value => parse_render (parse_listable value)
  · intro name value source set
    have search := orDefault_environment set settings.defaultDirectory
    rw [← source] at search
    refine ⟨by rw [source]; exact searches_default_iff set, ?_, ?_⟩
    · intro colons
      rw [if_pos (parse_eq_nil_iff.mpr colons)] at search
      exact (Context.init_fixed search (List.cons_ne_nil _ _)).symm
    · intro names
      have some : parse value ≠ [] := parse_eq_nil_iff.not.mpr names
      rw [if_neg some] at search
      exact (Context.init_fixed search some).symm

/-- The default directory holds a module, and the search path is set to two colons. -/
def colonsOnly : Catalog := { Context.mixedCatalog with environment := [([88], [colon, colon])] }

/-- The search path is that of the variable. -/
def fromVariable : Settings := ⟨none, .environment "X", ⟨[112]⟩⟩

/-- Two directories are read back from a value with more colons than it needs, and a client finds
the module of the default directory when there is nothing but colons. -/
theorem colons_search_default :
    parse [colon, 97, colon, colon, 98, colon] = [⟨[97]⟩, ⟨[98]⟩] ∧
      ((Context.init Catalog.surroundings fromVariable).run
        (Context.fresh colonsOnly)).state.registry.encoders = [⟨0⟩] := by
  obtain ⟨_, _, spreads, _, _, search⟩ :=
    values_read_back Catalog.surroundings fromVariable (Context.fresh colonsOnly)
  have set : Catalog.surroundings.lookup colonsOnly "X" = some [colon, colon] := by decide +kernel
  obtain ⟨_, falls, _⟩ := search "X" [colon, colon] rfl set
  refine ⟨spreads 1 [(⟨[97]⟩, 1), (⟨[98]⟩, 1)] (by simp [Listable, colon]), ?_⟩
  rw [falls (by simp)]
  decide +kernel

end SearchPath
end CodecHost
