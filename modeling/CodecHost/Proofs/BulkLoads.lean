import CodecHost.Proofs.CatalogWorlds
import CodecHost.Proofs.LoadAnswers

/-! Loading a directory and loading its modules one by one come to the same. Which modules are
loaded already, which paths lead to one module, which loads fail and how many slots there are
makes no difference, and whatever becomes of the loads, no reference that was there is lost. -/
namespace CodecHost

variable {σ : Type} {S : Surroundings σ}

/-- The record later on: it may hold further references, newer ones than before. -/
structure Record.Extends (old new : Record) : Prop where
  id : new.id = old.id
  descriptor : new.descriptor = old.descriptor
  handles : old.handles <+: new.handles

theorem Record.Extends.refl (record : Record) : record.Extends record :=
  ⟨rfl, rfl, List.prefix_rfl⟩

theorem Record.Extends.trans {old middle new : Record} (first : old.Extends middle)
    (second : middle.Extends new) : old.Extends new :=
  ⟨second.id.trans first.id, second.descriptor.trans first.descriptor,
    first.handles.trans second.handles⟩

namespace ModuleTable

/-- The records later on: those that were there stand where they stood, and others may have
come behind them. -/
inductive Grown : List Record → List Record → Prop where
  | nil (added : List Record) : Grown [] added
  | cons {old new : Record} {rest later : List Record} (first : old.Extends new)
      (others : Grown rest later) : Grown (old :: rest) (new :: later)

theorem grown_append (records added : List Record) : Grown records (records ++ added) := by
  induction records with
  | nil => exact .nil added
  | cons record rest ih => exact .cons (.refl record) ih

theorem Grown.refl (records : List Record) : Grown records records := by
  simpa only [List.append_nil] using grown_append records []

theorem Grown.trans {records middle later : List Record} (first : Grown records middle)
    (second : Grown middle later) : Grown records later := by
  induction first generalizing later with
  | nil => exact .nil later
  | cons extended others ih =>
    cases second with
    | cons further rest => exact .cons (extended.trans further) (ih rest)

theorem grown_attachFirst (p : Record → Bool) (h : Handle) (records : List Record) :
    Grown records (attachFirst p h records) := by
  induction records with
  | nil => exact .nil []
  | cons record rest ih =>
    rw [attachFirst]
    split
    · exact .cons ⟨rfl, rfl, List.prefix_append _ _⟩ (.refl rest)
    · exact .cons (.refl record) ih

/-- How many references the table holds: the open counts of all records, added up. -/
def references (t : ModuleTable) : Nat :=
  t.records.foldr (fun record others => record.openCount + others) 0

theorem references_eq (t : ModuleTable) : t.references = t.holdings.length := by
  obtain ⟨records⟩ := t
  induction records with
  | nil => rfl
  | cons record rest ih =>
    have first : (holdings ⟨record :: rest⟩).length =
        record.openCount + (holdings ⟨rest⟩).length := by
      simp only [holdings, List.flatMap_cons, List.length_append, List.length_map,
        Record.openCount]
    rw [first, ← ih]
    rfl

end ModuleTable

namespace Host

variable {host last : Host σ} {events : List Event} {α : Type}

/-- Loading takes no reference away. -/
theorem Loading.grown (loading : Loading S host events last) :
    ModuleTable.Grown host.modules.records last.modules.records := by
  cases loading with
  | noted | unopened | refused => exact .refl _
  | attached => exact ModuleTable.grown_attachFirst _ _ _
  | entered => exact ModuleTable.grown_append _ _

theorem Loads.grown {a : Action (Host σ) α} (loads : Loads S a) (host : Host σ) :
    ModuleTable.Grown host.modules.records (a.run host).state.modules.records := by
  have kept := loads.ensures
    (I := fun _ later => ModuleTable.Grown host.modules.records later.modules.records)
    fun loading before => before.trans loading.grown
  exact kept [] host (.refl _)

/-- Loads add as many references as there are loads that succeed. -/
theorem loadEach_references (paths : List Path) (host : Host σ) :
    ((loadEach S paths).run host).state.modules.references =
      host.modules.references + (loaded ((loadEach S paths).run host).value).length := by
  have added := (loadEach_holdings (S := S) paths host).length_eq
  rw [List.length_append] at added
  rw [ModuleTable.references_eq, ModuleTable.references_eq, added, Nat.add_comm]

end Host

namespace Context

variable {directory : Path}

/-- Loads of a context, one after the other, are loads of its host. -/
theorem mapM_load (paths : List Path) (c : Context σ) :
    (paths.mapM (load S)).run c = (onHost (Host.loadEach S paths)).run c := by
  rw [Host.loadEach_eq_mapM]
  induction paths generalizing c with
  | nil => rfl
  | cons path rest ih =>
    simp only [List.mapM_cons, Action.run_bind, Action.run_pure, ih, onHost_run]
    rfl

/-- A scan does what the loads of the candidates do one by one, and records what they answer. -/
theorem loadDirectory_loads (buffer : Option Scan.Buffer) {c : Context σ}
    {entries : List DirEntry} (listing : S.listing c.host.system directory = .ok entries) :
    let loads := ((entries.filterMap (Scan.candidate? directory)).mapM (load S)).run c
    let scanned := (loadDirectory S directory buffer).run c
    scanned.SameDeeds loads ∧
      scanned.value = (.ok (loaded loads.value).length,
        ((loaded loads.value).foldl Scan.Progress.record ⟨0, buffer⟩).close) := by
  intro loads scanned
  obtain ⟨state, deeds⟩ := Host.loadDirectory_each (S := S) directory buffer c.host
  have value := Host.loadDirectory_records listing buffer
  have each : loads = (onHost (Host.loadEach S _)).run c := mapM_load _ c
  rw [Host.scanEach_listed listing] at state deeds value
  rw [each, onHost_run]
  refine ⟨⟨?_, deeds⟩, value⟩
  exact congrArg (fun host => { c with host }) state

/-- A directory that cannot be opened is not scanned. -/
theorem loadDirectory_unreadable (buffer : Option Scan.Buffer) {c : Context σ} {cause : IoError}
    (listing : S.listing c.host.system directory = .error cause) :
    (loadDirectory S directory buffer).run c =
      ⟨(.error (.unreadableDirectory directory cause), buffer), c, []⟩ := by
  simp only [loadDirectory, Host.loadDirectory, onHost_run, Action.run_bind, Action.run_get,
    listing, Scan.scan, Action.run_pure, List.append_nil]

/-- **Loading a directory is loading its modules one by one.** Whatever a context holds, and
whatever the directory and the buffer are: if the directory can be opened, loading it leaves the
same context behind and does the same as loading the candidates in the order of their entries,
whatever becomes of each. It answers how many of these loads succeed. By this number the
references in the table grow, and every record stays where it is and keeps the references that it
held. If the directory cannot be opened, that is answered and nothing happens. -/
theorem directory_loads_one_by_one (S : Surroundings σ) (directory : Path)
    (buffer : Option Scan.Buffer) (c : Context σ) :
    (∀ entries, S.listing c.host.system directory = .ok entries →
      let single := ((entries.filterMap (Scan.candidate? directory)).mapM (load S)).run c
      let bulk := (loadDirectory S directory buffer).run c
      bulk.SameDeeds single ∧
        bulk.value.1 = .ok (loaded single.value).length ∧
        bulk.state.modules.references =
          c.modules.references + (loaded single.value).length ∧
        ModuleTable.Grown c.modules.records bulk.state.modules.records) ∧
    ∀ cause, S.listing c.host.system directory = .error cause →
      (loadDirectory S directory buffer).run c =
        ⟨(.error (.unreadableDirectory directory cause), buffer), c, []⟩ := by
  constructor
  · intro entries listing single bulk
    have grown := (Host.loads_loadDirectory (S := S) directory buffer).grown c.host
    obtain ⟨same, value⟩ := loadDirectory_loads buffer listing
    have each : single = (onHost (Host.loadEach S _)).run c := mapM_load _ c
    refine ⟨same, congrArg Prod.fst value, ?_, grown⟩
    rw [same.state]
    change single.state.modules.references = _ + (loaded single.value).length
    rw [each]
    exact Host.loadEach_references _ c.host
  · intro cause listing
    exact loadDirectory_unreadable buffer listing

/-- What a directory holds: a module, an entry without a type, a file that is no module, a link
to the module, and an entry that cannot be read. -/
def mixedShelf : List DirEntry :=
  [.named [97, 46, 115, 111] (.ok .file), .named [98, 46, 115, 111] (.error .notFound),
    .named [99, 46, 115, 111] (.ok .file), .named [100, 46, 115, 111] (.ok .symlink),
    .unreadable .notFound]

/-- The module is found at two paths. -/
def mixedCatalog : Catalog :=
  { Catalog.ofModules (.ofEncoders id)
      [⟨⟨[112, 47, 97, 46, 115, 111]⟩, ⟨1⟩, some ⟨0⟩, none, none⟩,
        ⟨⟨[112, 47, 100, 46, 115, 111]⟩, ⟨1⟩, some ⟨0⟩, none, none⟩] with
    directories := [(⟨[112]⟩, .ok mixedShelf)] }

/-- The module is loaded and then loaded again through the link. The file between the two is
passed over. The buffer has room for one descriptor. -/
theorem mixed_shelf_loaded :
    let bulk := (loadDirectory Catalog.surroundings ⟨[112]⟩ (some [some ⟨7⟩])).run
      (fresh mixedCatalog)
    bulk.value = (.ok 2, some [some ⟨0⟩]) ∧ bulk.state.modules.references = 2 ∧
      bulk.state.registry.encoders = [⟨0⟩] := by
  intro bulk
  have listing : Catalog.surroundings.listing mixedCatalog ⟨[112]⟩ = .ok mixedShelf := rfl
  obtain ⟨_, count, references, _⟩ := (directory_loads_one_by_one Catalog.surroundings ⟨[112]⟩
    (some [some ⟨7⟩]) (fresh mixedCatalog)).1 mixedShelf listing
  have succeeded : (loaded (((mixedShelf.filterMap (Scan.candidate? ⟨[112]⟩)).mapM
      (load Catalog.surroundings)).run (fresh mixedCatalog)).value).length = 2 := by decide +kernel
  rw [succeeded] at count references
  refine ⟨Prod.ext count ?_, references, ?_⟩
  · decide +kernel
  · decide +kernel

end Context
end CodecHost
