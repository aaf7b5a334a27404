import CodecHost.Proofs.ClosedMemory
import CodecHost.Proofs.LoadAnswers
import Mathlib.Data.Set.Insert
import Mathlib.Logic.Function.Basic

/-! What loading comes to when the loader always does the same: a path opens one module or
never opens, and a module always exports the same descriptor or none. All that matters then
of a host is which modules are in the table, with what descriptor and how many references,
and which function tables are active. Opening a module changes these in a way that does not
depend on what was opened before, so that openings may be exchanged. -/
namespace CodecHost

open Ledger

variable {σ : Type} {S : Surroundings σ} {settings : Settings} {P : List Event → σ → Prop}
  {past : List Event} {d : Descriptor} {p : Plugin}

/-- What a loader that always does the same has to offer. -/
structure Library where
  /-- The module that a path opens. -/
  opens : Path → Option ModuleId
  /-- The descriptor that a module exports. -/
  exports : ModuleId → Option Descriptor
  /-- What lies at each address. -/
  memory : Memory

namespace Library

variable (lib : Library)

/-- The descriptor of a module that the host can work with. -/
def offer? (i : ModuleId) : Option Descriptor :=
  (lib.exports i).filter fun d => lib.memory.Accepts d

theorem offer?_eq_some {lib : Library} {i : ModuleId} :
    lib.offer? i = some d ↔ lib.exports i = some d ∧ lib.memory.Accepts d := by
  simp [offer?, Option.filter_eq_some_iff]

/-- What becomes of the references on a module when it is opened once more: the first one counts
if the host can work with the module. -/
def raised (i : ModuleId) : Option (Descriptor × Nat) → Option (Descriptor × Nat)
  | some (d, count) => some (d, count + 1)
  | none => (lib.offer? i).map fun d => (d, 1)

end Library

/-- The loader and the memory do as the library says. -/
structure Surroundings.Serves (S : Surroundings σ) (settings : Settings)
    (P : List Event → σ → Prop) (lib : Library) : Prop where
  opening : ∀ {past s} path, P past s →
    (S.openModule path s).1.toOption.map Handle.id = lib.opens path
  resolving : ∀ {past s h}, P past s → closes (· = h) past < opens (· = h) past →
    (S.resolve h s).1.toOption = lib.exports h.id
  reading : S.AgreesInPlace settings P (fun _ => lib.memory.plugin?) fun _ => lib.memory

theorem Surroundings.Serves.steady {lib : Library} (serves : S.Serves settings P lib) :
    S.Steady P fun _ => lib.memory.plugin? := by
  intro past s holds earlier h d since
  exact (congrArg Info.plugin? (serves.reading.info past s holds earlier h d since)).symm

/-- The loaded modules with their descriptors and the number of their references, and the
active function tables. -/
@[ext] structure Stock where
  tally : ModuleId → Option (Descriptor × Nat)
  active : Set Plugin

namespace Stock

variable (lib : Library) (stock : Stock) {i j : ModuleId}

/-- The function table that a module brings when it is new. -/
def brought (i : ModuleId) : Set Plugin :=
  {p | stock.tally i = none ∧ ∃ d, lib.offer? i = some d ∧ lib.memory.plugin? d = some p}

/-- A module is opened. -/
def opened (i : ModuleId) : Stock :=
  ⟨Function.update stock.tally i (lib.raised i (stock.tally i)), stock.active ∪ stock.brought lib i⟩

/-- What the load of a module answers with. -/
def answer? (i : ModuleId) : Option Descriptor := (lib.raised i (stock.tally i)).map Prod.fst

variable {lib stock}

theorem tally_opened_self :
    (stock.opened lib i).tally i = lib.raised i (stock.tally i) := Function.update_self ..

theorem tally_opened_ne (other : j ≠ i) : (stock.opened lib i).tally j = stock.tally j :=
  Function.update_of_ne other ..

theorem brought_opened_ne (other : j ≠ i) :
    (stock.opened lib i).brought lib j = stock.brought lib j := by
  unfold brought
  rw [tally_opened_ne other]

/-- What a load answers does not depend on what was opened before. -/
theorem answer?_opened : (stock.opened lib i).answer? lib j = stock.answer? lib j := by
  unfold answer?
  by_cases same : j = i
  · subst same
    rw [tally_opened_self]
    cases stock.tally j with
    | some entry => rfl
    | none => cases offered : lib.offer? j <;> simp [Library.raised, offered]
  · rw [tally_opened_ne same]

/-- The order in which two modules are opened does not matter. -/
theorem opened_comm : (stock.opened lib i).opened lib j = (stock.opened lib j).opened lib i := by
  by_cases same : j = i
  · rw [same]
  · have different : i ≠ j := Ne.symm same
    ext1
    · have updates : ∀ k, ((stock.opened lib k).tally) =
          Function.update stock.tally k (lib.raised k (stock.tally k)) := fun _ => rfl
      show Function.update _ j _ = Function.update _ i _
      rw [tally_opened_ne same, tally_opened_ne different, updates, updates]
      exact Function.update_comm different _ _ _
    · show (stock.active ∪ stock.brought lib i) ∪ _ = (stock.active ∪ stock.brought lib j) ∪ _
      rw [brought_opened_ne same, brought_opened_ne different]
      exact Set.union_right_comm ..

theorem brought_there {entry : Descriptor × Nat} (there : stock.tally i = some entry) :
    stock.brought lib i = ∅ := by
  simp [brought, there]

/-- Opening a module that the host cannot work with changes nothing. -/
theorem opened_refused (new : stock.tally i = none) (useless : lib.offer? i = none) :
    stock.opened lib i = stock ∧ stock.answer? lib i = none := by
  have none : lib.raised i (stock.tally i) = stock.tally i := by
    rw [new, Library.raised, useless, Option.map_none]
  have brings : stock.brought lib i = ∅ := by simp [brought, useless]
  constructor
  · rw [opened, none, Function.update_eq_self, brings, Set.union_empty]
  · rw [answer?, none, new, Option.map_none]

/-- A module that is there already brings nothing new. -/
theorem opened_attached {count : Nat} (there : stock.tally i = some (d, count)) :
    stock.opened lib i = ⟨Function.update stock.tally i (some (d, count + 1)), stock.active⟩ ∧
      stock.answer? lib i = some d := by
  constructor
  · rw [opened, brought_there there, Set.union_empty, there, Library.raised]
  · rw [answer?, there, Library.raised, Option.map_some]

/-- A new module brings its function table. -/
theorem opened_entered (new : stock.tally i = none) (offered : lib.offer? i = some d)
    (leads : lib.memory.plugin? d = some p) :
    stock.opened lib i = ⟨Function.update stock.tally i (some (d, 1)), insert p stock.active⟩ ∧
      stock.answer? lib i = some d := by
  have brings : stock.brought lib i = {p} := by
    ext q
    simp [brought, new, offered, leads, eq_comm]
  constructor
  · rw [opened, brings, Set.union_singleton, new, Library.raised, offered, Option.map_some]
  · rw [answer?, new, Library.raised, offered, Option.map_some, Option.map_some]

end Stock

/-! What the table of modules says of a module. -/

namespace ModuleTable

variable {t : ModuleTable} {h : Handle} {record : Record}

/-- The descriptor of a module and the number of references on it. -/
def tally (t : ModuleTable) (i : ModuleId) : Option (Descriptor × Nat) :=
  (t.record? i).map fun record => (record.descriptor, record.openCount)

theorem tally_insert (new : t.record? h.id = none) :
    (t.insert d h).tally = Function.update t.tally h.id (some (d, 1)) := by
  funext i
  by_cases same : i = h.id
  · subst same
    rw [Function.update_self]
    unfold record? at new
    simp [tally, record?, insert, List.find?_append, new, Record.openCount]
  · rw [Function.update_of_ne same]
    simp [tally, record?, insert, List.find?_append, Ne.symm same]

theorem find?_attachFirst (records : List Record) (i : ModuleId) :
    (attachFirst (·.id = h.id) h records).find? (·.id = i) =
      (records.find? (·.id = i)).map fun record =>
        if i = h.id then { record with handles := record.handles ++ [h] } else record := by
  induction records with
  | nil => rfl
  | cons first rest ih =>
    unfold attachFirst
    by_cases own : first.id = h.id
    · by_cases asked : first.id = i
      · simp [own, ← asked]
      · have other : i ≠ h.id := fun same => asked (own.trans same.symm)
        simp [own, other, other.symm]
    · by_cases asked : first.id = i
      · subst asked
        simp [own]
      · simp [own, asked, ih]

theorem tally_attach (tracked : t.record? h.id = some record) :
    (t.attach h).tally =
      Function.update t.tally h.id (some (record.descriptor, record.openCount + 1)) := by
  funext i
  unfold record? at tracked
  by_cases same : i = h.id
  · subst same
    rw [Function.update_self]
    simp [tally, record?, attach, find?_attachFirst, tracked, Record.openCount]
  · rw [Function.update_of_ne same]
    simp [tally, record?, attach, find?_attachFirst, same]

/-- The modules of the table with their descriptors and the number of their references. -/
def inventory (t : ModuleTable) : List (ModuleId × Descriptor × Nat) :=
  t.records.map fun record => (record.id, record.descriptor, record.openCount)

theorem WellKept.mem_inventory (kept : t.WellKept) {i : ModuleId} {count : Nat} :
    (i, d, count) ∈ t.inventory ↔ t.tally i = some (d, count) := by
  unfold inventory tally
  rw [List.mem_map, Option.map_eq_some_iff]
  constructor
  · rintro ⟨record, there, same⟩
    obtain ⟨rfl, values⟩ := Prod.mk.inj same
    refine ⟨record, ?_, values⟩
    cases tracked : t.record? record.id with
    | none => exact (List.find?_eq_none.mp tracked record there (by simp)).elim
    | some other =>
      have own : other.id = record.id := by simpa using List.find?_some tracked
      rw [List.inj_on_of_nodup_map kept.distinct (List.mem_of_find?_eq_some tracked) there own]
  · rintro ⟨record, tracked, values⟩
    have own : record.id = i := by simpa using List.find?_some tracked
    exact ⟨record, List.mem_of_find?_eq_some tracked, by rw [own, values]⟩

/-- A table in order is known, but for the order, by what it says of each module. -/
theorem WellKept.inventory_perm {t' : ModuleTable} (kept : t.WellKept) (kept' : t'.WellKept)
    (same : t.tally = t'.tally) : t.inventory.Perm t'.inventory := by
  have nodup : ∀ {t : ModuleTable}, t.WellKept → t.inventory.Nodup := by
    intro t kept
    refine List.Nodup.of_map Prod.fst ?_
    rw [inventory, List.map_map]
    exact kept.distinct
  refine (List.perm_ext_iff_of_nodup (nodup kept) (nodup kept')).mpr ?_
  rintro ⟨i, d, count⟩
  rw [kept.mem_inventory, kept'.mem_inventory, same]

end ModuleTable

namespace Host

variable {host : Host σ} {lib : Library}

/-- What matters of a host while the loader always does the same. -/
def stock (host : Host σ) : Stock := ⟨host.modules.tally, {p | p ∈ host.registry.plugins}⟩

/-- A module that was opened and answered is accepted as the library's memory says. -/
theorem Guarded.answered_accepts (keeps : S.Keeps P) (serves : S.Serves settings P lib)
    (guarded : host.Guarded settings S P (fun _ => lib.memory.plugin?) past) {path : Path}
    {handle : Handle} {system resolved : σ}
    (opening : S.openModule path host.system = (.ok handle, system))
    (resolving : S.resolve handle system = (.ok d, resolved)) :
    lib.memory.plugin? d = (S.memory resolved).plugin? d ∧
      (lib.memory.Accepts d ↔ (S.memory resolved).Accepts d) := by
  have holds := guarded.toAnchored.answered_holds keeps opening resolving
  have info : lib.memory.info d = (S.memory resolved).info d :=
    serves.reading.info _ _ holds _ _ _ guarded.toAnchored.answered_since
  refine ⟨congrArg Info.plugin? info, Memory.accepts_congr info fun p leads => ?_⟩
  have mapped := guarded.toAnchored.answer_in_place keeps serves.steady opening resolving leads
  exact serves.reading.tables _ _ holds p (.inr mapped)

theorem stock_untracked {handle : Handle} (new : host.modules.record? handle.id = none) :
    host.stock.tally handle.id = none := by
  show (host.modules.record? handle.id).map _ = none
  rw [new, Option.map_none]

/-- A new module answers as the library says. -/
theorem Guarded.exported (keeps : S.Keeps P) (serves : S.Serves settings P lib)
    (guarded : host.Guarded settings S P (fun _ => lib.memory.plugin?) past) {path : Path}
    {handle : Handle} {answer : Except String Descriptor} {system resolved : σ}
    (opening : S.openModule path host.system = (.ok handle, system))
    (resolving : S.resolve handle system = (answer, resolved)) :
    answer.toOption = lib.exports handle.id := by
  have isOpen := guarded.books.opened.is_open (h := handle) List.mem_cons_self
  rw [← serves.resolving (keeps.opening guarded.holds opening) isOpen, resolving]

/-- What is refused does not open, or it is a new module that the host cannot work with. -/
theorem Refusal.useless {path : Path} {e : PluginError} {events : List Event} {system : σ}
    (keeps : S.Keeps P) (serves : S.Serves settings P lib)
    (guarded : host.Guarded settings S P (fun _ => lib.memory.plugin?) past)
    (refusal : Refusal S path host e events system) :
    lib.opens path = none ∨
      ∃ i, lib.opens path = some i ∧ host.stock.tally i = none ∧ lib.offer? i = none := by
  have opens := serves.opening path guarded.holds
  have useless : ∀ {handle d system resolved},
      S.openModule path host.system = (.ok handle, system) →
      S.resolve handle system = (.ok d, resolved) → ¬ (S.memory resolved).Accepts d →
      lib.offer? handle.id = none := by
    intro handle d system resolved opening resolving unfit
    obtain ⟨_, accepts⟩ := guarded.answered_accepts keeps serves opening resolving
    have exports : some d = lib.exports handle.id := guarded.exported keeps serves opening resolving
    apply Option.eq_none_iff_forall_ne_some.mpr
    intro d' offered
    obtain ⟨same, accepted⟩ := Library.offer?_eq_some.mp offered
    cases exports.trans same
    exact unfit (accepts.mp accepted)
  cases refusal with
  | unopened opening =>
    rw [opening] at opens
    exact .inl opens.symm
  | unresolved opening new resolving =>
    rw [opening] at opens
    have exports := guarded.exported keeps serves opening resolving
    refine .inr ⟨_, opens.symm, stock_untracked new, ?_⟩
    rw [Library.offer?, ← exports]
    rfl
  | tableless opening new resolving bare =>
    rw [opening] at opens
    refine .inr ⟨_, opens.symm, stock_untracked new, useless opening resolving ?_⟩
    rintro ⟨p, leads, _⟩
    rw [bare] at leads
    cases leads
  | unsupported opening new resolving leads version =>
    rw [opening] at opens
    refine .inr ⟨_, opens.symm, stock_untracked new, useless opening resolving fun accepted => ?_⟩
    rw [(Memory.accepts_iff leads).mp accepted] at version
    cases version

/-- A load opens the module of its path in the stock, if the path opens one. -/
theorem load_stock (keeps : S.Keeps P) (serves : S.Serves settings P lib)
    (guarded : host.Guarded settings S P (fun _ => lib.memory.plugin?) past) (path : Path) :
    ((load S path).run host).value.toOption =
        (lib.opens path).bind (host.stock.answer? lib) ∧
      ((load S path).run host).state.stock =
        (lib.opens path).elim host.stock (host.stock.opened lib) := by
  have ends := load_ends S path host
  generalize (load S path).run host = step at ends ⊢
  have opens := serves.opening path guarded.holds
  cases ends with
  | refused refusal =>
    rcases refusal.useless keeps serves guarded with unopened | ⟨i, opened, new, useless⟩
    · rw [unopened]
      exact ⟨rfl, rfl⟩
    · obtain ⟨same, silent⟩ := Stock.opened_refused new useless
      rw [opened]
      exact ⟨silent.symm, same.symm⟩
  | @attached handle record _ opening tracked =>
    rw [opening] at opens
    have there : host.stock.tally handle.id = some (record.descriptor, record.openCount) := by
      show (host.modules.record? handle.id).map _ = _
      rw [tracked, Option.map_some]
    obtain ⟨attached, answered⟩ : host.stock.opened lib handle.id = _ ∧ _ :=
      Stock.opened_attached there
    rw [← opens]
    refine ⟨answered.symm, ?_⟩
    show _ = host.stock.opened lib handle.id
    rw [attached, stock, ModuleTable.tally_attach tracked]
    rfl
  | @entered handle d _ resolved registry _ opening new resolving registering =>
    rw [opening] at opens
    have outcome := Registry.register_outcome (S.memory resolved) d host.registry
    rw [registering] at outcome
    obtain ⟨fit, p, leads, grown⟩ := outcome.plugins
    obtain ⟨reads, accepts⟩ := guarded.answered_accepts keeps serves opening resolving
    have exports : some d = lib.exports handle.id := guarded.exported keeps serves opening resolving
    have offered := Library.offer?_eq_some.mpr ⟨exports.symm, accepts.mpr fit⟩
    obtain ⟨entered, answered⟩ :=
      Stock.opened_entered (stock_untracked new) offered (reads.trans leads)
    rw [← opens]
    refine ⟨answered.symm, ?_⟩
    show _ = host.stock.opened lib handle.id
    rw [entered, stock, ModuleTable.tally_insert new]
    congr 1
    ext q
    show q ∈ registry.plugins ↔ q = p ∨ q ∈ host.registry.plugins
    rw [grown.mem_iff, List.mem_insert_iff]

/-- Loads open the modules of their paths in the stock one after the other, and answer as if
each of them had been the first. -/
theorem loadEach_stock (keeps : S.Keeps P) (serves : S.Serves settings P lib)
    (guarded : host.Guarded settings S P (fun _ => lib.memory.plugin?) past) (paths : List Path) :
    loaded ((loadEach S paths).run host).value =
        (paths.filterMap lib.opens).filterMap (host.stock.answer? lib) ∧
      ((loadEach S paths).run host).state.stock =
        (paths.filterMap lib.opens).foldl (Stock.opened lib) host.stock := by
  induction paths generalizing past host with
  | nil => exact ⟨rfl, rfl⟩
  | cons path rest ih =>
    obtain ⟨answer, stock⟩ := load_stock keeps serves guarded path
    have later := (loads_load path).guarded keeps serves.steady past host guarded
    obtain ⟨others, stocks⟩ := ih later
    simp only [loadEach, Action.run_bind, Action.run_pure, loaded, List.filterMap_cons] at others ⊢
    rw [answer, others, stocks, stock]
    cases opens : lib.opens path with
    | none => exact ⟨rfl, rfl⟩
    | some i =>
      have answers : (host.stock.opened lib i).answer? lib = host.stock.answer? lib :=
        funext fun _ => Stock.answer?_opened
      simp only [Option.bind_some, Option.elim_some, answers, List.filterMap_cons, List.foldl_cons,
        and_true]

end Host

/-! A catalog whose declarations stay as they are. -/

/-- What a module answers when it is asked for its descriptor. -/
def DeclaredModule.exported (module : DeclaredModule) : Option Descriptor :=
  match module.resolveError with
  | some _ => none
  | none => module.descriptor

namespace Catalog

variable {modules : List DeclaredModule} {m : Memory} {c next : Catalog}

/-- What declared modules offer. Of two modules with one identity the first one counts. -/
def library (m : Memory) (modules : List DeclaredModule) : Library where
  opens path := (modules.find? (·.path = path)).bind fun module =>
    if module.openError.isNone then some module.id else none
  exports i := (modules.find? (·.id = i)).bind DeclaredModule.exported
  memory := m

/-- The declarations are what they were, and references lead to declared modules. -/
structure Unaltered (m : Memory) (modules : List DeclaredModule) (past : List Event)
    (c : Catalog) : Prop extends Tallied m (fun _ _ => True) past c where
  same : c.modules = modules
  sources : ∀ entry ∈ c.references, entry.2 ∈ modules

theorem unaltered_start : Unaltered m modules [] (ofModules m modules) :=
  ⟨.start (by simp), rfl, nofun⟩

theorem keeps_unaltered (m : Memory) (modules : List DeclaredModule) :
    surroundings.Keeps (Unaltered m modules) where
  opening unaltered opening := by
    have tallied := (keeps_tallied m _).opening unaltered.toTallied opening
    obtain ⟨module, found, _, rfl, rfl⟩ := opened_declared opening
    refine ⟨tallied, unaltered.same, fun entry there => ?_⟩
    rcases List.mem_cons.mp there with rfl | there
    · rw [← unaltered.same]
      exact List.mem_of_find?_eq_some found
    · exact unaltered.sources entry there
  failing unaltered opening := by
    have tallied := (keeps_tallied m _).failing unaltered.toTallied opening
    obtain ⟨rfl, _⟩ := failed_undeclared opening
    exact ⟨tallied, unaltered.same, unaltered.sources⟩
  resolving unaltered opened resolving := by
    have tallied := (keeps_tallied m _).resolving unaltered.toTallied opened resolving
    cases resolving
    exact ⟨tallied, unaltered.same, unaltered.sources⟩
  closing unaltered isOpen := by
    refine ⟨(keeps_tallied m _).closing unaltered.toTallied isOpen, unaltered.same, ?_⟩
    exact fun entry there => unaltered.sources entry (List.mem_filter.mp there).1
  hosting unaltered internal :=
    ⟨(keeps_tallied m _).hosting unaltered.toTallied internal, unaltered.same, unaltered.sources⟩

/-- A run on declared modules, to which nothing happens elsewhere. -/
theorem within_unaltered {calls : List (Call Catalog)}
    (alone : ∀ change, ¬ Run.Alters calls change) :
    Run.Within surroundings (ofModules m modules) calls (Unaltered m modules) :=
  ⟨unaltered_start, keeps_unaltered m modules, fun change alters => (alone change alters).elim⟩

theorem resolve_exported (h : Handle) (c : Catalog) :
    (resolve h c).1.toOption = (c.references.lookup h.number).bind DeclaredModule.exported := by
  unfold resolve
  cases c.references.lookup h.number with
  | none => rfl
  | some module =>
    obtain ⟨path, id, descriptor, openError, resolveError⟩ := module
    cases resolveError <;> cases descriptor <;> rfl

/-- Modules with one identity export the same. -/
def Consistent (modules : List DeclaredModule) : Prop :=
  ∀ a ∈ modules, ∀ b ∈ modules, a.id = b.id → a.exported = b.exported

/-- Declared modules are served as they are declared. -/
theorem serves_declared (settings : Settings) (consistent : Consistent modules) :
    surroundings.Serves settings (Unaltered m modules) (library m modules) where
  opening {past c} path unaltered := by
    simp only [library, ← unaltered.same]
    cases opening : surroundings.openModule path c with
    | mk answer next =>
      cases answer with
      | ok handle =>
        obtain ⟨module, found, opens, rfl, _⟩ := opened_declared opening
        simp [found, opens, Except.toOption]
      | error diagnostic =>
        have fails := (failed_undeclared opening).2
        cases found : c.modules.find? (·.path = path) with
        | none => rfl
        | some module => simp [fails module found, Except.toOption]
  resolving {past c h} unaltered isOpen := by
    have opened : Event.opened h ∈ past := opened_of_opens (by omega)
    obtain ⟨entry, there, number⟩ := unaltered.listed h isOpen
    show (resolve h c).1.toOption = (modules.find? (·.id = h.id)).bind DeclaredModule.exported
    rw [resolve_exported]
    cases looked : c.references.lookup h.number with
    | none =>
      have absent := List.lookup_eq_none_iff.mp looked entry there
      simp [number] at absent
    | some module =>
      have source : (h.number, module) ∈ c.references := by
        obtain ⟨before, after, split, _⟩ := List.lookup_eq_some_iff.mp looked
        simp [split]
      have declared := unaltered.sources _ source
      have own := unaltered.identified h opened _ source rfl
      cases first : modules.find? (·.id = h.id) with
      | none => exact absurd own (by simpa using List.find?_eq_none.mp first module declared)
      | some other =>
        have same : other.id = h.id := by simpa using List.find?_some first
        exact consistent module declared other (List.mem_of_find?_eq_some first)
          (own.trans same.symm)
  reading := by
    constructor
    · intro past c unaltered earlier h d since
      rw [← unaltered.memory]
      rfl
    · intro past c unaltered p place
      rw [← unaltered.memory]
      cases p <;> rfl

end Catalog
end CodecHost
