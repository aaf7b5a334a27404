import CodecHost.Proofs.BulkLoads
import CodecHost.Proofs.Settlements

/-! Emptying the table at once and unloading its descriptors one after the other come to the
same. One goes through the records in order and unregisters each module before it closes all
references on it; the other looks a record up for every reference and moves records about. Both
settle what is due, and nothing is due any more when the table is empty. -/
namespace CodecHost

open Ledger

variable {σ α : Type} {S : Surroundings σ} {settings : Settings} {P : List Event → σ → Prop}
  {table : List Event → Descriptor → Option Plugin} {ends : List Event → Descriptor → Bool}
  {past events : List Event} {d e : Descriptor}

namespace Ledger

/-- The references that were closed, in order. -/
def closings (events : List Event) : List Handle := events.filterMap Event.closed?

theorem closings_append (before after : List Event) :
    closings (before ++ after) = closings before ++ closings after := List.filterMap_append

theorem closings_quiet (quiet : ∀ e ∈ events, e.Quiet) : closings events = [] :=
  List.filterMap_eq_nil_iff.mpr fun e member => (quiet e member).closed?

theorem closings_closed (handles : List Handle) : closings (handles.map .closed) = handles := by
  rw [closings, List.filterMap_map]
  exact List.filterMap_some

theorem length_closings (events : List Event) :
    (closings events).length = closes (fun _ => true) events := by
  rw [closings, List.length_filterMap_eq_countP, closes]
  refine List.countP_congr fun e _ => ?_
  cases e.closed? <;> simp

end Ledger

/-! Unloading one after the other. -/

/-- A step that comes after other events. -/
def Step.after (step : Step σ α) (events : List Event) : Step σ α :=
  { step with events := events ++ step.events }

namespace Context

variable {c : Context σ}

/-- Unloading that succeeds leaves one reference less. -/
theorem unload_fewer (answer : ((unload S d).run c).value = .ok ()) :
    ((unload S d).run c).state.modules.holdings.length < c.modules.holdings.length := by
  rcases Host.unload_outcome (S := S) d c.host with ⟨idle, _⟩ | ⟨_, unloading⟩
  · have refused : ((unload S d).run c).value = .error .notLoaded := congrArg Step.value idle
    rw [refused] at answer
    cases answer
  · have fewer : c.modules.holdings.length = _ := unloading.holdings.length_eq
    rw [fewer]
    exact Nat.lt_succ_self _

/-- A descriptor is unloaded again and again until that is refused. The answer is why it was. -/
def refusal (S : Surroundings σ) (d : Descriptor) (c : Context σ) : Step (Context σ) PluginError :=
  match _ : ((unload S d).run c).value with
  | .error e => ⟨e, ((unload S d).run c).state, ((unload S d).run c).events⟩
  | .ok () => (refusal S d ((unload S d).run c).state).after ((unload S d).run c).events
termination_by c.modules.holdings.length
decreasing_by exact unload_fewer ‹_›

/-- Unloads a descriptor until that is refused. -/
def unloadFully (S : Surroundings σ) (d : Descriptor) : Action (Context σ) PluginError := refusal S d

/-- Unloads descriptors one after the other, each until that is refused. -/
def unloadEach (S : Surroundings σ) : List Descriptor → Action (Context σ) (List PluginError)
  | [] => pure []
  | d :: rest => do
    let refused ← unloadFully S d
    let others ← unloadEach S rest
    pure (refused :: others)

/-- References are given back one by one, and nothing of the context changes but its host. -/
structure Unloads (S : Surroundings σ) (past : List Event) (c : Context σ)
    (step : Step (Context σ) α) : Prop where
  trail : Trail (fun _ host events last => ∃ d, Host.Unloading S d host events last) past c.host
    step.events step.state.host
  state : step.state = { c with host := step.state.host }

theorem Unloads.trans {β γ : Type} {step : Step (Context σ) α} {more : Step (Context σ) β}
    (first : Unloads S past c step) (second : Unloads S (past ++ step.events) step.state more)
    (answer : γ) : Unloads S past c ⟨answer, more.state, step.events ++ more.events⟩ := by
  refine ⟨first.trail.trans second.trail, second.state.trans ?_⟩
  rw [first.state]

theorem unload_unloads (d : Descriptor) (c : Context σ) : Unloads S past c ((unload S d).run c) := by
  refine ⟨?_, rfl⟩
  rcases Host.unload_outcome (S := S) d c.host with ⟨idle, _⟩ | ⟨_, unloading⟩
  · rw [unload, onHost_run, idle]
    exact .done
  · exact .single ⟨d, unloading⟩

theorem unloadFully_unloads (d : Descriptor) (c : Context σ) :
    Unloads S past c ((unloadFully S d).run c) := by
  show Unloads S past c (refusal S d c)
  fun_induction refusal S d c generalizing past with
  | case1 c e answer => exact ⟨(unload_unloads d c).trail, rfl⟩
  | case2 c answer ih => exact (unload_unloads d c).trans ih _

theorem unloadEach_unloads (ds : List Descriptor) (c : Context σ) :
    Unloads S past c ((unloadEach S ds).run c) := by
  induction ds generalizing past c with
  | nil => exact ⟨.done, rfl⟩
  | cons d rest ih =>
    simp only [unloadEach, Action.run_bind, Action.run_pure, List.append_nil]
    exact (unloadFully_unloads d c).trans (ih _) _

namespace Unloads

variable {step : Step (Context σ) α}

theorem guarded (unloads : Unloads S past c step) (keeps : S.Keeps P) (steady : S.Steady P table)
    (guarded : c.host.Guarded settings S P table past) :
    step.state.host.Guarded settings S P table (past ++ step.events) :=
  unloads.trail.preserve (I := fun past host => host.Guarded settings S P table past)
    (fun ⟨_, unloading⟩ guarded => (Host.Move.unloading unloading).guarded keeps steady guarded)
    guarded

/-- Nothing is loaded afterwards that was not loaded before. -/
theorem descriptors (unloads : Unloads S past c step) (loaded : e ∈ step.state.modules.descriptors) :
    e ∈ c.modules.descriptors := by
  have fewer := unloads.trail.preserve
    (I := fun _ host => ∀ e ∈ host.modules.descriptors, e ∈ c.modules.descriptors)
    (fun ⟨_, unloading⟩ before e listed => by
      obtain ⟨new, member, rfl⟩ := List.mem_map.mp listed
      obtain ⟨old, there, continues⟩ := unloading.records member
      rw [continues.descriptor]
      exact before _ (List.mem_map_of_mem there))
    fun _ listed => listed
  exact fewer e loaded

/-- What is given back one by one settles a part of what is due. -/
theorem settles (unloads : Unloads S past c step) (keeps : S.Keeps P) (steady : S.Steady P table)
    (hasEnds : S.SteadyEnds P ends) (guarded : c.host.Guarded settings S P table past) :
    Host.Settles S c.host step.events step.state.host := by
  obtain ⟨trail, _⟩ := unloads
  generalize c.host = host, step.state.host = last, step.events = events at trail guarded
  induction trail with
  | done => exact .refl _
  | step first _ ih =>
    obtain ⟨d, unloading⟩ := first
    have later := (Host.Move.unloading unloading).guarded keeps steady guarded
    exact (unloading.settles keeps steady hasEnds guarded).trans (ih later)

end Unloads

/-- A descriptor that was unloaded until that was refused is not loaded any more. -/
theorem unloadFully_missing (keeps : S.Keeps P) (steady : S.Steady P table)
    (guarded : c.host.Guarded settings S P table past) :
    ((unloadFully S d).run c).value = .notLoaded ∧
      d ∉ ((unloadFully S d).run c).state.modules.descriptors := by
  show (refusal S d c).value = .notLoaded ∧ d ∉ (refusal S d c).state.modules.descriptors
  fun_induction refusal S d c generalizing past with
  | case1 c e answer =>
    rcases Host.unload_outcome (S := S) d c.host with ⟨idle, _⟩ | ⟨unloaded, _⟩
    · have refused : (unload S d).run c = ⟨.error .notLoaded, c, []⟩ := by
        rw [unload, onHost_run, idle]
      rw [refused] at answer ⊢
      refine ⟨(Except.error.inj answer).symm, fun loaded => ?_⟩
      have succeeds := (Host.unload_loaded (S := S) guarded.kept loaded).1
      rw [idle] at succeeds
      cases succeeds
    · cases answer.symm.trans unloaded
  | case2 c answer ih =>
    have first : Unloads S past c _ := unload_unloads d c
    exact ih (first.guarded keeps steady guarded)

/-- None of the descriptors is loaded any more after each was unloaded. -/
theorem unloadEach_missing (keeps : S.Keeps P) (steady : S.Steady P table)
    (guarded : c.host.Guarded settings S P table past) (ds : List Descriptor) :
    ((unloadEach S ds).run c).value = ds.map (fun _ => .notLoaded) ∧
      ∀ d ∈ ds, d ∉ ((unloadEach S ds).run c).state.modules.descriptors := by
  induction ds generalizing past c with
  | nil => exact ⟨rfl, nofun⟩
  | cons d rest ih =>
    have first : Unloads S past c ((unloadFully S d).run c) := unloadFully_unloads d c
    have later := first.guarded keeps steady guarded
    obtain ⟨refused, gone⟩ := unloadFully_missing (d := d) keeps steady guarded
    obtain ⟨others, missing⟩ := ih later
    have fewer : Unloads S past _ ((unloadEach S rest).run ((unloadFully S d).run c).state) :=
      unloadEach_unloads rest _
    simp only [unloadEach, Action.run_bind, Action.run_pure, List.map_cons]
    refine ⟨congrArg₂ List.cons refused others, fun e listed loaded => ?_⟩
    rcases List.mem_cons.mp listed with rfl | there
    · exact gone (fewer.descriptors loaded)
    · exact missing e there loaded

/-- Unloading all that is loaded empties the table. -/
theorem unloadEach_empty (keeps : S.Keeps P) (steady : S.Steady P table)
    (guarded : c.host.Guarded settings S P table past) {ds : List Descriptor}
    (all : ∀ d ∈ c.modules.descriptors, d ∈ ds) :
    ((unloadEach S ds).run c).state.modules = .empty := by
  have unloads : Unloads S past c ((unloadEach S ds).run c) := unloadEach_unloads ds c
  have missing := (unloadEach_missing keeps steady guarded ds).2
  have none : ((unloadEach S ds).run c).state.modules.descriptors = [] := by
    refine List.eq_nil_iff_forall_not_mem.mpr fun e loaded => ?_
    exact missing e (all e (unloads.descriptors loaded)) loaded
  have records := List.map_eq_nil_iff.mp none
  generalize ((unloadEach S ds).run c).state.modules = t at records ⊢
  cases t
  exact congrArg ModuleTable.mk records

end Context

/-! Emptying the table at once. -/

namespace Host

variable {host : Host σ} {before after : List Record} {record : Record}

theorem unloadRecords_settles (keeps : S.Keeps P) (steady : S.Steady P table)
    (hasEnds : S.SteadyEnds P ends) {records : List Record} {registry : Registry} {system : σ}
    (guarded : Guarded settings S P table past ⟨registry, ⟨records⟩, system⟩) :
    Settles S ⟨registry, ⟨records⟩, system⟩
      ((unloadRecords S records).run ⟨registry, .empty, system⟩).events
      ((unloadRecords S records).run ⟨registry, .empty, system⟩).state := by
  induction records generalizing past registry system with
  | nil => exact .refl _
  | cons record rest ih =>
    simp only [unloadRecords, Action.run_bind, onRegistry_run, releaseAll_run, Action.run_note,
      Action.run_pure, List.append_nil]
    have outcome := Registry.unregister_outcome (S.memory system) record.descriptor registry
    generalize (Registry.unregister (S.memory system) record.descriptor).run registry = step
      at outcome ⊢
    obtain ⟨was, left, hooks⟩ := step
    have forced : Move S ⟨registry, ⟨record :: rest⟩, system⟩ _ _ := .forced rfl outcome
    have first := settles_forced keeps steady hasEnds guarded rfl outcome
    have others := ih (forced.guarded keeps steady guarded)
    simpa only [List.append_assoc] using
      (first.noted (.forceUnloaded record.id record.openCount)).trans others

/-- It answers how many references there were. -/
theorem unloadRecords_value (records : List Record) (host : Host σ) :
    ((unloadRecords S records).run host).value = ModuleTable.references ⟨records⟩ := by
  induction records generalizing host with
  | nil => rfl
  | cons record rest ih =>
    simp only [unloadRecords, Action.run_bind, Action.run_pure, ih]
    rfl

/-- All references are closed, record by record. -/
theorem unloadRecords_closings (records : List Record) (host : Host σ) :
    closings ((unloadRecords S records).run host).events = ModuleTable.handles ⟨records⟩ := by
  induction records generalizing host with
  | nil => rfl
  | cons record rest ih =>
    have quiet := (Registry.unregister_outcome (S.memory host.system) record.descriptor
      host.registry).internal
    simp only [unloadRecords, Action.run_bind, onRegistry_run, releaseAll_run, Action.run_note,
      Action.run_pure, List.append_nil, closings_append, closings_closed, ih,
      closings_quiet fun e member => (quiet e member).quiet]
    rfl

/-- Emptying the table answers how many references it closes, which are all there are. -/
theorem unloadAll_value (host : Host σ) :
    ((unloadAll S).run host).value = closes (fun _ => true) ((unloadAll S).run host).events ∧
      ((unloadAll S).run host).value = host.modules.references := by
  have references : ((unloadAll S).run host).value = host.modules.references :=
    unloadRecords_value _ _
  have closed : closings ((unloadAll S).run host).events = host.modules.handles :=
    unloadRecords_closings _ _
  refine ⟨?_, references⟩
  rw [← length_closings, closed, references, ModuleTable.references_eq]
  simp [ModuleTable.holdings, ModuleTable.handles]

theorem unloadRecords_append (others : List Record) (host : Host σ) :
    ((unloadRecords S (before ++ others)).run host).events =
      ((unloadRecords S before).run host).events ++
        ((unloadRecords S others).run ((unloadRecords S before).run host).state).events := by
  induction before generalizing host with
  | nil => rfl
  | cons record rest ih =>
    simp only [List.cons_append, unloadRecords, Action.run_bind, Action.run_pure, ih,
      List.append_assoc, List.append_nil]

/-- The table of a record is what it was when the records in front of it have gone. -/
theorem unloadRecords_front (keeps : S.Keeps P) (steady : S.Steady P table) {registry : Registry}
    {system : σ}
    (guarded : Guarded settings S P table past ⟨registry, ⟨before ++ record :: after⟩, system⟩) :
    let last := ((unloadRecords S before).run ⟨registry, .empty, system⟩).state
    last.registry.plugins.Nodup ∧
      (S.memory last.system).plugin? record.descriptor =
        (S.memory system).plugin? record.descriptor := by
  induction before generalizing past registry system with
  | nil => exact ⟨guarded.single, rfl⟩
  | cons first rest ih =>
    simp only [unloadRecords, Action.run_bind, onRegistry_run, releaseAll_run, Action.run_note,
      Action.run_pure]
    have outcome := Registry.unregister_outcome (S.memory system) first.descriptor registry
    generalize (Registry.unregister (S.memory system) first.descriptor).run registry = step
      at outcome ⊢
    obtain ⟨was, left, hooks⟩ := step
    have forced : Move S ⟨registry, ⟨first :: (rest ++ record :: after)⟩, system⟩ _ _ :=
      .forced rfl outcome
    have later := forced.guarded keeps steady guarded
    obtain ⟨single, reads⟩ := ih later
    refine ⟨single, reads.trans ?_⟩
    exact guarded.toAnchored.reading later.toAnchored forced.opensFirst steady
      (List.mem_cons_of_mem _ (by simp)) (.refl record) (by simp)

variable (S) in
/-- The table is emptied up to a record whose module was just unregistered. -/
def unregisterNext (before : List Record) (record : Record) : Action (Host σ) Unit := do
  modifyModules fun _ => .empty
  let _ ← unloadRecords S before
  let _ ← onRegistry S fun m => Registry.unregister m record.descriptor

theorem unregisterNext_run (before : List Record) (record : Record) (host : Host σ) :
    let cleared := (unloadRecords S before).run { host with modules := .empty }
    let step := (Registry.unregister (S.memory cleared.state.system) record.descriptor).run
      cleared.state.registry
    (unregisterNext S before record).run host =
      ⟨(), { cleared.state with registry := step.state }, cleared.events ++ step.events⟩ := by
  simp only [unregisterNext, Action.run_bind, modifyModules_run, onRegistry_run, Action.run_pure,
    List.nil_append, List.append_nil]

/-- The module of every record is unregistered before its references are closed. -/
theorem unloadAll_order (keeps : S.Keeps P) (steady : S.Steady P table)
    (guarded : host.Guarded settings S P table past)
    (split : host.modules.records = before ++ record :: after) :
    let front := (unregisterNext S before record).run host
    (∃ later, ((unloadAll S).run host).events =
      front.events ++ record.handles.map .closed ++ later) ∧
    closings front.events = ModuleTable.handles ⟨before⟩ ∧
    ∀ p, (S.memory host.system).plugin? record.descriptor = some p →
      p ∉ front.state.registry.plugins := by
  have whole : Guarded settings S P table past
      ⟨host.registry, ⟨before ++ record :: after⟩, host.system⟩ := by
    rw [← split]
    exact guarded
  obtain ⟨single, reads⟩ := unloadRecords_front keeps steady whole
  let cleared := (unloadRecords S before).run { host with modules := .empty }
  have outcome := Registry.unregister_outcome (S.memory cleared.state.system) record.descriptor
    cleared.state.registry
  simp only [unregisterNext_run]
  refine ⟨?_, ?_, fun p leads => ?_⟩
  · simp only [unloadAll, Action.run_bind, Action.run_get, modifyModules_run, split,
      unloadRecords_append, List.nil_append]
    simp only [unloadRecords, Action.run_bind, onRegistry_run, releaseAll_run, List.append_assoc]
    exact ⟨_, rfl⟩
  · rw [closings_append, unloadRecords_closings,
      closings_quiet fun e member => (outcome.internal e member).quiet, List.append_nil]
  · generalize (Registry.unregister _ record.descriptor).run _ = step at outcome ⊢
    rw [show step.state.plugins = _ from outcome.plugins, reads, leads, Option.elim_some]
    exact fun active => (single.mem_erase_iff.mp active).1 rfl

end Host

namespace Run

variable {system : σ} {calls : List (Call σ)}

/-- **Forced unloading is balanced unloading.** Assume that what an open module leads to stays
what it is. In every reachable context the table may be emptied at once, or all descriptors of
it may be unloaded in any order, each until it is refused because it is not loaded. Both leave an
empty table and the same registry: what was active without the tables of the loaded modules, in
the order in which it was. Both make the same closes and the same hooks run. Emptying the table
answers the number of closes, which is that of all references. It unregisters the module of every
record, and takes its table out of the registry, before it closes the references on it. The number
of clients and whether the built-ins are registered stay as they are. -/
theorem forced_unload_balanced (within : Within S system calls P) (steady : S.Steady P table)
    (hasEnds : S.SteadyEnds P ends) {ds : List Descriptor}
    (all : ∀ d ∈ (context S settings system calls).modules.descriptors, d ∈ ds) :
    let c := context S settings system calls
    let forced := (Context.unloadAll S).run c
    let each := (Context.unloadEach S ds).run c
    each.value = ds.map (fun _ => .notLoaded) ∧
    (forced.state.modules = .empty ∧ each.state.modules = .empty) ∧
    (forced.state.registry = c.registry.without (c.host.tables S) ∧
      each.state.registry = forced.state.registry) ∧
    (deeds each.events).Perm (deeds forced.events) ∧
    (forced.value = closes (fun _ => true) forced.events ∧
      forced.value = c.modules.references) ∧
    (∀ before record after, c.modules.records = before ++ record :: after →
      let front := (Host.unregisterNext S before record).run c.host
      (∃ later, forced.events = front.events ++ record.handles.map .closed ++ later) ∧
      closings front.events = ModuleTable.handles ⟨before⟩ ∧
      ∀ p, (S.memory c.host.system).plugin? record.descriptor = some p →
        p ∉ front.state.registry.plugins) ∧
    ∀ last ∈ [forced.state, each.state],
      last.initCount = c.initCount ∧ last.builtinsRegistered = c.builtinsRegistered := by
  intro c forced each
  have keeps := within.loading
  have guarded : c.host.Guarded settings S P table _ := guarded settings within steady
  have unloads : Context.Unloads S (past S settings system calls) c each :=
    Context.unloadEach_unloads ds c
  have forcedEmpty : forced.state.modules = .empty := Host.unloadAll_modules c.host
  have eachEmpty : each.state.modules = .empty :=
    Context.unloadEach_empty keeps steady guarded all
  have whole : Host.Settles S c.host forced.events forced.state.host :=
    Host.unloadRecords_settles keeps steady hasEnds guarded
  obtain ⟨forcedRegistry, forcedDeeds⟩ := whole.emptied forcedEmpty
  obtain ⟨eachRegistry, eachDeeds⟩ :=
    (unloads.settles keeps steady hasEnds guarded).emptied eachEmpty
  refine ⟨(Context.unloadEach_missing keeps steady guarded ds).1, ⟨forcedEmpty, eachEmpty⟩,
    ⟨forcedRegistry, eachRegistry.trans forcedRegistry.symm⟩, eachDeeds.trans forcedDeeds.symm,
    Host.unloadAll_value c.host, ?_, ?_⟩
  · intro before record after split
    exact Host.unloadAll_order keeps steady guarded split
  · intro last listed
    rcases List.mem_pair.mp listed with rfl | rfl
    · exact ⟨rfl, rfl⟩
    · rw [unloads.state]
      exact ⟨rfl, rfl⟩

/-- Four modules. Two of them export one descriptor, and a third one leads to the same table. -/
def crowded : Catalog :=
  .ofModules (.ofEncoders fun place => if place = 1 then 0 else place)
    [.working 97 1 0, .working 98 2 1, .working 99 3 2, .working 100 4 0]

/-- A plugin comes with the program. -/
def bundled : Settings := { Catalog.searchless with builtins := some ⟨fun _ => [some ⟨9⟩]⟩ }

/-- All modules are loaded, and two of them twice. -/
def crowd : List (Call Catalog) :=
  [.load ⟨[97]⟩, .load ⟨[98]⟩, .load ⟨[99]⟩, .load ⟨[100]⟩, .load ⟨[99]⟩, .load ⟨[100]⟩]

/-- Only the plugin that came with the program is left, whether the table is emptied at once or
the descriptors are unloaded in the opposite order, with one among them that is not loaded. -/
theorem crowd_unloaded :
    let c := context Catalog.surroundings bundled crowded crowd
    let forced := (Context.unloadAll Catalog.surroundings).run c
    let each := (Context.unloadEach Catalog.surroundings [⟨2⟩, ⟨5⟩, ⟨1⟩, ⟨0⟩]).run c
    each.value = [.notLoaded, .notLoaded, .notLoaded, .notLoaded] ∧ forced.value = 6 ∧
      each.state.registry.encoders = [⟨9⟩] ∧ (deeds each.events).Perm (deeds forced.events) := by
  intro c forced each
  have within : Within Catalog.surroundings crowded crowd
      (Catalog.Faithful crowded.memory fun _ _ => True) :=
    Catalog.within_faithful (by simp) (by simp [Alters, Call.flatAll, Call.flat, crowd])
  have steady := Catalog.steady_faithful crowded.memory fun _ _ => True
  have hasEnds : Catalog.surroundings.SteadyEnds
      (Catalog.Faithful crowded.memory fun _ _ => True) fun _ _ => true := by
    intro past s faithful earlier h d _ p leads
    have memory : Catalog.surroundings.memory s = crowded.memory := faithful.memory
    rw [memory] at leads ⊢
    cases leads
    rfl
  have all : ∀ d ∈ c.modules.descriptors, d ∈ [⟨2⟩, ⟨5⟩, ⟨1⟩, ⟨0⟩] := by decide
  obtain ⟨refused, _, ⟨_, registry⟩, deeds, _⟩ := forced_unload_balanced within steady hasEnds all
  refine ⟨refused, by decide, ?_, deeds⟩
  rw [registry]
  decide

end Run
end CodecHost
