import CodecHost.Proofs.ActiveTables
import CodecHost.Proofs.CatalogWorlds
import Mathlib.Data.List.Nodup

/-! The registry is exactly what is active, as long as no two modules share a function
table with each other or with the built-ins: while the built-ins count as active
these are in it, and beside them the tables of the loaded modules, each once. -/
namespace CodecHost

variable {σ α : Type} {S : Surroundings σ} {settings : Settings} {elsewhere : (σ → σ) → Prop}
  {P : List Event → σ → Prop} {table : List Event → Descriptor → Option Plugin}
  {T : ModuleId → Plugin} {own : Descriptor → Option Plugin} {builtins : List Descriptor}
  {past events : List Event} {base : Plugin → Prop}

/-- Each module has a function table of its own, and the built-ins have others, which
do not change. -/
structure Surroundings.Separate (S : Surroundings σ) (P : List Event → σ → Prop)
    (table : List Event → Descriptor → Option Plugin) (T : ModuleId → Plugin)
    (own : Descriptor → Option Plugin) (builtins : List Descriptor) : Prop where
  injective : ∀ i j, T i = T j → i = j
  assigned : ∀ past s, P past s → ∀ earlier h d p, OpenSince earlier past h d →
    table earlier d = some p → p = T h.id
  fixed : ∀ past s, P past s → ∀ d ∈ builtins, (S.memory s).plugin? d = own d
  apart : ∀ d ∈ builtins, ∀ i, own d ≠ some (T i)

/-- The built-ins are one list of plugins, an empty one if the settings name none, and they never
fail to register. -/
structure Settings.Dependable (settings : Settings) (S : Surroundings σ)
    (P : List Event → σ → Prop) (builtins : List Descriptor) : Prop where
  routine : match settings.builtins with
    | some b => ∀ n, b.round n = builtins.map some
    | none => builtins = []
  succeeds : ∀ past c, P past c.host.system →
    ((Context.registerBuiltins S settings).run c).value = .ok ()

/-- Settings that name no built-ins are dependable. -/
theorem Settings.dependable_bare (bare : settings.builtins = none) :
    settings.Dependable S P [] where
  routine := by simp only [bare]
  succeeds := fun _ _ _ => by simp only [Context.registerBuiltins, bare, Action.run_pure]

namespace Host

variable {host last : Host σ}

/-- The registry is made up of certain plugins and of those of the loaded modules. -/
structure Mirrored (S : Surroundings σ) (base : Plugin → Prop) (host : Host σ) : Prop where
  single : host.registry.plugins.Nodup
  active : ∀ p, p ∈ host.registry.plugins ↔ base p ∨ p ∈ host.tables S

theorem Effect.mirrored (effect : Effect S host last) (mirrored : host.Mirrored S base)
    (distinct : (host.tables S).Nodup) (apart : ∀ p ∈ host.tables S, ¬ base p) :
    last.Mirrored S base := by
  cases effect with
  | idle active behind =>
    refine ⟨by rw [active]; exact mirrored.single, fun p => ?_⟩
    rw [active, behind.mem_iff]
    exact mirrored.active p
  | gained active behind =>
    refine ⟨active.nodup_iff.mpr (List.Nodup.insert mirrored.single), fun q => ?_⟩
    rw [active.mem_iff, List.mem_insert_iff, behind.mem_iff, List.mem_cons, mirrored.active]
    tauto
  | @lost p active behind =>
    refine ⟨by rw [active]; exact mirrored.single.erase p, fun q => ?_⟩
    rw [active, mirrored.single.mem_erase_iff, mirrored.active, behind.mem_iff, List.mem_cons]
    have listed : p ∈ host.tables S := behind.mem_iff.mpr List.mem_cons_self
    have gone : p ∉ last.tables S := (List.nodup_cons.mp (behind.nodup_iff.mp distinct)).1
    constructor
    · rintro ⟨other, inside | same | there⟩
      · exact .inl inside
      · exact absurd same other
      · exact .inr there
    · rintro (inside | there)
      · exact ⟨fun same => apart p listed (same ▸ inside), .inl inside⟩
      · exact ⟨fun same => gone (same ▸ there), .inr (.inr there)⟩

/-- What is behind the descriptor of a record is the table of its module. -/
theorem Anchored.own_table (anchored : host.Anchored P past) (steady : S.Steady P table)
    (separate : S.Separate P table T own builtins) {record : Record}
    (member : record ∈ host.modules.records) {p : Plugin}
    (leads : (S.memory host.system).plugin? record.descriptor = some p) : p = T record.id := by
  obtain ⟨earlier, h, inside, since, reads⟩ := anchored.steady steady member
  rw [← anchored.kept.owned record member h inside]
  exact separate.assigned past _ anchored.holds earlier h _ p since (reads.symm.trans leads)

theorem Anchored.tables_distinct (anchored : host.Anchored P past) (steady : S.Steady P table)
    (separate : S.Separate P table T own builtins) : (host.tables S).Nodup := by
  refine List.pairwise_filterMap.mpr (.imp_of_mem ?_ (List.pairwise_map.mp anchored.kept.distinct))
  rintro r r' there there' differ p leads p' leads' rfl
  refine differ (separate.injective _ _ ?_)
  rw [← anchored.own_table steady separate there leads,
    ← anchored.own_table steady separate there' leads']

end Host
namespace Context

variable {c last : Context σ}

/-- The built-ins, while they count as active. -/
def Standing (own : Descriptor → Option Plugin) (builtins : List Descriptor) (c : Context σ)
    (p : Plugin) : Prop :=
  c.builtinsRegistered = true ∧ ∃ d ∈ builtins, own d = some p

/-- The registry is exactly what is active. -/
structure Mirrored (S : Surroundings σ) (P : List Event → σ → Prop)
    (own : Descriptor → Option Plugin) (builtins : List Descriptor) (past : List Event)
    (c : Context σ) : Prop where
  anchored : c.host.Anchored P past
  mirrored : c.host.Mirrored S (c.Standing own builtins)

/-- No table of a loaded module is one of the built-ins. -/
theorem Mirrored.apart (mirrored : c.Mirrored S P own builtins past) (steady : S.Steady P table)
    (separate : S.Separate P table T own builtins) :
    ∀ p ∈ c.host.tables S, ¬ c.Standing own builtins p := by
  rintro p listed ⟨_, d, builtin, leads⟩
  obtain ⟨record, there, reads⟩ := List.mem_filterMap.mp listed
  rw [mirrored.anchored.own_table steady separate there reads] at leads
  exact separate.apart d builtin record.id leads

/-- Loading and unloading keep it so. -/
theorem Inside.mirrored (keeps : S.Keeps P) (steady : S.Steady P table)
    (separate : S.Separate P table T own builtins)
    (inside : Inside (Host.Move S) past c events last)
    (mirrored : c.Mirrored S P own builtins past) :
    last.Mirrored S P own builtins (past ++ events) := by
  cases inside with
  | step move =>
    have anchored := mirrored.anchored
    refine ⟨move.anchored keeps anchored, ?_⟩
    exact (move.effect keeps steady anchored).mirrored mirrored.mirrored
      (anchored.tables_distinct steady separate) (mirrored.apart steady separate)

/-- Registering plugins that the host can work with succeeds. -/
theorem registerEach_succeeds {host : Host σ}
    (fit : ∀ d ∈ builtins, (S.memory host.system).Accepts d) :
    ((registerEach S (builtins.map some)).run host).value = .ok () := by
  induction builtins generalizing host with
  | nil => rfl
  | cons d rest ih =>
    simp only [List.map_cons, registerEach, Action.run_bind, Host.onRegistry_run]
    have outcome := Registry.register_outcome (S.memory host.system) d host.registry
    generalize (Registry.register (S.memory host.system) d).run host.registry = step at outcome ⊢
    obtain ⟨value, next, hooks⟩ := step
    cases value with
    | error e =>
      cases outcome with
      | rejected _ unfit => exact absurd (fit d (by simp)) unfit
    | ok _ =>
      refine ih fun d later => ?_
      exact fit d (by simp [later])

/-- When registering a list of plugins succeeds, they are active, each once. -/
theorem registerEach_plugins {host : Host σ}
    (succeeds : ((registerEach S (builtins.map some)).run host).value = .ok ()) :
    ∃ registry, ((registerEach S (builtins.map some)).run host).state = { host with registry } ∧
      (host.registry.plugins.Nodup → registry.plugins.Nodup) ∧
      ∀ p, p ∈ registry.plugins ↔ p ∈ host.registry.plugins ∨
        ∃ d ∈ builtins, (S.memory host.system).plugin? d = some p := by
  induction builtins generalizing host with
  | nil => exact ⟨host.registry, rfl, id, by simp⟩
  | cons d rest ih =>
    simp only [List.map_cons, registerEach, Action.run_bind, Host.onRegistry_run] at succeeds ⊢
    have outcome := Registry.register_outcome (S.memory host.system) d host.registry
    generalize (Registry.register (S.memory host.system) d).run host.registry = step
      at outcome succeeds ⊢
    obtain ⟨value, next, hooks⟩ := step
    cases value with
    | error e => cases succeeds
    | ok _ =>
      obtain ⟨_, q, leads, active⟩ := outcome.plugins
      obtain ⟨registry, state, single, members⟩ := ih succeeds
      refine ⟨registry, state, fun before => single ?_, fun p => ?_⟩
      · exact active.nodup_iff.mpr (List.Nodup.insert before)
      · rw [members, active.mem_iff, List.mem_insert_iff, List.exists_mem_cons_iff, leads,
          Option.some_inj]
        tauto

/-- Built-ins that never fail come into the registry beside what is there. -/
theorem activateBuiltins_state (dependable : settings.Dependable S P builtins)
    (holds : P past c.host.system) :
    ((activateBuiltins S settings).run c).value = .ok () ∧
    ∃ registry rounds, ((activateBuiltins S settings).run c).state =
        { c with
          host := { c.host with registry }
          builtinsRegistered := true
          builtinRounds := rounds } ∧
      (c.host.registry.plugins.Nodup → registry.plugins.Nodup) ∧
      ∀ p, p ∈ registry.plugins ↔ p ∈ c.host.registry.plugins ∨
        ∃ d ∈ builtins, (S.memory c.host.system).plugin? d = some p := by
  have routine := dependable.routine
  cases named : settings.builtins with
  | none =>
    have empty : builtins = [] := by simpa only [named] using routine
    simp only [activateBuiltins, registerBuiltins, named, Action.run_bind, Action.run_modify,
      Action.run_pure]
    exact ⟨trivial, c.host.registry, c.builtinRounds, rfl, id, by simp [empty]⟩
  | some b =>
    have round : ∀ n, b.round n = builtins.map some := by simpa only [named] using routine
    have succeeds := dependable.succeeds past c holds
    simp only [registerBuiltins, named, Action.run_bind, Action.run_get, Action.run_modify,
      Action.run_emit, onHost_run, round] at succeeds
    obtain ⟨registry, state, single, members⟩ := registerEach_plugins succeeds
    simp only [activateBuiltins, registerBuiltins, named, Action.run_bind, Action.run_get,
      Action.run_modify, Action.run_emit, onHost_run, round, succeeds, state, Action.run_pure]
    exact ⟨trivial, registry, _, rfl, single, members⟩

/-- Bringing the built-ins in when they do not count as active. -/
theorem activateBuiltins_mirrored (keeps : S.Keeps P)
    (separate : S.Separate P table T own builtins)
    (dependable : settings.Dependable S P builtins) :
    Ensures (fun past c => c.Mirrored S P own builtins past ∧ c.builtinsRegistered = false)
      (activateBuiltins S settings)
      fun answer past c => c.Mirrored S P own builtins past ∧ answer = .ok () := by
  rintro past c ⟨⟨anchored, mirrored⟩, inactive⟩
  obtain ⟨answer, registry, _, state, single, members⟩ :=
    activateBuiltins_state dependable anchored.holds
  have grows : Grows S settings (activateBuiltins S settings) := grows_activateBuiltins
  refine ⟨⟨grows.anchored keeps past c anchored, ?_⟩, answer⟩
  rw [state]
  refine ⟨single mirrored.single, fun p => ?_⟩
  have reads : (∃ d ∈ builtins, (S.memory c.host.system).plugin? d = some p) ↔
      ∃ d ∈ builtins, own d = some p := by
    refine exists_congr fun d => and_congr_right fun builtin => ?_
    rw [separate.fixed past _ anchored.holds d builtin]
  rw [members, mirrored.active, reads]
  simp only [Standing, inactive, Bool.false_eq_true, false_and, false_or, true_and]
  exact or_comm

/-- The action leaves the registry exact. -/
def Mirroring (S : Surroundings σ) (P : List Event → σ → Prop)
    (own : Descriptor → Option Plugin) (builtins : List Descriptor) (a : Action (Context σ) α) :
    Prop :=
  Ensures (fun past c => c.Mirrored S P own builtins past) a
    fun _ past c => c.Mirrored S P own builtins past

theorem mirroring_host {a : Action (Host σ) α} (keeps : S.Keeps P) (steady : S.Steady P table)
    (separate : S.Separate P table T own builtins) (moving : Host.Moving S a) :
    Mirroring S P own builtins (onHost a) :=
  (performs_host moving).ensures (Inside.mirrored keeps steady separate)

theorem mirroring_loadSearchPath (keeps : S.Keeps P) (steady : S.Steady P table)
    (separate : S.Separate P table T own builtins) :
    Mirroring S P own builtins (loadSearchPath S settings) := by
  refine loadSearchPath_inside.ensures fun inside mirrored => ?_
  cases inside with
  | step loading => exact Inside.mirrored keeps steady separate (.step (.loading loading)) mirrored

/-- Before the search path is loaded the built-ins come back, if they are away. -/
theorem mirroring_init (keeps : S.Keeps P) (steady : S.Steady P table)
    (separate : S.Separate P table T own builtins)
    (dependable : settings.Dependable S P builtins) :
    Mirroring S P own builtins (init S settings) := by
  have counted : Mirroring S P own builtins
      (Action.modify fun c : Context σ => { c with initCount := c.initCount + 1 }) := by
    intro past c mirrored
    rw [Action.run_modify, List.append_nil]
    exact ⟨mirrored.anchored, mirrored.mirrored⟩
  refine ensures_bind counted fun _ => ensures_get_bind fun c => ?_
  have noted : Ensures (fun past t => t.Mirrored S P own builtins past ∧ t = c)
      (Action.note (.initCounted c.initCount))
      fun _ past t => t.Mirrored S P own builtins past ∧ t = c := by
    rintro past t ⟨mirrored, rfl⟩
    exact ⟨Inside.mirrored keeps steady separate (.step (.loading (.noted _))) mirrored, rfl⟩
  have loaded : Mirroring S P own builtins (loadSearchPath S settings) :=
    mirroring_loadSearchPath keeps steady separate
  refine ensures_bind noted fun _ => ?_
  split
  · split
    · exact fun past t ⟨mirrored, _⟩ => loaded past t mirrored
    · next away =>
      have back : Ensures (fun past t => t.Mirrored S P own builtins past ∧ t = c)
          (activateBuiltins S settings)
          fun answer past t => t.Mirrored S P own builtins past ∧ answer = .ok () := by
        rintro past t ⟨mirrored, rfl⟩
        exact activateBuiltins_mirrored keeps separate dependable past t
          ⟨mirrored, Bool.eq_false_iff.mpr away⟩
      refine ensures_bind back fun answer => ?_
      cases answer with
      | error e =>
        rintro past t ⟨_, impossible⟩
        cases impossible
      | ok _ => exact fun past t ⟨mirrored, _⟩ => loaded past t mirrored
  · exact ensures_pure fun past t ⟨mirrored, _⟩ => mirrored

/-- Nothing is active in an empty context. -/
theorem mirrored_empty (c : Context σ) (system : σ) (inactive : c.builtinsRegistered = false) :
    (Host.fresh system).Mirrored S (c.Standing own builtins) := by
  refine ⟨List.nodup_nil, fun p => ?_⟩
  simp [Standing, inactive, Host.tables, Host.fresh, ModuleTable.empty, Registry.plugins_empty]

/-- A teardown leaves the registry and the table empty. -/
theorem mirroring_deinit (keeps : S.Keeps P) : Mirroring S P own builtins (deinit S) := by
  intro past c mirrored
  have moving : Moving S .standard (fun _ => False) (deinit S) := deinit_moving
  refine ⟨moving.anchored keeps nofun past c mirrored.anchored, ?_⟩
  rcases deinit_state (S := S) c with ⟨count, state⟩ | ⟨system, state⟩
  · rw [state]
    exact mirrored.mirrored
  · rw [state]
    exact mirrored_empty _ _ rfl

/-- Building a context brings the built-ins in. -/
theorem start_mirrored (keeps : S.Keeps P) (steady : S.Steady P table)
    (separate : S.Separate P table T own builtins)
    (dependable : settings.Dependable S P builtins) :
    Ensures (fun past c => c.Mirrored S P own builtins past ∧ c.builtinsRegistered = false)
      (start S settings)
      fun answer past c => c.Mirrored S P own builtins past ∧ answer = .ok () := by
  refine ensures_bind (activateBuiltins_mirrored keeps separate dependable) fun answer => ?_
  cases answer with
  | error e =>
    rintro past c ⟨_, impossible⟩
    cases impossible
  | ok _ =>
    rintro past c ⟨mirrored, _⟩
    exact ⟨Inside.mirrored keeps steady separate (.step (.loading (.noted _))) mirrored, rfl⟩

theorem mirrored_fresh {system : σ} (start : P [] system) :
    (fresh system).Mirrored S P own builtins [] :=
  ⟨Host.anchored_fresh start, mirrored_empty _ _ rfl⟩

end Context

namespace Run

variable {system : σ} {calls : List (Call σ)} {call : Call σ}

/-- Every call leaves the registry exact. -/
theorem mirroring_perform (keeps : S.Keeps P) (steady : S.Steady P table)
    (separate : S.Separate P table T own builtins) (dependable : settings.Dependable S P builtins)
    (plain : call.Plain)
    (lasts : ∀ change, call = .elsewhere change → ∀ past s, P past s → P past (change s)) :
    Context.Mirroring S P own builtins (Call.perform S settings call) := by
  have discarded : ∀ {α : Type} {a : Action (Context σ) α}, Context.Mirroring S P own builtins a →
      Context.Mirroring S P own builtins (Call.discard a) :=
    fun mirroring => ensures_bind mirroring fun _ => ensures_pure fun _ _ mirrored => mirrored
  have hosted : ∀ {α : Type} {a : Action (Host σ) α}, Host.Moving S a →
      Context.Mirroring S P own builtins (Call.discard (Context.onHost a)) :=
    fun moving => discarded (Context.mirroring_host keeps steady separate moving)
  cases call with
  | init => exact discarded (Context.mirroring_init keeps steady separate dependable)
  | deinit => exact Context.mirroring_deinit keeps
  | load path => exact hosted (Host.loads_load path).moving
  | unload d => exact hosted (Host.unload_moving d)
  | loadDirectory directory buffer =>
    exact hosted (Host.loads_loadDirectory directory buffer).moving
  | unloadAll => exact hosted Host.unloadAll_moving
  | withRegistry calls => exact plain.elim
  | elsewhere change =>
    intro past c mirrored
    have anchored := mirrored.anchored.altered (lasts change rfl)
    have idle := Host.effect_altered mirrored.anchored (lasts change rfl) steady
    have distinct := mirrored.anchored.tables_distinct steady separate
    rw [Call.perform, Call.alter, Action.run_modify, List.append_nil]
    exact ⟨anchored, idle.mirrored mirrored.mirrored distinct (mirrored.apart steady separate)⟩

theorem mirroring_performAll (keeps : S.Keeps P) (steady : S.Steady P table)
    (separate : S.Separate P table T own builtins) (dependable : settings.Dependable S P builtins)
    (plain : ∀ call ∈ calls, call.Plain)
    (lasts : ∀ change, Call.elsewhere change ∈ calls → ∀ past s, P past s → P past (change s)) :
    Context.Mirroring S P own builtins (Call.performAll S settings calls) := by
  induction calls with
  | nil => exact ensures_pure fun _ _ mirrored => mirrored
  | cons call rest ih =>
    refine ensures_bind (mirroring_perform keeps steady separate dependable (plain call (by simp))
      fun change same => lasts change (by simp [same])) fun _ => ?_
    exact ih (fun c member => plain c (by simp [member]))
      fun change member => lasts change (by simp [member])

/-- **The registry is exactly what is active.** When each module has a function table
of its own, apart from those of the built-ins, and the built-ins never fail to
register, the context is built, and after any calls a table is in the registry, once,
just when it is that of a built-in and the built-ins count as active, or that of a
loaded module. Settings without built-ins are among these. -/
theorem registry_exact (within : Within S system calls P) (steady : S.Steady P table)
    (separate : S.Separate P table T own builtins) (dependable : settings.Dependable S P builtins) :
    (Context.build S settings system).value = .ok () ∧
    (context S settings system calls).registry.plugins.Nodup ∧
    ∀ p, p ∈ (context S settings system calls).registry.plugins ↔
      ((context S settings system calls).builtinsRegistered = true ∧
        ∃ d ∈ builtins, own d = some p) ∨
      ∃ d ∈ (context S settings system calls).modules.descriptors,
        (S.memory (context S settings system calls).host.system).plugin? d = some p := by
  have keeps := within.loading
  obtain ⟨built, answer⟩ := Context.start_mirrored keeps steady separate dependable []
    (Context.fresh system) ⟨Context.mirrored_fresh within.start, rfl⟩
  have later := mirroring_performAll keeps steady separate dependable
    (Call.flatAll_plain calls) within.elsewhere
  rw [Call.performAll_flatAll] at later
  obtain ⟨_, single, active⟩ := later _ _ built
  refine ⟨answer, single, fun p => (active p).trans ?_⟩
  rw [Host.mem_tables]
  rfl

/-- One built-in, which is behind the descriptor at zero, and a search path of one
directory. -/
def builtinBeside : Settings := ⟨some ⟨fun _ => [some ⟨0⟩]⟩, .fixed [⟨[112]⟩], ⟨[112]⟩⟩

/-- The first client leaves, which takes everything away, and another one comes. -/
def leaveAndReturn : List (Call Catalog) :=
  [.load ⟨[97]⟩, .init, .deinit, .init, .load ⟨[98]⟩]

/-- What is active after all of them. -/
def activeAtLast (settings : Settings) : List Plugin :=
  (context Catalog.surroundings settings
    (.ofModules (.ofEncoders id) [.working 97 1 2, .working 98 2 3])
    leaveAndReturn).registry.plugins

/-- The built-in is back, and of the modules the one that was loaded since is there. Without the
built-in there is nothing beside it. -/
theorem registry_exact_after_return :
    (activeAtLast builtinBeside).Nodup ∧ .encoder ⟨0⟩ ∈ activeAtLast builtinBeside ∧
      .encoder ⟨3⟩ ∈ activeAtLast builtinBeside ∧ .encoder ⟨2⟩ ∉ activeAtLast builtinBeside ∧
      ∀ p, p ∈ activeAtLast .standard ↔ p = .encoder ⟨3⟩ := by
  let suits : ModuleId → Descriptor → Prop := fun i d => d = ⟨i.value + 1⟩
  have within : Within Catalog.surroundings
      (.ofModules (.ofEncoders id) [.working 97 1 2, .working 98 2 3]) leaveAndReturn
      (Catalog.Faithful (.ofEncoders id) suits) :=
    Catalog.within_faithful (by simp [suits, DeclaredModule.working])
      (by simp [Alters, leaveAndReturn, Call.flatAll, Call.flat])
  have separate : Catalog.surroundings.Separate (Catalog.Faithful (.ofEncoders id) suits)
      (fun _ => (Memory.ofEncoders id).plugin?) (fun i => .encoder ⟨i.value + 1⟩)
      (Memory.ofEncoders id).plugin? [⟨0⟩] := by
    refine ⟨?_, ?_, ?_, ?_⟩
    · rintro ⟨i⟩ ⟨j⟩ same
      simpa using same
    · intro past c faithful earlier h d p since leads
      have suited : d = ⟨h.id.value + 1⟩ := faithful.answered h d since.answered
      subst suited
      exact (Option.some.inj leads).symm
    · intro past c faithful d _
      rw [← faithful.memory]
      rfl
    · intro d builtin i
      rw [List.mem_singleton.mp builtin]
      intro leads
      cases leads
  have dependable : builtinBeside.Dependable Catalog.surroundings
      (Catalog.Faithful (.ofEncoders id) suits) [⟨0⟩] := by
    refine ⟨fun _ => rfl, fun past c faithful => ?_⟩
    have fit : ∀ d ∈ [⟨0⟩], (Catalog.surroundings.memory c.host.system).Accepts d := by
      intro d _
      have same : Catalog.surroundings.memory c.host.system = .ofEncoders id := faithful.memory
      rw [same]
      exact ⟨_, rfl, rfl⟩
    exact Context.registerEach_succeeds fit
  obtain ⟨_, single, active⟩ :=
    registry_exact within (Catalog.steady_faithful _ _) separate dependable
  have bare : Catalog.surroundings.Separate (Catalog.Faithful (.ofEncoders id) suits)
      (fun _ => (Memory.ofEncoders id).plugin?) (fun i => .encoder ⟨i.value + 1⟩)
      (Memory.ofEncoders id).plugin? [] :=
    ⟨separate.injective, separate.assigned, by simp, by simp⟩
  let last := context Catalog.surroundings .standard
    (.ofModules (.ofEncoders id) [.working 97 1 2, .working 98 2 3]) leaveAndReturn
  have there : last.modules.descriptors = [⟨3⟩] := by decide +kernel
  have table : (Catalog.surroundings.memory last.host.system).plugin? ⟨3⟩ =
      some (.encoder ⟨3⟩) := by decide +kernel
  have alone : ∀ p, p ∈ last.registry.plugins ↔ _ :=
    (registry_exact within (Catalog.steady_faithful _ _) bare
      (Settings.dependable_bare rfl)).2.2
  refine ⟨single, (active _).mpr (.inl ⟨rfl, ⟨0⟩, by simp, rfl⟩),
    (active _).mpr (.inr ⟨⟨3⟩, .head _, rfl⟩), fun inside => ?_, fun p => (alone p).trans ?_⟩
  · rcases (active _).mp inside with ⟨_, d, builtin, leads⟩ | ⟨d, loaded, leads⟩
    · rw [List.mem_singleton.mp builtin] at leads
      cases leads
    · have only : d = ⟨3⟩ := List.mem_singleton.mp loaded
      rw [only] at leads
      cases leads
  · constructor
    · rintro (⟨_, d, builtin, _⟩ | ⟨d, loaded, leads⟩)
      · cases builtin
      · rw [there] at loaded
        rw [List.mem_singleton.mp loaded, table] at leads
        exact (Option.some.inj leads).symm
    · rintro rfl
      exact .inr ⟨⟨3⟩, by rw [there]; exact .head _, table⟩

end Run
end CodecHost
