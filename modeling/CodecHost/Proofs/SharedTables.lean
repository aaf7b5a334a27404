import CodecHost.Proofs.HookSafety
import Mathlib.Data.List.Induction

/-! Modules may share a function table. It is registered once, and the last reference
on any of them unregisters it, whether or not another module still leads to it. That
is the only way in which unloading a module touches another plugin. -/
namespace CodecHost

variable {σ : Type} {S : Surroundings σ} {settings : Settings} {P : List Event → σ → Prop}
  {table : List Event → Descriptor → Option Plugin} {past events : List Event}
  {d e : Descriptor} {p : Plugin}

namespace Host

variable {host last : Host σ}

/-- The function table behind the descriptor is active. -/
def Registers (S : Surroundings σ) (host : Host σ) (d : Descriptor) : Prop :=
  host.registry.isRegistered (S.memory host.system) d = true

instance (host : Host σ) (d : Descriptor) : Decidable (host.Registers S d) :=
  inferInstanceAs (Decidable (_ = true))

/-- The descriptors lead to one function table. -/
def Share (S : Surroundings σ) (host : Host σ) (d e : Descriptor) : Prop :=
  (S.memory host.system).plugin? d = (S.memory host.system).plugin? e

theorem registers_iff : host.Registers S d ↔
    ∃ p, (S.memory host.system).plugin? d = some p ∧ p ∈ host.registry.plugins :=
  Registry.isRegistered_iff

/-! One unloading. -/

/-- The last reference takes the descriptor's own function table out of the registry,
and every other reference leaves the registry alone. -/
theorem Unloading.registry (unloading : Unloading S d host events last) :
    (host.modules.openCount? d = some 1 ∧ last.registry.plugins =
      ((S.memory host.system).plugin? d).elim host.registry.plugins host.registry.plugins.erase) ∨
    (host.modules.openCount? d ≠ some 1 ∧ last.registry = host.registry) := by
  cases unloading with
  | @released record _ _ kept _ found exports first handles others =>
    right
    rw [ModuleTable.openCount?, ModuleTable.find?_split found exports first]
    simp [Record.openCount, handles, others]
  | removed found exports first handles unregistering =>
    left
    rw [ModuleTable.openCount?, ModuleTable.find?_split found exports first]
    exact ⟨by simp [Record.openCount, handles], unregistering.plugins⟩

/-- Unloading a module leaves every other function table active. -/
theorem Unloading.others (unloading : Unloading S d host events last)
    (active : p ∈ host.registry.plugins) (other : (S.memory host.system).plugin? d ≠ some p) :
    p ∈ last.registry.plugins := by
  rcases unloading.registry with ⟨_, left⟩ | ⟨_, same⟩
  · rw [left]
    cases leads : (S.memory host.system).plugin? d with
    | none => exact active
    | some q =>
      have differ : p ≠ q := fun same => other (by rw [leads, same])
      exact (List.mem_erase_of_ne differ).mpr active
  · rwa [same]

/-- A descriptor that is still loaded loses its registration with the last reference
on a module that leads to its function table, and in no other way. -/
theorem Unloading.registers (keeps : S.Keeps P) (steady : S.Steady P table)
    (unloading : Unloading S d host events last) (anchored : host.Anchored P past)
    (single : host.registry.plugins.Nodup) (loaded : e ∈ last.modules.descriptors)
    (registered : host.Registers S e) :
    last.Registers S e ↔ ¬ (host.Share S d e ∧ host.modules.openCount? d = some 1) := by
  have move : Move S host events last := .unloading unloading
  obtain ⟨new, member, rfl⟩ := List.mem_map.mp loaded
  obtain ⟨old, there, continues⟩ := unloading.records member
  have reading := anchored.reading (move.anchored keeps anchored) move.opensFirst steady there
    continues member
  obtain ⟨p, leads, active⟩ := registers_iff.mp registered
  have stays : last.Registers S new.descriptor ↔ p ∈ last.registry.plugins := by
    simp [registers_iff, reading, leads]
  rw [stays, Share, leads]
  rcases unloading.registry with ⟨alone, left⟩ | ⟨others, same⟩
  · constructor
    · rintro inside ⟨shared, _⟩
      rw [left, shared, Option.elim_some, single.mem_erase_iff] at inside
      exact inside.1 rfl
    · exact fun apart => unloading.others active fun shared => apart ⟨shared, alone⟩
  · rw [same]
    exact iff_of_true active fun both => others both.2

/-! What loads is registered, and loading takes no registration away. -/

/-- If the descriptor is loaded, it is registered. -/
def Active (S : Surroundings σ) (e : Descriptor) (host : Host σ) : Prop :=
  e ∈ host.modules.descriptors → host.Registers S e

theorem Loading.active (steady : S.Steady P table) (loading : Loading S host events last)
    (anchored : host.Anchored P past) (later : last.Anchored P (past ++ events))
    (active : host.Active S e) : last.Active S e := by
  intro loaded
  obtain ⟨new, member, rfl⟩ := List.mem_map.mp loaded
  have old_stays : ∀ old ∈ host.modules.records, old.Continues new →
      (∀ p ∈ host.registry.plugins, p ∈ last.registry.plugins) →
      last.Registers S new.descriptor := by
    intro old there continues grows
    have reading := anchored.reading later loading.opensFirst steady there continues member
    have listed : new.descriptor ∈ host.modules.descriptors :=
      List.mem_map.mpr ⟨old, there, continues.descriptor.symm⟩
    obtain ⟨p, leads, there⟩ := registers_iff.mp (active listed)
    exact registers_iff.mpr ⟨p, reading.trans leads, grows p there⟩
  cases loading with
  | noted | unopened | refused => exact old_stays new member (.refl new) fun _ there => there
  | attached opening tracked =>
    rcases (Loading.attached opening tracked).records anchored.kept member with
      ⟨old, there, continues⟩ | ⟨h, hooks, _, impossible, _⟩
    · exact old_stays old there continues fun _ there => there
    · cases impossible
  | entered _ _ _ registering =>
    obtain ⟨_, p, leads, grown⟩ := registering.plugins
    rcases List.mem_append.mp member with there | entered
    · refine old_stays new there (.refl new) fun q there => ?_
      exact grown.mem_iff.mpr (List.mem_insert_of_mem there)
    · rw [List.mem_singleton.mp entered]
      exact registers_iff.mpr ⟨p, leads, grown.mem_iff.mpr List.mem_insert_self⟩

end Host

/-- A context that grows keeps registered what is loaded. -/
theorem Context.Growing.active {c last : Context σ} (steady : S.Steady P table)
    (growing : Context.Growing S settings past c events last)
    (anchored : c.host.Anchored P past) (later : last.host.Anchored P (past ++ events))
    (active : c.host.Active S e) : last.host.Active S e := by
  cases growing with
  | hosted loading => exact loading.active steady anchored later active
  | counted | asked | activated => exact active
  | brought _ _ _ registering =>
    obtain ⟨_, p, _, grown⟩ := registering.plugins
    intro loaded
    obtain ⟨q, leads, there⟩ := Host.registers_iff.mp (active loaded)
    exact Host.registers_iff.mpr ⟨q, leads, grown.mem_iff.mpr (List.mem_insert_of_mem there)⟩

theorem Context.Grows.active {α : Type} {a : Action (Context σ) α} {c : Context σ}
    (keeps : S.Keeps P) (steady : S.Steady P table) (grows : Context.Grows S settings a)
    (anchored : c.host.Anchored P past) (active : c.host.Active S e) :
    (a.run c).state.host.Active S e := by
  suffices kept : (a.run c).state.host.Anchored P (past ++ (a.run c).events) ∧
      (a.run c).state.host.Active S e from kept.2
  refine (grows past c).preserve ?_ ⟨anchored, active⟩
    (I := fun past c => c.host.Anchored P past ∧ c.host.Active S e)
  rintro past c events last growing ⟨anchored, active⟩
  have move : Context.Move S settings (fun _ => False) past c events last := .growing growing
  have later := move.anchored keeps nofun anchored
  exact ⟨later, growing.active steady anchored later active⟩

namespace Run

variable {system : σ} {calls : List (Call σ)}

/-- No call but an unloading takes a registration away from what stays loaded. -/
theorem perform_active {call : Call σ} {c : Context σ} (keeps : S.Keeps P)
    (steady : S.Steady P table) (plain : call.Plain)
    (lasts : ∀ change, call = .elsewhere change → ∀ past s, P past s → P past (change s))
    (other : ∀ d, call ≠ .unload d) (anchored : c.host.Anchored P past)
    (active : c.host.Active S e) :
    ((Call.perform S settings call).run c).state.host.Active S e := by
  cases call with
  | init | load | loadDirectory =>
    refine Context.Grows.active keeps steady (perform_grows ?_) anchored active
    trivial
  | deinit =>
    rcases Context.deinit_state (S := S) c with ⟨count, state⟩ | ⟨system, state⟩
    · simpa only [Call.perform, state] using active
    · intro loaded
      rw [Call.perform, state] at loaded
      cases loaded
  | unload d => exact absurd rfl (other d)
  | unloadAll =>
    intro loaded
    have empty : ((Call.perform S settings .unloadAll).run c).state.host.modules = .empty :=
      Host.unloadAll_modules c.host
    rw [empty] at loaded
    cases loaded
  | withRegistry calls => exact plain.elim
  | elsewhere change =>
    intro loaded
    obtain ⟨record, member, rfl⟩ := List.mem_map.mp loaded
    obtain ⟨p, leads, there⟩ := Host.registers_iff.mp (active loaded)
    have reading := anchored.reading_altered (lasts change rfl) steady member
    exact Host.registers_iff.mpr ⟨p, reading.trans leads, there⟩

/-- Unloading `d` took the registration of `e` away, which stays loaded: the two lead
to one function table, and the last reference was given back on the module that `d`
was found to belong to. -/
structure LostBy (S : Surroundings σ) (settings : Settings) (system : σ) (done : List (Call σ))
    (d e : Descriptor) : Prop where
  loaded : e ∈ (context S settings system done).modules.descriptors
  registered : (context S settings system done).host.Registers S e
  stays : e ∈ (context S settings system (done ++ [.unload d])).modules.descriptors
  lost : ¬ (context S settings system (done ++ [.unload d])).host.Registers S e
  shared : (context S settings system done).host.Share S d e
  last : (context S settings system done).modules.openCount? d = some 1

/-- A loaded descriptor that unloading leaves loaded stays registered, unless the two
lead to one function table and the last reference is given back. -/
theorem registers_unload (within : Within S system calls P) (steady : S.Steady P table)
    (loaded : e ∈ (context S settings system (calls ++ [.unload d])).modules.descriptors)
    (registered : (context S settings system calls).host.Registers S e) :
    (context S settings system (calls ++ [.unload d])).host.Registers S e ↔
      ¬ ((context S settings system calls).host.Share S d e ∧
        (context S settings system calls).modules.openCount? d = some 1) := by
  have guarded := guarded settings within steady
  unfold Context.modules at loaded ⊢
  rw [context_unload] at loaded ⊢
  rcases Host.unload_outcome d (context S settings system calls).host with
    ⟨idle, missing⟩ | ⟨_, unloading⟩
  · rw [idle] at loaded ⊢
    refine iff_of_true registered ?_
    rintro ⟨_, alone⟩
    obtain ⟨record, found, count⟩ := Option.map_eq_some_iff.mp alone
    rw [Record.openCount, missing record found] at count
    cases count
  · exact unloading.registers within.loading steady guarded.toAnchored guarded.single loaded
      registered

/-- Unloading leaves every function table active but the descriptor's own. -/
theorem active_unload (active : p ∈ (context S settings system calls).registry.plugins)
    (other : (S.memory (context S settings system calls).host.system).plugin? d ≠ some p) :
    p ∈ (context S settings system (calls ++ [.unload d])).registry.plugins := by
  unfold Context.registry at active ⊢
  rw [context_unload]
  rcases Host.unload_outcome d (context S settings system calls).host with
    ⟨idle, _⟩ | ⟨_, unloading⟩
  · rwa [idle]
  · exact unloading.others active other

/-- Unloading brings nothing in. -/
theorem loaded_unload
    (loaded : e ∈ (context S settings system (calls ++ [.unload d])).modules.descriptors) :
    e ∈ (context S settings system calls).modules.descriptors := by
  unfold Context.modules at loaded ⊢
  rw [context_unload] at loaded
  rcases Host.unload_outcome d (context S settings system calls).host with
    ⟨idle, _⟩ | ⟨_, unloading⟩
  · rwa [idle] at loaded
  · obtain ⟨new, member, rfl⟩ := List.mem_map.mp loaded
    obtain ⟨old, there, continues⟩ := unloading.records member
    exact List.mem_map.mpr ⟨old, there, continues.descriptor.symm⟩

/-- What is loaded by the time the context is built is registered, since it is nothing. -/
theorem active_start (within : Within S system [] P) (steady : S.Steady P table) :
    (context S settings system []).host.Active S e := by
  have fresh : (Context.fresh system).host.Active S e := by
    intro loaded
    cases loaded
  exact Context.grows_start.active (c := Context.fresh system) within.loading steady
    (Host.anchored_fresh within.start) fresh

/-- A loaded descriptor that is not registered lost its registration to an unloading.
The induction is on the calls made so far: in the last of them the registration was
lost already, or this is the call that took it. -/
theorem registration_lost (within : Within S system calls P) (steady : S.Steady P table)
    (plain : ∀ call ∈ calls, call.Plain)
    (loaded : e ∈ (context S settings system calls).modules.descriptors)
    (lost : ¬ (context S settings system calls).host.Registers S e) :
    ∃ done d later, calls = done ++ .unload d :: later ∧ LostBy S settings system done d e := by
  induction calls using List.reverseRecOn with
  | nil => exact absurd (active_start within steady loaded) lost
  | append_singleton calls call ih =>
    have earlier : Within S system calls P := within.start_of
    by_cases active : (context S settings system calls).host.Active S e
    · by_cases unloads : ∃ d, call = .unload d
      · obtain ⟨d, rfl⟩ := unloads
        have before := loaded_unload loaded
        have kept := registers_unload earlier steady loaded (active before)
        obtain ⟨shared, alone⟩ := Classical.not_not.mp fun other => lost (kept.mpr other)
        exact ⟨calls, d, [], rfl, before, active before, loaded, lost, shared, alone⟩
      · have anchored := (guarded settings earlier steady).toAnchored
        refine absurd ?_ lost
        rw [context_snoc] at loaded ⊢
        refine perform_active within.loading steady (plain call (by simp)) ?_
          (fun d same => unloads ⟨d, same⟩) anchored active loaded
        rintro change rfl
        refine within.elsewhere change ?_
        simp [Alters, Call.flatAll_append, Call.flatAll, Call.flat]
    · obtain ⟨before, gone⟩ := Classical.not_imp.mp active
      obtain ⟨done, d, later, rfl, blame⟩ :=
        ih earlier (fun c member => plain c (by simp [member])) before gone
      exact ⟨done, d, later ++ [call], by simp, blame⟩

/-- **Unloading takes away one function table at most, the descriptor's own.** A
loaded descriptor that stays loaded keeps its registration unless it leads to that
table and the last reference was given back, which then takes the table from every
other module. Every other table stays active, be it of a module or of the built-ins.
Whenever a loaded descriptor is not registered, an earlier unloading did this to it. -/
theorem unload_takes_own_table (settings : Settings) (within : Within S system calls P)
    (steady : S.Steady P table) (d : Descriptor) :
    (∀ e ∈ (context S settings system (calls ++ [.unload d])).modules.descriptors,
      (context S settings system calls).host.Registers S e →
        ((context S settings system (calls ++ [.unload d])).host.Registers S e ↔
          ¬ ((context S settings system calls).host.Share S d e ∧
            (context S settings system calls).modules.openCount? d = some 1))) ∧
    (∀ p ∈ (context S settings system calls).registry.plugins,
      (S.memory (context S settings system calls).host.system).plugin? d ≠ some p →
        p ∈ (context S settings system (calls ++ [.unload d])).registry.plugins) ∧
    ∀ e ∈ (context S settings system calls).modules.descriptors,
      ¬ (context S settings system calls).host.Registers S e →
        ∃ done d later, Call.flatAll calls = done ++ .unload d :: later ∧
          LostBy S settings system done d e := by
  refine ⟨fun e loaded registered => registers_unload within steady loaded registered,
    fun p active other => active_unload active other, fun e loaded lost => ?_⟩
  rw [← context_flatAll] at loaded lost
  exact registration_lost within.flatAll steady (Call.flatAll_plain calls) loaded lost

/-- Three modules of which the first two lead to one function table. -/
def sharing : Catalog :=
  .ofModules (.ofEncoders (· / 2)) [.working 97 1 0, .working 98 2 1, .working 99 3 2]

/-- They are loaded one after the other. -/
def loadThree : List (Call Catalog) := [.load ⟨[97]⟩, .load ⟨[98]⟩, .load ⟨[99]⟩]

/-- Unloading the first module leaves the second loaded, but not registered. -/
theorem unload_takes_shared_table :
    ⟨1⟩ ∈ (context Catalog.surroundings .standard sharing loadThree).modules.descriptors ∧
    (context Catalog.surroundings .standard sharing loadThree).host.Registers
      Catalog.surroundings ⟨1⟩ ∧
    ⟨1⟩ ∈ (context Catalog.surroundings .standard sharing
      (loadThree ++ [.unload ⟨0⟩])).modules.descriptors ∧
    ¬ (context Catalog.surroundings .standard sharing
      (loadThree ++ [.unload ⟨0⟩])).host.Registers Catalog.surroundings ⟨1⟩ := by
  decide

/-- The third stays registered, and what became of the second is put down to that call. -/
theorem unload_spares_other_table :
    (context Catalog.surroundings .standard sharing
      (loadThree ++ [.unload ⟨0⟩])).host.Registers Catalog.surroundings ⟨2⟩ ∧
    ∃ done d later, Call.flatAll (loadThree ++ [.unload ⟨0⟩]) = done ++ .unload d :: later ∧
      LostBy Catalog.surroundings .standard sharing done d ⟨1⟩ := by
  have within : Within Catalog.surroundings sharing (loadThree ++ [.unload ⟨0⟩])
      (Catalog.Faithful _ fun _ _ => True) :=
    Catalog.within_faithful (by simp) (by simp [Alters, loadThree, Call.flatAll, Call.flat])
  have steady := Catalog.steady_faithful (.ofEncoders (· / 2)) fun _ _ => True
  have stays := (unload_takes_own_table .standard within.start_of steady ⟨0⟩).1 ⟨2⟩ (by decide)
    (by decide)
  have blame := (unload_takes_own_table .standard within steady ⟨0⟩).2.2 ⟨1⟩ (by decide) (by decide)
  refine ⟨stays.mpr ?_, blame⟩
  rintro ⟨shared, _⟩
  cases shared

end Run
end CodecHost
