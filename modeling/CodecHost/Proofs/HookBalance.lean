import CodecHost.Proofs.RegistryRuns
import CodecHost.Proofs.TablesInPlace

/-! Every plugin that was initialized is ended, once. A function table with both hooks
can be registered by the built-ins and by several modules, and it can leave the
registry with one of them, with all of them or at the end. In whatever order that
happens its hooks take turns, and the last of them tells whether it is active. -/
namespace CodecHost

variable {σ : Type} {S : Surroundings σ} {settings : Settings} {elsewhere : (σ → σ) → Prop}
  {P : List Event → σ → Prop} {table : List Event → Descriptor → Option Plugin}
  {past events : List Event} {p : Plugin}

/-- The function table has an init hook and an end hook. -/
def Memory.HasHooks (m : Memory) (p : Plugin) : Prop := m.hasInit p = true ∧ m.hasEnd p = true

/-- The function table is one with both hooks. -/
inductive Settings.Hooked (settings : Settings) (S : Surroundings σ)
    (P : List Event → σ → Prop) (table : List Event → Descriptor → Option Plugin) (p : Plugin) :
    Prop where
  /-- It has them at all times. -/
  | always (both : ∀ past s, P past s → (S.memory s).HasHooks p)
  /-- It has them while it is in place, and what a descriptor leads to stays the same
  while its module is open. What memory says of a module that is gone does not matter. -/
  | inPlace (steady : S.Steady P table)
      (both : ∀ past s, P past s → settings.InPlace S P table past p → (S.memory s).HasHooks p)

/-- No table is active twice, and the hooks of this one are there when they are asked
for: the init hook when it is about to be registered, and the end hook as long as it is
active or the module of a record leads to it. -/
structure Context.Ready (S : Surroundings σ) (settings : Settings) (p : Plugin)
    (past : List Event) (c : Context σ) : Prop where
  single : c.host.registry.plugins.Nodup
  active : p ∈ c.host.registry.plugins → (S.memory c.host.system).hasEnd p = true
  loaded : ∀ record ∈ c.host.modules.records,
    (S.memory c.host.system).plugin? record.descriptor = some p →
      (S.memory c.host.system).hasEnd p = true
  opened : ∀ {path handle system d resolved},
    S.openModule path c.host.system = (.ok handle, system) →
      S.resolve handle system = (.ok d, resolved) →
        (S.memory resolved).plugin? d = some p → (S.memory resolved).hasInit p = true
  brought : ∀ {b n d}, settings.builtins = some b → .builtins n ∈ past →
    b.Brings (S.memory c.host.system).Accepts n d →
      (S.memory c.host.system).plugin? d = some p → (S.memory c.host.system).hasInit p = true

namespace Context

variable {c last : Context σ}

/-- Loading keeps the hooks in turn. -/
theorem Ready.loading {host : Host σ} (ready : c.Ready S settings p past)
    (loading : Host.Loading S c.host events host)
    (toggled : Toggled p past (p ∈ c.host.registry.plugins)) :
    Toggled p (past ++ events) (p ∈ host.registry.plugins) := by
  cases loading with
  | noted | unopened | attached | refused => exact toggled.others (by simp [Event.hook?])
  | @entered _ handle d _ _ _ _ opening _ resolving registering =>
    have opened : Toggled p (Host.answered past handle d) (p ∈ c.host.registry.plugins) := by
      rw [Host.answered, List.append_assoc]
      exact toggled.others (by simp [Event.hook?])
    rw [List.append_cons, List.append_cons]
    exact registering.toggled (fun leads => ready.opened opening resolving leads) opened

/-- Unloading keeps the hooks in turn: they run before anything is closed. -/
theorem Ready.unregistering {record : Record} {was : Bool} {next : Registry}
    {hooks later : List Event} (ready : c.Ready S settings p past)
    (there : record ∈ c.host.modules.records)
    (unregistering : Registry.Unregistering (S.memory c.host.system) record.descriptor
      c.host.registry ⟨was, next, hooks⟩) (silent : ∀ e ∈ later, e.hook? ≠ some p)
    (toggled : Toggled p past (p ∈ c.host.registry.plugins)) :
    Toggled p (past ++ (hooks ++ later)) (p ∈ next.plugins) := by
  have ended := unregistering.toggled ready.single (ready.loaded record there) toggled
  rw [← List.append_assoc]
  exact ended.others silent

/-- Every move keeps the hooks in turn. -/
theorem Move.toggled (ready : c.Ready S settings p past)
    (move : Move S settings elsewhere past c events last)
    (toggled : Toggled p past (p ∈ c.host.registry.plugins)) :
    Toggled p (past ++ events) (p ∈ last.host.registry.plugins) := by
  cases move with
  | growing growing =>
    cases growing with
    | hosted loading => exact ready.loading loading toggled
    | counted | activated => simpa using toggled
    | asked => exact toggled.others (by simp [Event.hook?])
    | brought routine asked brings registering =>
      exact registering.toggled (fun leads => ready.brought routine asked brings leads) toggled
  | hosted move =>
    cases move with
    | loading loading => exact ready.loading loading toggled
    | unloading unloading =>
      cases unloading with
      | released => exact toggled.others (by simp [Event.hook?])
      | removed found exports _ _ unregistering =>
        subst exports
        rw [List.append_assoc]
        exact ready.unregistering (by simp [found]) unregistering (by simp [Event.hook?]) toggled
    | forced found unregistering =>
      exact ready.unregistering (by simp [found]) unregistering (by simp [Event.hook?]) toggled
  | cleared => exact (Registry.toggled_cleared ready.single ready.active toggled).congr (by simp)
  | altered => simpa using toggled

/-- No move makes a table active twice. -/
theorem Move.single (move : Move S settings elsewhere past c events last)
    (single : c.host.registry.plugins.Nodup) : last.host.registry.plugins.Nodup := by
  have loaded : ∀ {events : List Event} {host : Host σ}, Host.Loading S c.host events host →
      host.registry.plugins.Nodup := by
    intro events host loading
    cases loading with
    | noted | unopened | attached | refused => exact single
    | entered _ _ _ registering => exact registering.single single
  cases move with
  | growing growing =>
    cases growing with
    | hosted loading => exact loaded loading
    | counted | activated | asked => exact single
    | brought _ _ _ registering => exact registering.single single
  | hosted move =>
    cases move with
    | loading loading => exact loaded loading
    | unloading unloading =>
      cases unloading with
      | released => exact single
      | removed _ _ _ _ unregistering => exact unregistering.single single
    | forced _ unregistering => exact unregistering.single single
  | cleared => exact List.nodup_nil
  | altered => exact single

/-- A table that has its hooks at all times has them when they are asked for. -/
theorem ready_of_always (keeps : S.Keeps P)
    (both : ∀ past s, P past s → (S.memory s).HasHooks p)
    (anchored : c.host.Anchored P past) (single : c.host.registry.plugins.Nodup) :
    c.Ready S settings p past where
  single := single
  active _ := (both past _ anchored.holds).2
  loaded _ _ _ := (both past _ anchored.holds).2
  opened opening resolving _ := (both _ _ (anchored.answered_holds keeps opening resolving)).1
  brought _ _ _ _ := (both past _ anchored.holds).1

/-- So does a table that has them while it is in place. -/
theorem ready_of_inPlace (keeps : S.Keeps P) (steady : S.Steady P table)
    (both : ∀ past s, P past s → settings.InPlace S P table past p → (S.memory s).HasHooks p)
    (guarded : c.host.Guarded settings S P table past) : c.Ready S settings p past where
  single := guarded.single
  active there := (both past _ guarded.holds (guarded.in_place steady there)).2
  loaded record there leads := by
    have mapped : Mapped table (past ++ []) p :=
      guarded.toAnchored.mapped steady there leads (by simp)
    rw [List.append_nil] at mapped
    exact (both past _ guarded.holds (.inr mapped)).2
  opened opening resolving leads := by
    have holds := guarded.toAnchored.answered_holds keeps opening resolving
    have mapped := guarded.toAnchored.answer_in_place keeps steady opening resolving leads
    exact (both _ _ holds (.inr mapped)).1
  brought routine asked brings leads := by
    have brought : settings.Brought S P past p :=
      ⟨_, _, _, past, c.host.system, routine, List.prefix_rfl, asked, guarded.holds, brings, leads⟩
    exact (both past _ guarded.holds (.inl brought)).1

end Context

namespace Run

variable {system : σ} {calls : List (Call σ)}

/-- The hooks of a function table took turns by the end of a trail. -/
theorem toggled_trail {c : Context σ} (within : Within S system calls P)
    (hooked : settings.Hooked S P table p)
    (trail : Trail (Context.Move S settings (Alters calls)) [] (Context.fresh system) events c) :
    Toggled p events (p ∈ c.host.registry.plugins) := by
  have keeps := within.loading
  have start : Toggled p [] (p ∈ (Context.fresh system).host.registry.plugins) :=
    Toggled.nil.congr (by simp [Context.fresh, Host.fresh])
  cases hooked with
  | always both =>
    have kept := trail.preserve
      (I := fun past c => (c.host.Anchored P past ∧ c.host.registry.plugins.Nodup) ∧
        Toggled p past (p ∈ c.host.registry.plugins))
      (fun move kept => by
        obtain ⟨⟨anchored, single⟩, toggled⟩ := kept
        exact ⟨⟨move.anchored keeps within.elsewhere anchored, move.single single⟩,
          move.toggled (Context.ready_of_always keeps both anchored single) toggled⟩)
      ⟨⟨Host.anchored_fresh within.start, List.nodup_nil⟩, start⟩
    simpa using kept.2
  | inPlace steady both =>
    have kept := trail.preserve
      (I := fun past c => c.host.Guarded settings S P table past ∧
        Toggled p past (p ∈ c.host.registry.plugins))
      (fun move kept => by
        obtain ⟨guarded, toggled⟩ := kept
        exact ⟨move.guarded keeps steady within.elsewhere guarded,
          move.toggled (Context.ready_of_inPlace keeps steady both guarded) toggled⟩)
      ⟨Host.guarded_fresh within.start, start⟩
    simpa using kept.2

/-- **Hooks alternate and balance.** Whatever is called, the hooks of a function table
that has both ran by turns from the build of the context to its drop, the init hook
first and the end hook as often. After each call the init hook was the last just when
the table is active. The same is true of a registry that stands alone. -/
theorem hooks_take_turns (within : Within S system calls P)
    (hooked : settings.Hooked S P table p) :
    TakeTurns (.initHook p) (.endHook p) (hooksOf p (trace S settings system calls)) ∧
    (∀ done, done <+: Call.flatAll calls →
      ((hooksOf p (Run.past S settings system done)).getLast? = some (.initHook p) ↔
        p ∈ (context S settings system done).registry.plugins)) ∧
    inits p (trace S settings system calls) = ends p (trace S settings system calls) ∧
    ∀ (m : Memory) (operations : List Registry.Operation),
      m.HasHooks p →
        TakeTurns (.initHook p) (.endHook p)
          (hooksOf p ((Registry.performAll m operations).run .empty).events) ∧
        ((hooksOf p ((Registry.performAll m operations).run .empty).events).getLast? =
            some (.initHook p) ↔
          p ∈ ((Registry.performAll m operations).run .empty).state.plugins) := by
  have whole := toggled_trail within hooked (trace_moves S settings system calls)
  have idle : p ∉ (ended S settings system calls).host.registry.plugins := by
    have gone : (ended S settings system calls).host.registry = .empty := Context.drop_registry _
    simp [gone]
  refine ⟨whole.turns, ?_, whole.counts.2 idle, ?_⟩
  · rintro done ⟨rest, split⟩
    have all := within.flatAll
    rw [← split] at all
    have until_then : Within S system done P := all.start_of
    exact (toggled_trail until_then hooked (moves S settings system done)).last_iff
  · rintro m operations ⟨starts, stops⟩
    have alone := Registry.inTurn_performAll operations starts stops [] .empty Registry.inTurn_empty
    rw [List.nil_append] at alone
    exact ⟨alone.toggled.turns, alone.toggled.last_iff⟩

/-- A built-in and a module that lead to one function table. -/
def sharedWithBuiltin : Settings := ⟨some ⟨fun _ => [some ⟨0⟩]⟩, .fixed [], ⟨[112]⟩⟩

/-- The module comes and goes, which takes the table from the built-in, and comes again. -/
def comeAndGo : List (Call Catalog) := [.load ⟨[97]⟩, .unload ⟨1⟩, .load ⟨[97]⟩]

/-- Everything that happens. -/
def sharedTrace : List Event :=
  trace Catalog.surroundings sharedWithBuiltin
    (.ofModules (.ofEncoders (· / 2)) [.working 97 1 1]) comeAndGo

/-- The table is initialized and ended twice, the second time at the drop. -/
theorem shared_table_balanced :
    inits (.encoder ⟨0⟩) sharedTrace = 2 ∧
      inits (.encoder ⟨0⟩) sharedTrace = ends (.encoder ⟨0⟩) sharedTrace := by
  have within : Within Catalog.surroundings
      (.ofModules (.ofEncoders (· / 2)) [.working 97 1 1]) comeAndGo
      (Catalog.Faithful (.ofEncoders (· / 2)) fun _ _ => True) :=
    Catalog.within_faithful (by simp) (by simp [Alters, comeAndGo, Call.flatAll, Call.flat])
  have hooked : sharedWithBuiltin.Hooked Catalog.surroundings
      (Catalog.Faithful (.ofEncoders (· / 2)) fun _ _ => True)
      (fun _ => (Memory.ofEncoders (· / 2)).plugin?) (.encoder ⟨0⟩) := by
    refine .inPlace (Catalog.steady_faithful _ _) fun past c faithful _ => ?_
    have same : Catalog.surroundings.memory c = .ofEncoders (· / 2) := faithful.memory
    rw [same]
    exact ⟨rfl, rfl⟩
  exact ⟨rfl, (hooks_take_turns within hooked).2.2.1⟩

end Run
end CodecHost
