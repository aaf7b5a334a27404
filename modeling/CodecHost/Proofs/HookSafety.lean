import CodecHost.Proofs.ActiveTables
import CodecHost.Proofs.CatalogWorlds
import Mathlib.Data.List.Nodup

/-! No hook runs in a module that is gone. A function table is active because the
built-ins registered it or because the descriptor of a loaded module leads to it, and
the reference by which that descriptor was found is closed only after the table was
unregistered. -/
namespace CodecHost

open Ledger

variable {σ : Type} {S : Surroundings σ} {settings : Settings} {elsewhere : (σ → σ) → Prop}
  {P : List Event → σ → Prop} {table : List Event → Descriptor → Option Plugin}
  {past events before after : List Event} {p : Plugin} {e : Event}

/-- The built-ins were asked to register, and got as far as a descriptor that led to
the function table. -/
def Settings.Brought (settings : Settings) (S : Surroundings σ) (P : List Event → σ → Prop)
    (past : List Event) (p : Plugin) : Prop :=
  ∃ b n d earlier s, settings.builtins = some b ∧ earlier <+: past ∧ .builtins n ∈ earlier ∧
    P earlier s ∧ b.Brings (S.memory s).Accepts n d ∧ (S.memory s).plugin? d = some p

theorem Settings.Brought.append (brought : settings.Brought S P past p) :
    settings.Brought S P (past ++ events) p := by
  obtain ⟨b, n, d, earlier, s, routine, start, rest⟩ := brought
  exact ⟨b, n, d, earlier, s, routine, start.trans (List.prefix_append _ _), rest⟩

/-- A reference is open that led to the function table when it was resolved. -/
def Mapped (table : List Event → Descriptor → Option Plugin) (past : List Event) (p : Plugin) :
    Prop :=
  ∃ earlier h d, table earlier d = some p ∧ OpenSince earlier past h d

/-- The hook that an event runs is that of a built-in, or it is in a loaded module. -/
def HookInPlace (settings : Settings) (S : Surroundings σ) (P : List Event → σ → Prop)
    (table : List Event → Descriptor → Option Plugin) (before : List Event) (e : Event) : Prop :=
  ∀ p, e.hook? = some p → settings.Brought S P before p ∨ Mapped table before p

theorem throughout_hookless (earlier : Throughout (HookInPlace settings S P table) past)
    (hookless : ∀ e ∈ events, e.hook? = none) :
    Throughout (HookInPlace settings S P table) (past ++ events) := by
  refine throughout_append earlier fun before e after split p hook => ?_
  rw [hookless e (by simp [split])] at hook
  cases hook

/-- Hooks are in place when their tables are, since hooks close nothing. -/
theorem throughout_hooks (earlier : Throughout (HookInPlace settings S P table) past)
    (internal : ∀ e ∈ events, e.Internal)
    (known : ∀ e ∈ events, ∀ p, e.hook? = some p → ∀ part : List Event, (∀ e ∈ part, e.Internal) →
      settings.Brought S P (past ++ part) p ∨ Mapped table (past ++ part) p) :
    Throughout (HookInPlace settings S P table) (past ++ events) := by
  refine throughout_append earlier fun before e after split p hook => ?_
  exact known e (by simp [split]) p hook before fun f member => internal f (by simp [split, member])

namespace Host

variable {host last : Host σ}

/-- What the descriptor of a loaded module leads to is mapped, also while hooks run. -/
theorem Anchored.mapped (anchored : host.Anchored P past) (steady : S.Steady P table)
    {record : Record} (member : record ∈ host.modules.records)
    (leads : (S.memory host.system).plugin? record.descriptor = some p)
    (internal : ∀ e ∈ events, e.Internal) : Mapped table (past ++ events) p := by
  obtain ⟨earlier, h, inside, since, reads⟩ := anchored.steady steady member
  refine ⟨earlier, h, record.descriptor, reads.symm.trans leads, ?_⟩
  exact since.append (anchored.books.quiet fun e inside => (internal e inside).quiet)
    (List.mem_flatMap.mpr ⟨record, member, inside⟩)
    (opensFirst_quiet fun e inside => (internal e inside).quiet)

/-- The invariant behind the safety of hooks. -/
structure Guarded (settings : Settings) (S : Surroundings σ) (P : List Event → σ → Prop)
    (table : List Event → Descriptor → Option Plugin) (past : List Event) (host : Host σ) : Prop
    extends Anchored P past host where
  single : host.registry.plugins.Nodup
  known : ∀ p ∈ host.registry.plugins, settings.Brought S P past p ∨ p ∈ host.tables S
  hooks : Throughout (HookInPlace settings S P table) past

/-- What is active stays accounted for. -/
theorem Effect.known {base : Plugin → Prop} (effect : Effect S host last)
    (single : host.registry.plugins.Nodup)
    (known : ∀ p ∈ host.registry.plugins, base p ∨ p ∈ host.tables S) :
    last.registry.plugins.Nodup ∧ ∀ p ∈ last.registry.plugins, base p ∨ p ∈ last.tables S := by
  cases effect with
  | idle active behind =>
    rw [active]
    refine ⟨single, fun p member => ?_⟩
    rw [behind.mem_iff]
    exact known p member
  | gained active behind =>
    refine ⟨active.nodup_iff.mpr (List.Nodup.insert single), fun q member => ?_⟩
    rw [behind.mem_iff, List.mem_cons]
    rcases List.mem_insert_iff.mp (active.mem_iff.mp member) with same | there
    · exact .inr (.inl same)
    · exact (known q there).imp_right .inr
  | lost active behind =>
    rw [active]
    refine ⟨single.erase _, fun q member => ?_⟩
    obtain ⟨other, there⟩ := single.mem_erase_iff.mp member
    refine (known q there).imp_right fun listed => ?_
    exact (List.mem_cons.mp (behind.mem_iff.mp listed)).resolve_left other

/-- Hooks run in place while the host loads. -/
theorem Loading.hooks (keeps : S.Keeps P) (steady : S.Steady P table)
    (loading : Loading S host events last) (anchored : host.Anchored P past)
    (earlier : Throughout (HookInPlace settings S P table) past) :
    Throughout (HookInPlace settings S P table) (past ++ events) := by
  cases loading with
  | noted | unopened | attached | refused =>
    exact throughout_hookless earlier (by simp [Event.hook?])
  | @entered _ handle d system resolved registry hooks opening new resolving registering =>
    have opened : Throughout (HookInPlace settings S P table)
        (past ++ [.opened handle] ++ [.resolved handle (.ok d)]) := by
      rw [List.append_assoc]
      exact throughout_hookless earlier (by simp [Event.hook?])
    have books : Balanced (past ++ [.opened handle] ++ [.resolved handle (.ok d)]) _ :=
      anchored.books.opened.quiet (by simp [Event.Quiet])
    have since := OpenSince.resolved books List.mem_cons_self
    rw [List.append_cons, List.append_cons]
    refine throughout_hooks opened registering.internal fun e member p hook part internal => .inr ?_
    refine ⟨_, handle, d, ?_, since.append (books.quiet fun e inside => (internal e inside).quiet)
      List.mem_cons_self (opensFirst_quiet fun e inside => (internal e inside).quiet)⟩
    rw [← registering.hook member hook]
    have holds := keeps.resolving (keeps.opening anchored.holds opening) (by simp) resolving
    exact (steady _ _ holds _ _ _ since).symm

/-- Hooks run in place while the host loads and unloads: a module is still there
when its plugin is unregistered. -/
theorem Move.hooks (keeps : S.Keeps P) (steady : S.Steady P table) (move : Move S host events last)
    (anchored : host.Anchored P past)
    (earlier : Throughout (HookInPlace settings S P table) past) :
    Throughout (HookInPlace settings S P table) (past ++ events) := by
  cases move with
  | loading loading => exact loading.hooks keeps steady anchored earlier
  | unloading unloading =>
    cases unloading with
    | released => exact throughout_hookless earlier (by simp [Event.hook?])
    | removed found exports _ _ unregistering =>
      subst exports
      rw [List.append_assoc, ← List.append_assoc]
      refine throughout_hookless ?_ (by simp [Event.hook?])
      refine throughout_hooks earlier unregistering.internal fun e member p hook part internal => ?_
      have leads := unregistering.hook member hook
      exact .inr (anchored.mapped steady (by simp [found]) leads internal)
  | forced found unregistering =>
    rw [← List.append_assoc]
    refine throughout_hookless ?_ (by simp [Event.hook?])
    refine throughout_hooks earlier unregistering.internal fun e member p hook part internal => ?_
    exact .inr (anchored.mapped steady (by simp [found]) (unregistering.hook member hook) internal)

theorem Move.guarded (keeps : S.Keeps P) (steady : S.Steady P table)
    (move : Move S host events last) (guarded : host.Guarded settings S P table past) :
    last.Guarded settings S P table (past ++ events) := by
  obtain ⟨single, known⟩ :=
    (move.effect keeps steady guarded.toAnchored).known guarded.single guarded.known
  refine ⟨move.anchored keeps guarded.toAnchored, single, fun p active => ?_,
    move.hooks keeps steady guarded.toAnchored guarded.hooks⟩
  exact (known p active).imp_left .append

/-- A host that loads stays guarded. -/
theorem Loads.guarded {α : Type} {a : Action (Host σ) α} (keeps : S.Keeps P)
    (steady : S.Steady P table) (loads : Loads S a) :
    Ensures (fun past host => host.Guarded settings S P table past) a
      fun _ past host => host.Guarded settings S P table past :=
  loads.moving.ensures fun move guarded => move.guarded keeps steady guarded

theorem guarded_fresh {system : σ} (start : P [] system) :
    (fresh system).Guarded settings S P table [] :=
  ⟨anchored_fresh start, List.nodup_nil, nofun, throughout_nil _⟩

end Host

/-- Every move of a context keeps the guard. -/
theorem Context.Move.guarded {c last : Context σ} (keeps : S.Keeps P) (steady : S.Steady P table)
    (lasts : ∀ change, elsewhere change → ∀ past s, P past s → P past (change s))
    (move : Context.Move S settings elsewhere past c events last)
    (guarded : c.host.Guarded settings S P table past) :
    last.host.Guarded settings S P table (past ++ events) := by
  have anchored := move.anchored keeps lasts guarded.toAnchored
  cases move with
  | growing growing =>
    cases growing with
    | hosted loading => exact (Host.Move.loading loading).guarded keeps steady guarded
    | counted | activated => simpa using guarded
    | asked =>
      exact ⟨anchored, guarded.single, fun p active => (guarded.known p active).imp_left .append,
        throughout_hookless guarded.hooks (by simp [Event.hook?])⟩
    | @brought b n d _ _ routine asked brings registering =>
      obtain ⟨_, p, leads, active⟩ := registering.plugins
      have brought : ∀ part, settings.Brought S P (past ++ part) p := fun part =>
        ⟨b, n, d, past, c.host.system, routine, List.prefix_append _ _, asked,
          guarded.holds, brings, leads⟩
      refine ⟨anchored, active.nodup_iff.mpr (List.Nodup.insert guarded.single), ?_, ?_⟩
      · intro q member
        rcases List.mem_insert_iff.mp (active.mem_iff.mp member) with rfl | there
        · exact .inl (brought _)
        · exact (guarded.known q there).imp_left .append
      · refine throughout_hooks guarded.hooks registering.internal fun e member q hook part _ => ?_
        cases leads.symm.trans (registering.hook member hook)
        exact .inl (brought part)
  | hosted move => exact move.guarded keeps steady guarded
  | cleared =>
    refine ⟨anchored, List.nodup_nil, fun _ there => absurd there List.not_mem_nil,
      throughout_hooks guarded.hooks ?_ ?_⟩
    · intro e member
      obtain ⟨p, _, rfl⟩ := Registry.mem_clearing member
      trivial
    · intro e member p hook part internal
      obtain ⟨q, active, rfl⟩ := Registry.mem_clearing member
      cases hook
      refine (guarded.known p active).imp .append fun listed => ?_
      obtain ⟨record, there, leads⟩ := List.mem_filterMap.mp listed
      exact guarded.mapped steady there leads internal
  | @altered change may =>
    have idle := Host.effect_altered guarded.toAnchored (lasts change may) steady
    obtain ⟨single, known⟩ := idle.known guarded.single guarded.known
    exact ⟨anchored, single, by simpa using known, by simpa using guarded.hooks⟩

namespace Run

variable {system : σ} {calls : List (Call σ)}

theorem guarded (settings : Settings) (within : Within S system calls P)
    (steady : S.Steady P table) :
    (context S settings system calls).host.Guarded settings S P table
      (Run.past S settings system calls) :=
  (moves S settings system calls).preserve
    (I := fun past c => c.host.Guarded settings S P table past)
    (fun move guarded => move.guarded within.loading steady within.elsewhere guarded)
    (Host.guarded_fresh within.start)

theorem trace_guarded (settings : Settings) (within : Within S system calls P)
    (steady : S.Steady P table) :
    (ended S settings system calls).host.Guarded settings S P table
      (trace S settings system calls) :=
  (trace_moves S settings system calls).preserve
    (I := fun past c => c.host.Guarded settings S P table past)
    (fun move guarded => move.guarded within.loading steady within.elsewhere guarded)
    (Host.guarded_fresh within.start)

/-- **No hook runs in a module that is gone.** Whatever is called, and whatever the
loader does, a hook that runs before the context is gone is that of a function table
that the built-ins brought, or there is a reference that led to its table, was open
ever since, and is closed only later. -/
theorem hooks_run_while_mapped (within : Within S system calls P) (steady : S.Steady P table)
    (split : trace S settings system calls = before ++ e :: after) (hook : e.hook? = some p) :
    settings.Brought S P before p ∨
      ∃ earlier h d, table earlier d = some p ∧ OpenSince earlier before h d ∧
        .closed h ∈ after := by
  refine ((trace_guarded settings within steady).hooks before e after split p hook).imp_right ?_
  rintro ⟨earlier, h, d, leads, since⟩
  refine ⟨earlier, h, d, leads, since, ?_⟩
  have books := (trace_balanced S settings system calls).balance (· = h)
  have start := since.is_open
  have neutral : closes (· = h) [e] = 0 := by
    cases e <;> first | rfl | cases hook
  rw [split, List.append_cons, closes_append, closes_append, neutral, opens_append, opens_append]
    at books
  have later : 0 < closes (· = h) after := by
    rw [List.countP_nil] at books
    omega
  obtain ⟨f, member, closing⟩ := List.countP_pos_iff.mp later
  cases f <;> simp_all [Event.closed?]

/-- A module is opened twice and given back twice. -/
def openedTwice : List Event :=
  trace Catalog.surroundings .standard (.ofModules (.ofEncoders id) [.working 97 1 0])
    [.load ⟨[97]⟩, .load ⟨[97]⟩, .unload ⟨0⟩, .unload ⟨0⟩]

/-- Its end hook runs while the first reference on it is open. -/
theorem end_hook_runs_while_mapped :
    openedTwice.drop 10 = .endHook (.encoder ⟨0⟩) :: openedTwice.drop 11 ∧
      ∃ earlier h d, (Memory.ofEncoders id).plugin? d = some (.encoder ⟨0⟩) ∧
        OpenSince earlier (openedTwice.take 10) h d ∧ .closed h ∈ openedTwice.drop 11 := by
  have tenth : openedTwice.drop 10 = .endHook (.encoder ⟨0⟩) :: openedTwice.drop 11 := rfl
  have split : openedTwice =
      openedTwice.take 10 ++ .endHook (.encoder ⟨0⟩) :: openedTwice.drop 11 := by
    rw [← tenth, List.take_append_drop]
  have within : Within Catalog.surroundings (.ofModules (.ofEncoders id) [.working 97 1 0])
      [.load ⟨[97]⟩, .load ⟨[97]⟩, .unload ⟨0⟩, .unload ⟨0⟩] (Catalog.Faithful _ fun _ _ => True) :=
    Catalog.within_faithful (by simp) (by simp [Alters, Call.flatAll, Call.flat])
  have mapped := hooks_run_while_mapped within (Catalog.steady_faithful _ _) split rfl
  refine ⟨tenth, mapped.resolve_left ?_⟩
  rintro ⟨b, _, _, _, _, routine, _⟩
  cases routine

end Run
end CodecHost
