import CodecHost.Proofs.CatalogWorlds
import CodecHost.Proofs.Holdings
import CodecHost.Proofs.Runs

/-! Teardown in order. Decoders end before encoders, both in list order, and then every
reference is closed, record by record and the oldest first. The modules are unregistered
again while the table is emptied, but nothing is active by then, so that no hook runs twice
and none after a close. What goes to the log on the way is left aside. -/
namespace CodecHost

open Ledger

variable {σ : Type} {S : Surroundings σ} {settings : Settings} {elsewhere : (σ → σ) → Prop}
  {past events before after hooks : List Event} {handles : List Handle} {h : Handle}

namespace Ledger

theorem deeds_closed : deeds (handles.map .closed) = handles.map .closed :=
  List.filter_eq_self.mpr (by simp [Event.notice?])

/-- The references that were opened, in order. -/
def openings (events : List Event) : List Handle := events.filterMap Event.opened?

theorem openings_append : openings (before ++ after) = openings before ++ openings after :=
  List.filterMap_append

/-- When closes come behind everything else, no hook comes behind a close. -/
theorem hookless_after_close (order : deeds events = hooks ++ handles.map .closed)
    (first : ∀ e ∈ hooks, e.closed? = none) (split : events = before ++ .closed h :: after) :
    ∀ e ∈ after, e.hook? = none := by
  have closes : ∀ e ∈ deeds after, ∃ g, e = .closed g := by
    have parted : deeds before ++ .closed h :: deeds after = hooks ++ handles.map .closed := by
      rw [← order, split, deeds_append]
      rfl
    rcases List.append_eq_append_iff.mp parted with ⟨part, rfl, rest⟩ | ⟨part, _, rest⟩
    · cases part with
      | nil =>
        intro e member
        have listed : e ∈ handles.map Event.closed := by
          rw [List.nil_append] at rest
          rw [← rest]
          exact List.mem_cons_of_mem _ member
        obtain ⟨g, _, same⟩ := List.mem_map.mp listed
        exact ⟨g, same.symm⟩
      | cons e part =>
        obtain ⟨rfl, _⟩ := List.cons.inj rest
        cases first (.closed h) (by simp)
    · intro e member
      have listed : e ∈ handles.map Event.closed := by
        rw [rest]
        simp [member]
      obtain ⟨g, _, same⟩ := List.mem_map.mp listed
      exact ⟨g, same.symm⟩
  intro e member
  cases logged : e.notice? with
  | some n => cases e <;> first | rfl | cases logged
  | none =>
    obtain ⟨g, rfl⟩ := closes e (List.mem_filter.mpr ⟨member, by simp [logged]⟩)
    rfl

end Ledger

/-! Records hold their references in the order in which these were opened. -/

/-- Every record holds its references in the order in which they were opened. -/
def Host.InOrder (past : List Event) (host : Host σ) : Prop :=
  ∀ record ∈ host.modules.records, record.handles.Sublist (openings past)

namespace Host.InOrder

variable {host last : Host σ}

/-- A record that gives references back keeps the others in order. -/
theorem fewer (inOrder : host.InOrder past)
    (each : ∀ new ∈ last.modules.records, ∃ old ∈ host.modules.records,
      new.handles.Sublist old.handles) : last.InOrder (past ++ events) := by
  intro new member
  obtain ⟨old, there, part⟩ := each new member
  rw [openings_append]
  exact (part.trans (inOrder old there)).trans (List.sublist_append_left _ _)

theorem same (inOrder : host.InOrder past) (records : last.modules = host.modules) :
    last.InOrder (past ++ events) :=
  inOrder.fewer fun record member => ⟨record, records ▸ member, .refl _⟩

/-- What was opened last goes to the end. -/
theorem attached {record : Record} {system : σ} (inOrder : host.InOrder past)
    (tracked : host.modules.record? h.id = some record) :
    InOrder (past ++ [.opened h]) { host with modules := host.modules.attach h, system } := by
  obtain ⟨_, before, after, split, attached⟩ := ModuleTable.attach_split tracked
  intro new member
  have old_stays : new ∈ host.modules.records →
      new.handles.Sublist (openings (past ++ [.opened h])) := by
    intro there
    rw [openings_append]
    exact (inOrder new there).trans (List.sublist_append_left _ _)
  simp only [attached] at member
  rcases List.mem_append.mp member with member | member
  · exact old_stays (by simp [split, member])
  · rcases List.mem_cons.mp member with rfl | member
    · rw [openings_append]
      exact (inOrder record (by simp [split])).append (.refl [h])
    · exact old_stays (by simp [split, member])

end Host.InOrder

theorem Host.Loading.inOrder {host last : Host σ} (loading : Host.Loading S host events last)
    (inOrder : host.InOrder past) : last.InOrder (past ++ events) := by
  cases loading with
  | noted | unopened | refused => exact inOrder.same rfl
  | attached _ tracked => exact inOrder.attached tracked
  | entered =>
    intro new member
    rw [openings_append]
    rcases List.mem_append.mp member with there | entered
    · exact (inOrder new there).trans (List.sublist_append_left _ _)
    · rw [List.mem_singleton.mp entered, List.singleton_sublist]
      exact List.mem_append_right _ List.mem_cons_self

theorem Host.Move.inOrder {host last : Host σ} (move : Host.Move S host events last)
    (inOrder : host.InOrder past) : last.InOrder (past ++ events) := by
  cases move with
  | loading loading => exact loading.inOrder inOrder
  | unloading unloading =>
    cases unloading with
    | @released record before after kept handle found _ _ handles =>
      refine inOrder.fewer fun new member => ?_
      rcases List.mem_append.mp member with member | member
      · exact ⟨new, by simp [found, member], .refl _⟩
      · rcases List.mem_cons.mp member with rfl | member
        · exact ⟨record, by simp [found], handles ▸ List.sublist_append_left kept [handle]⟩
        · exact ⟨new, by simp [found, member], .refl _⟩
    | @removed record before after _ _ _ _ found =>
      refine inOrder.fewer fun new member => ⟨new, ?_, .refl _⟩
      simp only [found, (ModuleTable.swapRemove_perm before record after).mem_iff] at member
      rw [found]
      rcases List.mem_append.mp member with member | member <;> simp [member]
  | forced found => exact inOrder.fewer fun new member => ⟨new, by simp [found, member], .refl _⟩

/-- Every move of a context keeps the order. -/
theorem Context.Move.inOrder {c last : Context σ}
    (move : Context.Move S settings elsewhere past c events last)
    (inOrder : c.host.InOrder past) : last.host.InOrder (past ++ events) := by
  cases move with
  | growing growing =>
    cases growing with
    | hosted loading => exact loading.inOrder inOrder
    | asked | brought | counted | activated => exact inOrder.same rfl
  | hosted move => exact move.inOrder inOrder
  | cleared | altered => exact inOrder.same rfl

/-! Emptying the table when nothing is active closes references and does nothing else. -/

theorem Host.unloadRecords_deeds (records : List Record) (host : Host σ)
    (idle : host.registry = .empty) :
    deeds ((Host.unloadRecords S records).run host).events =
      (records.flatMap Record.handles).map .closed := by
  induction records generalizing host with
  | nil => rfl
  | cons record rest ih =>
    have outcome := Registry.unregister_outcome (S.memory host.system) record.descriptor
      host.registry
    simp only [unloadRecords, Action.run_bind, onRegistry_run, releaseAll_run, Action.run_note,
      Action.run_pure, List.append_nil]
    generalize (Registry.unregister (S.memory host.system) record.descriptor).run
      host.registry = step at outcome ⊢
    cases outcome with
    | absent notices =>
      have later := ih { host with system := closeAll S record.handles host.system } idle
      rw [deeds_append, deeds_append, deeds_append, deeds_notices, deeds_closed,
        List.flatMap_cons, List.map_append]
      exact congrArg (record.handles.map .closed ++ ·) later
    | removed _ _ active => simp [idle] at active

namespace Context

variable (S) in
/-- The hooks that run and the references that are closed when a context is torn down: those
of all decoders and then those of all encoders, in list order, and then record by record what
the table holds. No hook runs after a close. -/
structure TornDown (c : Context σ) (events : List Event) : Prop where
  deeds : deeds events =
    (c.registry.decoders.flatMap fun d =>
        Registry.endHooks (S.memory c.host.system) (.decoder d)) ++
      (c.registry.encoders.flatMap fun e =>
        Registry.endHooks (S.memory c.host.system) (.encoder e)) ++
      c.modules.records.flatMap fun record => record.handles.map .closed
  hookless : ∀ before h after, events = before ++ .closed h :: after → ∀ e ∈ after, e.hook? = none

variable (S) in
/-- Nothing is left of what was active and loaded, and the end has nothing to do. -/
structure Vacant (c : Context σ) : Prop where
  clients : c.initCount = 0
  builtins : c.builtinsRegistered = false
  registry : c.registry = .empty
  modules : c.modules = .empty
  unloads : ∀ d, (unload S d).run c = ⟨.error .notLoaded, c, []⟩
  drop : Ledger.deeds ((drop S).run c).events = []

variable {c : Context σ}

theorem teardown_deeds (c : Context σ) :
    Ledger.deeds ((teardown S).run c).events =
      c.registry.clearing (S.memory c.host.system) ++ c.modules.handles.map .closed := by
  have hooks : Ledger.deeds (c.registry.clearing (S.memory c.host.system)) =
      c.registry.clearing (S.memory c.host.system) := by
    refine List.filter_eq_self.mpr fun e member => ?_
    obtain ⟨p, _, rfl⟩ := Registry.mem_clearing member
    rfl
  have closes := Host.unloadRecords_deeds (S := S) c.modules.records
    ⟨.empty, .empty, c.host.system⟩ rfl
  have events : ((teardown S).run c).events =
      c.registry.clearing (S.memory c.host.system) ++
        (((Host.unloadRecords S c.modules.records).run
            ⟨.empty, .empty, c.host.system⟩).events ++ [.notice (.tornDown
          ((Host.unloadRecords S c.modules.records).run
            ⟨.empty, .empty, c.host.system⟩).value)]) := by
    simp only [teardown, Action.run_bind, onHost_run, Host.onRegistry_run,
      Registry.unregisterAllDecoders_run, Registry.unregisterAllEncoders_run, Action.run_modify,
      Action.run_note, Registry.clearing, List.append_assoc, List.nil_append]
    rfl
  rw [events, deeds_append, deeds_append, hooks, closes]
  exact congrArg _ (List.append_nil _)

/-- Whatever goes to the log before it, a teardown comes in order. -/
theorem teardown_tornDown (notices : List Notice) (c : Context σ) :
    TornDown S c (notices.map .notice ++ ((teardown S).run c).events) := by
  have order : Ledger.deeds (notices.map .notice ++ ((teardown S).run c).events) =
      c.registry.clearing (S.memory c.host.system) ++ c.modules.handles.map .closed := by
    rw [deeds_append, deeds_notices, teardown_deeds, List.nil_append]
  refine ⟨?_, fun before h after split => hookless_after_close order ?_ split⟩
  · rw [order, ModuleTable.handles, List.map_flatMap]
    rfl
  · intro e member
    obtain ⟨p, _, rfl⟩ := Registry.mem_clearing member
    rfl

theorem drop_tornDown (c : Context σ) : TornDown S c ((drop S).run c).events := by
  obtain ⟨notices, run⟩ := drop_run (S := S) c
  rw [run]
  exact teardown_tornDown notices c

/-- The last client to leave has everything torn down. -/
theorem deinit_tornDown (lonely : c.initCount = 1) : TornDown S c ((deinit S).run c).events := by
  rw [deinit_last lonely]
  obtain ⟨order, hookless⟩ := teardown_tornDown (S := S) [.deinitCounted 0]
    { c with initCount := 0 }
  exact ⟨order, hookless⟩

theorem deinit_vacant (lonely : c.initCount = 1) : Vacant S ((deinit S).run c).state := by
  obtain ⟨system, state⟩ := teardown_state (S := S) { c with initCount := 0 }
  rw [deinit_last lonely, state]
  refine ⟨rfl, rfl, rfl, rfl, fun d => ?_, (drop_tornDown _).deeds⟩
  have missing : (Host.unload S d).run (.fresh system) = ⟨.error .notLoaded, .fresh system, []⟩ :=
    Host.unload_missing ModuleTable.wellKept_empty List.not_mem_nil
  rw [unload, onHost_run, missing]

end Context

namespace Run

variable (S : Surroundings σ) (settings : Settings) (system : σ) (calls : List (Call σ))

theorem inOrder :
    (context S settings system calls).host.InOrder (Run.past S settings system calls) :=
  (moves S settings system calls).preserve (I := fun past c => c.host.InOrder past)
    (fun move inOrder => move.inOrder inOrder) nofun

/-- **Teardown leaves nothing, in the right order.** After any calls, the drop of the context
and the deinit of its last client end the decoders, then the encoders, in list order, and
then close record by record what the table holds, in the order in which it was opened; no
hook runs after a close. The deinit leaves nothing active and nothing loaded, so that nothing
can be unloaded and a drop has nothing left to do. -/
theorem teardown_in_order :
    (∀ record ∈ (context S settings system calls).modules.records,
      record.handles.Sublist (openings (Run.past S settings system calls))) ∧
    Context.TornDown S (context S settings system calls)
      ((Context.drop S).run (context S settings system calls)).events ∧
    ((context S settings system calls).initCount = 1 →
      Context.TornDown S (context S settings system calls)
        ((Context.deinit S).run (context S settings system calls)).events ∧
      Context.Vacant S (context S settings system (calls ++ [.deinit]))) := by
  refine ⟨inOrder S settings system calls, Context.drop_tornDown _, fun lonely => ?_⟩
  rw [context_snoc]
  exact ⟨Context.deinit_tornDown lonely, Context.deinit_vacant lonely⟩

/-- A module with an encoder and one with a decoder. -/
def bothKinds : Catalog :=
  .ofModules
    { Memory.ofEncoders id with
      info := fun d =>
        ⟨1, if d = ⟨0⟩ then Kind.encoder.tag else Kind.decoder.tag, some d.address⟩
      decoder := fun _ => ⟨1, none, fun _ => 0, true, true⟩ }
    [.working 97 1 0, .working 98 2 1]

/-- The only client opens the first module once before and once after the second. -/
def threeReferences : List (Call Catalog) :=
  [.init, .load ⟨[97]⟩, .load ⟨[98]⟩, .load ⟨[97]⟩]

/-- When it leaves, the decoder ends before the encoder, and then the first module is closed
twice before the second one. -/
theorem both_kinds_torn_down :
    (context Catalog.surroundings Catalog.searchless bothKinds threeReferences).initCount = 1 ∧
      deeds ((Context.deinit Catalog.surroundings).run
          (context Catalog.surroundings Catalog.searchless bothKinds threeReferences)).events =
        [.endHook (.decoder ⟨1⟩), .endHook (.encoder ⟨0⟩), .closed ⟨0, ⟨1⟩, ⟨[97]⟩⟩,
          .closed ⟨2, ⟨1⟩, ⟨[97]⟩⟩, .closed ⟨1, ⟨2⟩, ⟨[98]⟩⟩] ∧
      Context.Vacant Catalog.surroundings (context Catalog.surroundings Catalog.searchless
        bothKinds (threeReferences ++ [.deinit])) := by
  obtain ⟨_, _, leaves⟩ :=
    teardown_in_order Catalog.surroundings Catalog.searchless bothKinds threeReferences
  obtain ⟨torn, vacant⟩ := leaves rfl
  exact ⟨rfl, torn.deeds, vacant⟩

end Run
end CodecHost
