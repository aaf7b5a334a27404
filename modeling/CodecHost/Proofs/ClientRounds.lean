import CodecHost.Proofs.BuiltinActivation
import CodecHost.Proofs.CatalogWorlds
import CodecHost.Proofs.LoadAnswers
import Mathlib.Data.List.Perm.Subperm

/-! Clients that keep to their rounds do not disturb each other. A round begins with an
init and ends with a deinit; in between, a client loads modules and releases what it has
loaded. The context counts as many clients as are in a round, so that no teardown meets
one of them, and the table holds what all of them together have loaded and not released. -/
namespace CodecHost

open Ledger

variable {σ ι : Type} {S : Surroundings σ} {settings : Settings} {system : σ}
  {calls : List (Call σ)} {call : Call σ} {i : ι} {d : Descriptor}

/-- Where the clients of a context are. -/
structure Clients (ι : Type) where
  /-- Those that are in a round. -/
  inside : List ι
  /-- What each of them has loaded in its round and not released yet. -/
  owed : List (ι × Descriptor)
  /-- What others have not released before they left. -/
  abandoned : List Descriptor

namespace Clients

/-- No client has come yet. -/
def none : Clients ι := ⟨[], [], []⟩

/-- The references that clients count on, and those that they have abandoned. -/
def holdings (clients : Clients ι) : List Descriptor :=
  clients.owed.map Prod.snd ++ clients.abandoned

/-- A client comes. -/
def enter (clients : Clients ι) (i : ι) : Clients ι :=
  { clients with inside := i :: clients.inside }

/-- A client is owed what its load answers with, if that succeeds. -/
def load (clients : Clients ι) (i : ι) : Except PluginError Descriptor → Clients ι
  | .ok d => { clients with owed := (i, d) :: clients.owed }
  | .error _ => clients

variable [DecidableEq ι]

/-- A client releases what it is owed. -/
def release (clients : Clients ι) (i : ι) (d : Descriptor) : Clients ι :=
  { clients with owed := clients.owed.erase (i, d) }

/-- A client leaves and abandons what it has not released. Nothing outlasts the last one. -/
def leave (clients : Clients ι) (i : ι) : Clients ι where
  inside := clients.inside.erase i
  owed := clients.owed.filter (·.1 ≠ i)
  abandoned :=
    if clients.inside.erase i = [] then []
    else (clients.owed.filter (·.1 = i)).map Prod.snd ++ clients.abandoned

theorem mem_owed_leave {clients : Clients ι} {j : ι} :
    (j, d) ∈ (clients.leave i).owed ↔ (j, d) ∈ clients.owed ∧ j ≠ i := by
  simp [leave]

theorem holdings_release {clients : Clients ι} (owes : (i, d) ∈ clients.owed) :
    clients.holdings.Perm (d :: (clients.release i d).holdings) :=
  ((List.perm_cons_erase owes).map Prod.snd).append_right _

/-- While another client stays, what is abandoned is kept. -/
theorem holdings_leave {clients : Clients ι} (others : clients.inside.erase i ≠ []) :
    (clients.leave i).holdings.Perm clients.holdings := by
  have parted := (List.filter_append_perm (·.1 ≠ i) clients.owed).map Prod.snd
  simp only [holdings, leave, others, ↓reduceIte]
  rw [← List.append_assoc, ← List.map_append]
  refine List.Perm.append_right _ (.trans (.of_eq ?_) parted)
  simp

end Clients

namespace Run

variable (S settings system) in
/-- The context counts the clients that are inside and holds what is owed to them. Once a
client has come, an empty context is what the last one leaves. -/
structure Served (calls : List (Call σ)) (clients : Clients ι) : Prop where
  counted : (context S settings system calls).initCount = clients.inside.length
  single : clients.inside.Nodup
  owing : ∀ i d, (i, d) ∈ clients.owed → i ∈ clients.inside
  held : clients.holdings.Subperm (context S settings system calls).modules.holdings
  cleared : .init ∈ calls → clients.inside = [] →
    (context S settings system calls).registry = .empty ∧
      (context S settings system calls).modules = .empty

theorem build_count : (Context.build S settings system).state.initCount = 0 := by
  rw [(Context.build_outcome S settings system).2]
  exact (Context.activateBuiltins_counts S settings (.fresh system)).2.1

namespace Served

variable {clients : Clients ι}

theorem start : Served S settings system [] (.none : Clients ι) :=
  ⟨build_count, .nil, nofun, List.nil_subperm, nofun⟩

/-- What is owed to a client is loaded. -/
theorem loaded (served : Served S settings system calls clients) (held : d ∈ clients.holdings) :
    d ∈ (context S settings system calls).modules.descriptors :=
  (ModuleTable.mem_holdings (accounted S settings system calls).kept).mp
    (served.held.subset held)

/-- What is owed to a client can be unloaded. -/
theorem unloads (served : Served S settings system calls clients) (owes : (i, d) ∈ clients.owed) :
    ((Context.unload S d).run (context S settings system calls)).value = .ok () ∧
      Host.Unloading S d (context S settings system calls).host
        ((Context.unload S d).run (context S settings system calls)).events
        (context S settings system (calls ++ [.unload d])).host := by
  have held : d ∈ clients.holdings := List.mem_append_left _ (List.mem_map.mpr ⟨_, owes, rfl⟩)
  rw [context_unload]
  exact Host.unload_loaded (accounted S settings system calls).kept (served.loaded held)

theorem enter (served : Served S settings system calls clients) (outside : i ∉ clients.inside) :
    Served S settings system (calls ++ [.init]) (clients.enter i) := by
  refine ⟨?_, List.nodup_cons.mpr ⟨outside, served.single⟩, fun j d owes => ?_, ?_, nofun⟩
  · rw [(comes S settings system calls).1, served.counted]
    rfl
  · exact List.mem_cons_of_mem _ (served.owing j d owes)
  · have holdings := Context.initEach_holdings S settings (context S settings system calls)
    rw [← (Context.init_each _).state] at holdings
    have grown : (context S settings system calls).modules.holdings.Subperm
        (context S settings system (calls ++ [.init])).modules.holdings := by
      rw [context_snoc]
      exact (List.sublist_append_right _ _).subperm.trans holdings.symm.subperm
    exact served.held.trans grown

/-- A call that a client makes in its round changes what is held as it changes what is
owed. -/
theorem within (served : Served S settings system calls clients) (call : Call σ)
    (plain : call.Plain) (coming : call ≠ .init) (leaving : call ≠ .deinit)
    (inside : i ∈ clients.inside) {owed : List (ι × Descriptor)}
    (owing : ∀ i d, (i, d) ∈ owed → i ∈ clients.inside)
    (held : (Clients.holdings { clients with owed }).Subperm
      (context S settings system (calls ++ [call])).modules.holdings) :
    Served S settings system (calls ++ [call]) { clients with owed } := by
  refine ⟨?_, served.single, owing, held, fun _ empty => ?_⟩
  · exact (neither S settings system calls plain coming leaving).1.trans served.counted
  · have empty : clients.inside = [] := empty
    simp [empty] at inside

theorem load (served : Served S settings system calls clients) (inside : i ∈ clients.inside)
    (path : Path) : Served S settings system (calls ++ [.load path])
      (clients.load i ((Context.load S path).run (context S settings system calls)).value) := by
  have holdings : (context S settings system (calls ++ [.load path])).modules.holdings.Perm
      ((((Context.load S path).run (context S settings system calls)).value).toOption.toList ++
        (context S settings system calls).modules.holdings) := by
    rw [context_snoc]
    exact Host.load_holdings path (context S settings system calls).host
  cases answer : ((Context.load S path).run (context S settings system calls)).value with
  | error e =>
    rw [answer] at holdings
    refine served.within (.load path) trivial nofun nofun inside served.owing ?_
    exact served.held.trans holdings.symm.subperm
  | ok d =>
    rw [answer] at holdings
    refine served.within (.load path) trivial nofun nofun inside (fun j e owes => ?_) ?_
    · rcases List.mem_cons.mp owes with same | owes
      · cases same
        exact inside
      · exact served.owing j e owes
    · exact ((List.subperm_cons d).mpr served.held).trans holdings.symm.subperm

theorem elsewhere (change : σ → σ) (served : Served S settings system calls clients) :
    Served S settings system (calls ++ [.elsewhere change]) clients := by
  have modules : (context S settings system (calls ++ [.elsewhere change])).modules =
      (context S settings system calls).modules := by
    rw [context_snoc]
    rfl
  have registry : (context S settings system (calls ++ [.elsewhere change])).registry =
      (context S settings system calls).registry := by
    rw [context_snoc]
    rfl
  have plain : (Call.elsewhere change).Plain := trivial
  have count := (neither S settings system calls plain nofun nofun).1
  refine ⟨count.trans served.counted, served.single, served.owing, modules ▸ served.held, ?_⟩
  rw [registry, modules]
  exact fun came => served.cleared (by simpa using came)

variable [DecidableEq ι]

theorem release (served : Served S settings system calls clients)
    (owes : (i, d) ∈ clients.owed) :
    Served S settings system (calls ++ [.unload d]) (clients.release i d) := by
  refine served.within (.unload d) trivial nofun nofun (served.owing i d owes)
    (fun j e rest => served.owing j e (List.mem_of_mem_erase rest)) ?_
  have fewer := (served.unloads owes).2.holdings
  have owed := (Clients.holdings_release owes).symm
  exact (List.subperm_cons d).mp (owed.subperm.trans (served.held.trans fewer.subperm))

/-- The last client to leave takes everything along, and any other leaves all references. -/
theorem leave (served : Served S settings system calls clients) (inside : i ∈ clients.inside) :
    Served S settings system (calls ++ [.deinit]) (clients.leave i) := by
  have fewer : (clients.inside.erase i).length = clients.inside.length - 1 :=
    List.length_erase_of_mem inside
  have owing : ∀ j d, (j, d) ∈ (clients.leave i).owed → j ∈ (clients.leave i).inside := by
    intro j d owes
    obtain ⟨owes, other⟩ := Clients.mem_owed_leave.mp owes
    exact (List.mem_erase_of_ne other).mpr (served.owing j d owes)
  have count : (context S settings system (calls ++ [.deinit])).initCount =
      (clients.leave i).inside.length := by
    rw [(leaves S settings system calls).1, served.counted]
    exact fewer.symm
  have single := served.single.erase i
  by_cases last : clients.inside.erase i = []
  · have lonely : (context S settings system calls).initCount = 1 := by
      have some := List.length_pos_of_mem inside
      rw [last] at fewer
      rw [served.counted]
      simp only [List.length_nil] at fewer
      omega
    have nothing : (clients.leave i).holdings = [] := by
      have owed : (clients.leave i).owed = [] := by
        refine List.eq_nil_iff_forall_not_mem.mpr fun ⟨j, d⟩ owes => ?_
        have there : j ∈ clients.inside.erase i := owing j d owes
        simp [last] at there
      have abandoned : (clients.leave i).abandoned = [] := if_pos last
      rw [Clients.holdings, owed, abandoned]
      rfl
    obtain ⟨system', state⟩ := Context.teardown_state (S := S)
      { context S settings system calls with initCount := 0 }
    have torn : (context S settings system (calls ++ [.deinit])).host = .fresh system' := by
      rw [context_snoc, Call.perform, Context.deinit_last lonely, state]
    refine ⟨count, single, owing, ?_, fun _ _ => ?_⟩
    · rw [nothing]
      exact List.nil_subperm
    · exact ⟨congrArg Host.registry torn, congrArg Host.modules torn⟩
  · have several : (context S settings system calls).initCount ≠ 1 := by
      have some := List.length_pos_iff.mpr last
      rw [served.counted]
      omega
    refine ⟨count, single, owing, ?_, fun _ empty => absurd empty last⟩
    rw [context_snoc, Call.perform, Context.deinit_others several]
    exact (Clients.holdings_leave last).subperm.trans served.held

end Served

variable [DecidableEq ι]

variable (S settings system) in
/-- The calls are those of clients in their rounds, one call after the other, and the system
may change between them. Whatever an init or a load answers, the client goes on, and it
releases only what it is owed. -/
inductive Interleaving : List (Call σ) → Clients ι → Prop where
  | start : Interleaving [] .none
  | enter {calls : List (Call σ)} {clients : Clients ι} {i : ι}
      (before : Interleaving calls clients) (outside : i ∉ clients.inside) :
      Interleaving (calls ++ [.init]) (clients.enter i)
  | load {calls : List (Call σ)} {clients : Clients ι} {i : ι} {path : Path}
      (before : Interleaving calls clients) (inside : i ∈ clients.inside) :
      Interleaving (calls ++ [.load path])
        (clients.load i ((Context.load S path).run (context S settings system calls)).value)
  | release {calls : List (Call σ)} {clients : Clients ι} {i : ι} {d : Descriptor}
      (before : Interleaving calls clients) (owes : (i, d) ∈ clients.owed) :
      Interleaving (calls ++ [.unload d]) (clients.release i d)
  | leave {calls : List (Call σ)} {clients : Clients ι} {i : ι}
      (before : Interleaving calls clients) (inside : i ∈ clients.inside) :
      Interleaving (calls ++ [.deinit]) (clients.leave i)
  | elsewhere {calls : List (Call σ)} {clients : Clients ι} (change : σ → σ)
      (before : Interleaving calls clients) :
      Interleaving (calls ++ [.elsewhere change]) clients

theorem Interleaving.served {clients : Clients ι}
    (interleaving : Interleaving S settings system calls clients) :
    Served S settings system calls clients := by
  induction interleaving with
  | start => exact .start
  | enter _ outside served => exact served.enter outside
  | load _ inside served => exact served.load inside _
  | release _ owes served => exact served.release owes
  | leave _ inside served => exact served.leave inside
  | elsewhere change _ served => exact served.elsewhere change

/-- What is loaded has an open reference. -/
theorem loaded_is_open (loaded : d ∈ (context S settings system calls).modules.descriptors) :
    ∃ record ∈ (context S settings system calls).modules.records, record.descriptor = d ∧
      ∃ h ∈ record.handles, closes (· = h) (past S settings system calls) <
        opens (· = h) (past S settings system calls) := by
  have accounted := accounted S settings system calls
  obtain ⟨record, listed, exports⟩ := List.mem_map.mp loaded
  obtain ⟨h, member⟩ := List.exists_mem_of_ne_nil _ (accounted.kept.held record listed)
  exact ⟨record, listed, exports, h, member,
    accounted.books.is_open (List.mem_flatMap.mpr ⟨record, listed, member⟩)⟩

/-- **Clients that keep to their rounds do not disturb each other.** In whatever order their
calls come, and whatever fails, the context counts those that are in a round. What a client
has loaded and not released it can release, and that stays loaded with an open reference;
so does what a client leaves unreleased, until all have left. When all rounds are finished
and there was one, nothing is active and nothing is loaded, and every reference that was
opened has been closed as often, and only while it was open. -/
theorem rounds_undisturbed {clients : Clients ι}
    (interleaving : Interleaving S settings system calls clients) :
    (context S settings system calls).initCount = clients.inside.length ∧
    (∀ i d, (i, d) ∈ clients.owed →
      ((Context.unload S d).run (context S settings system calls)).value = .ok ()) ∧
    (∀ d, (∃ i, (i, d) ∈ clients.owed) ∨ d ∈ clients.abandoned →
      ∃ record ∈ (context S settings system calls).modules.records, record.descriptor = d ∧
        ∃ h ∈ record.handles, closes (· = h) (past S settings system calls) <
          opens (· = h) (past S settings system calls)) ∧
    (.init ∈ calls → clients.inside = [] →
      (context S settings system calls).initCount = 0 ∧
      (context S settings system calls).registry = .empty ∧
      (context S settings system calls).modules = .empty ∧
      (∀ h, closes (· = h) (past S settings system calls) =
        opens (· = h) (past S settings system calls)) ∧
      Throughout ClosesOpen (past S settings system calls)) := by
  have served := interleaving.served
  have books := (accounted S settings system calls).books
  refine ⟨served.counted, fun i d owes => (served.unloads owes).1, fun d held => ?_, ?_⟩
  · refine loaded_is_open (served.loaded (List.mem_append.mpr (held.imp_left ?_)))
    rintro ⟨i, owes⟩
    exact List.mem_map.mpr ⟨_, owes, rfl⟩
  · intro came empty
    obtain ⟨registry, modules⟩ := served.cleared came empty
    refine ⟨by rw [served.counted, empty, List.length_nil], registry, modules, fun h => ?_,
      books.closings⟩
    have modules : (context S settings system calls).host.modules = .empty := modules
    have balance := books.balance (· = h)
    rw [modules] at balance
    exact balance.symm

/-- Two modules. -/
def twoModules : Catalog := .ofModules (.ofEncoders id) [.working 97 1 0, .working 98 2 1]

/-- Two clients come, of which the first is told that there is no directory to search. Both
load one module; one also loads another, fails to load a third, releases the first and
leaves. -/
def together : List (Call Catalog) :=
  [.init, .init, .load ⟨[97]⟩, .load ⟨[97]⟩, .load ⟨[98]⟩, .load ⟨[99]⟩, .unload ⟨0⟩, .deinit]

/-- The other client can still release its module, and what the first has left is still loaded.
When the other leaves as well, nothing is. -/
theorem second_client_undisturbed :
    Interleaving Catalog.surroundings Catalog.searchless twoModules together
        (⟨[1], [(1, ⟨0⟩)], [⟨1⟩]⟩ : Clients Nat) ∧
      ((Context.unload Catalog.surroundings ⟨0⟩).run
        (context Catalog.surroundings Catalog.searchless twoModules together)).value = .ok () ∧
      (∃ record ∈
        (context Catalog.surroundings Catalog.searchless twoModules together).modules.records,
        record.descriptor = ⟨1⟩) ∧
      (context Catalog.surroundings Catalog.searchless twoModules
        (together ++ [.deinit])).modules = .empty := by
  have came : Interleaving Catalog.surroundings Catalog.searchless twoModules [.init, .init]
      (⟨[1, 0], [], []⟩ : Clients Nat) :=
    (Interleaving.start.enter (i := 0) (by decide)).enter (i := 1) (by decide)
  have loaded : Interleaving Catalog.surroundings Catalog.searchless twoModules
      [.init, .init, .load ⟨[97]⟩, .load ⟨[97]⟩, .load ⟨[98]⟩, .load ⟨[99]⟩]
      (⟨[1, 0], [(0, ⟨1⟩), (1, ⟨0⟩), (0, ⟨0⟩)], []⟩ : Clients Nat) :=
    (((came.load (i := 0) (by decide)).load (i := 1) (by decide)).load (i := 0)
      (by decide)).load (i := 0) (by decide)
  have left : Interleaving Catalog.surroundings Catalog.searchless twoModules together
      (⟨[1], [(1, ⟨0⟩)], [⟨1⟩]⟩ : Clients Nat) :=
    (loaded.release (i := 0) (by decide)).leave (i := 0) (by decide)
  have ended : Interleaving Catalog.surroundings Catalog.searchless twoModules
      (together ++ [.deinit]) (⟨[], [], []⟩ : Clients Nat) := left.leave (i := 1) (by decide)
  obtain ⟨_, releases, stays, _⟩ := rounds_undisturbed left
  obtain ⟨record, listed, exports, _⟩ := stays ⟨1⟩ (.inr List.mem_cons_self)
  obtain ⟨_, _, _, nothing⟩ := rounds_undisturbed ended
  obtain ⟨_, _, modules, _⟩ := nothing List.mem_cons_self rfl
  exact ⟨left, releases 1 ⟨0⟩ List.mem_cons_self, ⟨record, listed, exports⟩, modules⟩

end Run
end CodecHost
