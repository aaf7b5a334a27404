import CodecHost.Proofs.CatalogWorlds
import CodecHost.Proofs.LoadAnswers
import CodecHost.Proofs.Runs
import Mathlib.Data.List.Count

/-! Reference accounting as those who call see it. They know what their loads answered
and which of their unloadings succeeded, and they can keep a journal of it. What they
have outstanding by the journal is what the table holds for them, whatever modules the
references are on: it tells whether a descriptor is loaded and whether it can be unloaded. -/
namespace CodecHost

open Ledger

variable {σ : Type} {S : Surroundings σ} {settings : Settings} {c : Context σ} {d : Descriptor}

/-- What becomes of references, by descriptor. -/
inductive Entry where
  /-- A load succeeded. -/
  | loaded (d : Descriptor)
  /-- An unloading succeeded. -/
  | unloaded (d : Descriptor)
  /-- The table was emptied, whatever was in it. -/
  | emptied
  deriving DecidableEq

/-- The entries since the table was last emptied. -/
def sinceEmptied (journal : List Entry) : List Entry :=
  (journal.reverse.takeWhile (· ≠ .emptied)).reverse

/-- How many more loads than unloadings of a descriptor have succeeded since the table was
last emptied. -/
def outstanding (d : Descriptor) (journal : List Entry) : Int :=
  (sinceEmptied journal).count (.loaded d) - (sinceEmptied journal).count (.unloaded d)

section Journal

variable {journal more : List Entry}

theorem sinceEmptied_append (keeps : .emptied ∉ more) :
    sinceEmptied (journal ++ more) = sinceEmptied journal ++ more := by
  have whole : ∀ entry ∈ more.reverse, decide (entry ≠ .emptied) = true := by
    intro entry member
    rw [List.mem_reverse] at member
    exact decide_eq_true fun same => keeps (same ▸ member)
  rw [sinceEmptied, List.reverse_append, List.takeWhile_append_of_pos whole, List.reverse_append,
    List.reverse_reverse, sinceEmptied]

theorem outstanding_emptied : outstanding d (journal ++ [.emptied]) = 0 := by
  simp [outstanding, sinceEmptied]

theorem outstanding_loaded (ds : List Descriptor) :
    outstanding d (journal ++ ds.map .loaded) = outstanding d journal + ds.count d := by
  have keeps : .emptied ∉ ds.map Entry.loaded := by simp
  have loads : (ds.map Entry.loaded).count (.loaded d) = ds.count d :=
    List.count_map_of_injective ds Entry.loaded (fun _ _ => Entry.loaded.inj) d
  have others : (ds.map Entry.loaded).count (.unloaded d) = 0 := List.count_eq_zero.mpr (by simp)
  rw [outstanding, sinceEmptied_append keeps, List.count_append, List.count_append, loads, others,
    outstanding]
  omega

theorem outstanding_unloaded (e : Descriptor) :
    outstanding d (journal ++ [.unloaded e]) = outstanding d journal - [e].count d := by
  have keeps : .emptied ∉ [Entry.unloaded e] := by simp
  have loads : [Entry.unloaded e].count (.loaded d) = 0 := List.count_eq_zero.mpr (by simp)
  have others : [Entry.unloaded e].count (.unloaded d) = [e].count d :=
    List.count_map_of_injective [e] Entry.unloaded (fun _ _ => Entry.unloaded.inj) d
  rw [outstanding, sinceEmptied_append keeps, List.count_append, List.count_append, loads, others,
    outstanding]
  omega

end Journal

variable (S settings)

/-- What a call enters into the journal when it is made in a context. A callback has its own
calls entered. -/
def Call.entries (c : Context σ) : Call σ → List Entry
  | .init => (loaded ((Context.initEach S settings).run c).value).map .loaded
  | .load path => (loaded [((Context.load S path).run c).value]).map .loaded
  | .loadDirectory directory _ => (loaded ((Host.scanEach S directory).run c.host).value).map .loaded
  | .unload d =>
    match ((Context.unload S d).run c).value with
    | .ok () => [.unloaded d]
    | .error _ => []
  | .unloadAll => [.emptied]
  | .deinit => if c.initCount = 1 then [.emptied] else []
  | .withRegistry _ | .elsewhere _ => []

/-- What calls that hand nothing to callbacks enter, one after the other. -/
def journalFrom (c : Context σ) : List (Call σ) → List Entry
  | [] => []
  | call :: rest =>
    call.entries S settings c ++ journalFrom ((call.perform S settings).run c).state rest

variable {S settings}

/-- A call changes what is outstanding as it changes what the table holds. -/
theorem Call.entries_account {call : Call σ} {journal : List Entry} (plain : call.Plain)
    (even : (c.modules.holdings.count d : Int) = outstanding d journal) :
    (((call.perform S settings).run c).state.modules.holdings.count d : Int) =
      outstanding d (journal ++ call.entries S settings c) := by
  have loads : ∀ {ds : List Descriptor} (t : ModuleTable),
      t.holdings.Perm (ds ++ c.modules.holdings) →
      (t.holdings.count d : Int) = outstanding d (journal ++ ds.map .loaded) := by
    intro ds t holds
    rw [outstanding_loaded, holds.count_eq, List.count_append, ← even]
    omega
  have empties : ∀ t : ModuleTable, t = .empty →
      (t.holdings.count d : Int) = outstanding d (journal ++ [.emptied]) := by
    intro t empty
    rw [outstanding_emptied, empty]
    rfl
  cases call with
  | init =>
    refine loads _ (.trans (.of_eq ?_) (Context.initEach_holdings S settings c))
    exact congrArg (·.modules.holdings) (Context.init_each c).state
  | load path =>
    refine loads _ ((Host.load_holdings path c.host).trans (.of_eq ?_))
    simp only [Context.load, Context.onHost_run, loaded, List.filterMap_cons, List.filterMap_nil]
    cases ((Host.load S path).run c.host).value <;> rfl
  | loadDirectory directory buffer =>
    refine loads _ (.trans (.of_eq ?_) (Host.scanEach_holdings directory c.host))
    exact congrArg (·.modules.holdings) (Host.loadDirectory_each directory buffer c.host).state
  | unloadAll => exact empties _ (Host.unloadAll_modules c.host)
  | deinit =>
    by_cases lonely : c.initCount = 1
    · obtain ⟨system, state⟩ := Context.teardown_state (S := S) { c with initCount := 0 }
      rw [entries, if_pos lonely]
      refine empties _ ?_
      rw [perform, Context.deinit_last lonely, state]
      rfl
    · rw [entries, if_neg lonely, List.append_nil, perform, Context.deinit_others lonely]
      exact even
  | unload e =>
    have state : ((perform S settings (.unload e)).run c).state.modules =
        ((Host.unload S e).run c.host).state.modules := rfl
    have value : ((Context.unload S e).run c).value = ((Host.unload S e).run c.host).value := rfl
    rw [state, entries, value]
    rcases Host.unload_outcome (S := S) e c.host with ⟨idle, _⟩ | ⟨answer, unloading⟩
    · simp only [idle, List.append_nil]
      exact even
    · have fewer : c.modules.holdings.count d = _ := unloading.holdings.count_eq d
      rw [answer, outstanding_unloaded, ← even, fewer, ← List.singleton_append, List.count_append]
      omega
  | withRegistry calls => exact plain.elim
  | elsewhere change =>
    rw [entries, List.append_nil]
    exact even

/-- So do calls one after the other. -/
theorem journalFrom_account {calls : List (Call σ)} {journal : List Entry}
    (plain : ∀ call ∈ calls, call.Plain)
    (even : (c.modules.holdings.count d : Int) = outstanding d journal) :
    (((Call.performAll S settings calls).run c).state.modules.holdings.count d : Int) =
      outstanding d (journal ++ journalFrom S settings c calls) := by
  induction calls generalizing c journal with
  | nil =>
    rw [journalFrom, List.append_nil]
    exact even
  | cons call rest ih =>
    rw [journalFrom, ← List.append_assoc]
    exact ih (fun c member => plain c (by simp [member]))
      (Call.entries_account (plain call (by simp)) even)

namespace Run

variable (S : Surroundings σ) (settings : Settings) (system : σ) (calls : List (Call σ))

/-- The journal of a run, from the build on. -/
def journal : List Entry :=
  journalFrom S settings (Context.build S settings system).state (Call.flatAll calls)

theorem build_modules : (Context.build S settings system).state.modules = .empty := by
  rw [(Context.build_outcome S settings system).2]
  exact Context.activateBuiltins_modules S settings (.fresh system)

/-- What is outstanding by the journal is what the table holds. -/
theorem holdings_account (d : Descriptor) :
    ((context S settings system calls).modules.holdings.count d : Int) =
      outstanding d (journal S settings system calls) := by
  have start : ((Context.build S settings system).state.modules.holdings.count d : Int) =
      outstanding d [] := by
    rw [build_modules]
    rfl
  rw [← context_flatAll]
  exact journalFrom_account (Call.flatAll_plain calls) start

/-- **References are accounted for by descriptor.** At every moment of a run, also between
the calls of a callback, a descriptor is loaded just when more of its loads than of its
unloadings have succeeded since the table was last emptied. Just then it can be unloaded,
which closes one reference. Otherwise it is refused and nothing happens. -/
theorem references_accounted (d : Descriptor) :
    (d ∈ (context S settings system calls).modules.descriptors ↔
      0 < outstanding d (journal S settings system calls)) ∧
    (((Context.unload S d).run (context S settings system calls)).value = .ok () ↔
      0 < outstanding d (journal S settings system calls)) ∧
    (0 < outstanding d (journal S settings system calls) →
      closes (fun _ => true)
        ((Context.unload S d).run (context S settings system calls)).events = 1) ∧
    (¬ 0 < outstanding d (journal S settings system calls) →
      (Context.unload S d).run (context S settings system calls) =
        ⟨.error .notLoaded, context S settings system calls, []⟩) := by
  have kept := (accounted S settings system calls).kept
  have loaded : d ∈ (context S settings system calls).modules.descriptors ↔
      0 < outstanding d (journal S settings system calls) := by
    rw [← holdings_account, Int.natCast_pos, List.count_pos_iff]
    exact (ModuleTable.mem_holdings kept).symm
  have refused : ¬ 0 < outstanding d (journal S settings system calls) →
      (Context.unload S d).run (context S settings system calls) =
        ⟨.error .notLoaded, context S settings system calls, []⟩ := by
    intro none
    rw [Context.unload, Context.onHost_run, Host.unload_missing kept (mt loaded.mp none)]
  refine ⟨loaded, ⟨fun answer => ?_, fun some => ?_⟩, fun some => ?_, refused⟩
  · by_contra none
    rw [refused none] at answer
    cases answer
  · exact (Host.unload_loaded kept (loaded.mpr some)).1
  · exact (Host.unload_loaded kept (loaded.mpr some)).2.closes_one

/-- Two modules that export one descriptor. -/
def twins : Catalog := .ofModules (.ofEncoders id) [.working 97 1 0, .working 98 2 0]

/-- Both are loaded, and their descriptor is unloaded once. -/
def oneOfTwo : List (Call Catalog) := [.load ⟨[97]⟩, .load ⟨[98]⟩, .unload ⟨0⟩]

/-- One reference is outstanding. The descriptor can be unloaded, and another one cannot. -/
theorem one_of_two_outstanding :
    outstanding ⟨0⟩ (journal Catalog.surroundings .standard twins oneOfTwo) = 1 ∧
      ((Context.unload Catalog.surroundings ⟨0⟩).run
        (context Catalog.surroundings .standard twins oneOfTwo)).value = .ok () ∧
      ((Context.unload Catalog.surroundings ⟨1⟩).run
        (context Catalog.surroundings .standard twins oneOfTwo)).events = [] := by
  have one : outstanding ⟨0⟩ (journal Catalog.surroundings .standard twins oneOfTwo) = 1 := rfl
  have none : ¬ 0 < outstanding ⟨1⟩ (journal Catalog.surroundings .standard twins oneOfTwo) := by
    decide
  obtain ⟨_, unloads, _⟩ :=
    references_accounted Catalog.surroundings .standard twins oneOfTwo ⟨0⟩
  obtain ⟨_, _, _, refused⟩ :=
    references_accounted Catalog.surroundings .standard twins oneOfTwo ⟨1⟩
  exact ⟨one, unloads.mpr (by rw [one]; decide), by rw [refused none]⟩

end Run
end CodecHost
