import CodecHost.Proofs.BulkLoads
import CodecHost.Proofs.DirectoryOrder
import CodecHost.Proofs.ScanBuffers

/-! Scanning a directory again takes further references and does nothing else. With a loader
that always does the same, every module that the directory opens is settled after the first
scan: it is in the table, or the host cannot work with it. From then on no load of it brings
anything new, whatever names it has and whatever else was loaded between two of them. The same
descriptors come of the loads of both scans, and each scan records them in a buffer of its own,
whatever was in that. -/
namespace CodecHost

open Ledger

variable {σ : Type} {S : Surroundings σ} {settings : Settings} {P : List Event → σ → Prop}
  {past : List Event} {lib : Library} {i j : ModuleId} {h : Handle} {record : Record}

/-- Notices run no hook. -/
theorem Step.SameDeeds.hookless {α β : Type} {step : Step σ α} {other : Step σ β}
    (same : step.SameDeeds other) (hookless : ∀ e ∈ other.events, e.hook? = none) :
    ∀ e ∈ step.events, e.hook? = none := by
  intro e member
  by_cases quiet : e.notice?.isNone
  · have deed : e ∈ Ledger.deeds step.events := List.mem_filter.mpr ⟨member, quiet⟩
    rw [same.deeds] at deed
    exact hookless e (List.mem_filter.mp deed).1
  · cases e with
    | notice n => rfl
    | _ => exact absurd rfl quiet

namespace Stock

variable {stock : Stock}

/-- Opening the module brings nothing new: it is there, or the host cannot work with it. -/
def Settled (lib : Library) (stock : Stock) (i : ModuleId) : Prop :=
  stock.tally i = none → lib.offer? i = none

/-- A module is settled once it was opened. -/
theorem settled_opened : (stock.opened lib i).Settled lib i := by
  intro missing
  rw [tally_opened_self] at missing
  cases there : stock.tally i with
  | some entry =>
    rw [there] at missing
    cases missing
  | none =>
    rw [there, Library.raised] at missing
    exact Option.map_eq_none_iff.mp missing

theorem Settled.opened (settled : stock.Settled lib j) : (stock.opened lib i).Settled lib j := by
  by_cases same : j = i
  · rw [same]
    exact settled_opened
  · intro missing
    rw [tally_opened_ne same] at missing
    exact settled missing

theorem Settled.opened_all (settled : stock.Settled lib j) (ids : List ModuleId) :
    (ids.foldl (Stock.opened lib) stock).Settled lib j := by
  induction ids generalizing stock with
  | nil => exact settled
  | cons first rest ih => exact ih settled.opened

/-- After some modules were opened they are all settled. -/
theorem settled_opened_all {ids : List ModuleId} (listed : i ∈ ids) :
    (ids.foldl (Stock.opened lib) stock).Settled lib i := by
  induction ids generalizing stock with
  | nil => cases listed
  | cons first rest ih =>
    rcases List.mem_cons.mp listed with rfl | later
    · exact settled_opened.opened_all rest
    · exact ih later

/-- After some modules were opened every load answers what it would have answered before. -/
theorem answer?_opened_all (ids : List ModuleId) :
    (ids.foldl (Stock.opened lib) stock).answer? lib = stock.answer? lib := by
  induction ids generalizing stock with
  | nil => rfl
  | cons first rest ih =>
    rw [List.foldl_cons, ih]
    exact funext fun _ => answer?_opened

end Stock

namespace ModuleTable

variable {t : ModuleTable}

/-- A module of the table with one more reference for each time that it is opened. -/
def reopened (ids : List ModuleId) : ModuleId × Descriptor × Nat → ModuleId × Descriptor × Nat
  | (i, d, count) => (i, d, count + ids.count i)

theorem reopened_append (ids others : List ModuleId) :
    reopened (ids ++ others) = reopened others ∘ reopened ids := by
  funext ⟨i, d, count⟩
  simp only [reopened, Function.comp_apply, List.count_append, Nat.add_assoc]

theorem inventory_reopened_none (t : ModuleTable) :
    t.inventory.map (reopened []) = t.inventory := by
  refine List.map_id'' ?_ _
  exact fun _ => rfl

/-- A module that is not in the table adds nothing when it is opened. -/
theorem inventory_unknown (new : t.record? i = none) :
    t.inventory.map (reopened [i]) = t.inventory := by
  rw [inventory, List.map_map]
  refine List.map_congr_left fun record listed => ?_
  have other : record.id ≠ i := by simpa using List.find?_eq_none.mp new record listed
  simp [reopened, Ne.symm other]

/-- Another reference on a module is one reference more, and the table is otherwise the same. -/
theorem inventory_attach (kept : t.WellKept) (tracked : t.record? h.id = some record) :
    (t.attach h).inventory = t.inventory.map (reopened [h.id]) := by
  obtain ⟨own, before, after, split, attached⟩ := attach_split tracked
  have distinct := kept.distinct
  rw [split, List.map_append, List.map_cons, List.nodup_middle] at distinct
  have others : ∀ r ∈ before ++ after, h.id ≠ r.id := by
    intro r listed same
    apply (List.nodup_cons.mp distinct).1
    rw [own, same, ← List.map_append]
    exact List.mem_map_of_mem listed
  rw [attached, inventory, inventory, split]
  simp only [List.map_append, List.map_cons, List.map_map]
  congr 1
  · refine List.map_congr_left fun r listed => ?_
    have apart := others r (List.mem_append_left _ listed)
    simp [reopened, apart]
  · congr 1
    · simp [reopened, own, Record.openCount]
    · refine List.map_congr_left fun r listed => ?_
      have apart := others r (List.mem_append_right _ listed)
      simp [reopened, apart]

theorem descriptors_eq (t : ModuleTable) : t.descriptors = t.inventory.map (·.2.1) := by
  rw [inventory, List.map_map]
  rfl

/-- Further references leave the descriptors as they are. -/
theorem descriptors_reopened {t' : ModuleTable} {ids : List ModuleId}
    (raised : t'.inventory = t.inventory.map (reopened ids)) : t'.descriptors = t.descriptors := by
  rw [descriptors_eq, descriptors_eq, raised, List.map_map]
  rfl

end ModuleTable

namespace Host

variable {host : Host σ} {directory : Path} {entries : List DirEntry}

/-- All that becomes of a host are further references on its modules. -/
structure Reopened (ids : List ModuleId) (host : Host σ) {α : Type} (step : Step (Host σ) α) :
    Prop where
  registry : step.state.registry = host.registry
  inventory : step.state.modules.inventory = host.modules.inventory.map (ModuleTable.reopened ids)
  hookless : ∀ e ∈ step.events, e.hook? = none

/-- Loading a module that is settled takes another reference on it, or none. -/
theorem load_settled (keeps : S.Keeps P) (serves : S.Serves settings P lib)
    (guarded : host.Guarded settings S P (fun _ => lib.memory.plugin?) past) {path : Path}
    (settled : ∀ i, lib.opens path = some i → host.stock.Settled lib i) :
    Reopened (lib.opens path).toList host ((load S path).run host) := by
  obtain ⟨answers, _⟩ := load_stock keeps serves guarded path
  have ends := load_ends S path host
  generalize (load S path).run host = step at ends answers ⊢
  have opens := serves.opening path guarded.holds
  cases ends with
  | refused refusal =>
    refine ⟨rfl, ?_, refusal.hookless⟩
    rcases refusal.useless keeps serves guarded with unopened | ⟨i, opened, new, _⟩
    · rw [unopened]
      exact (ModuleTable.inventory_reopened_none _).symm
    · rw [opened]
      exact (ModuleTable.inventory_unknown (Option.map_eq_none_iff.mp new)).symm
  | @attached handle record system opening tracked =>
    rw [opening] at opens
    refine ⟨rfl, ?_, by simp [Event.hook?]⟩
    rw [← opens]
    exact ModuleTable.inventory_attach guarded.kept tracked
  | @entered handle d system resolved registry hooks opening new resolving registering =>
    -- A new module that is of use is not settled.
    rw [opening] at opens
    have useless := settled handle.id opens.symm (stock_untracked new)
    rw [← opens] at answers
    have silent : host.stock.answer? lib handle.id = none :=
      (Stock.opened_refused (stock_untracked new) useless).2
    cases answers.trans silent

/-- Loading modules that are settled takes a reference for each path that opens one of them. -/
theorem loadEach_settled (keeps : S.Keeps P) (serves : S.Serves settings P lib)
    (guarded : host.Guarded settings S P (fun _ => lib.memory.plugin?) past) {paths : List Path}
    (settled : ∀ i ∈ paths.filterMap lib.opens, host.stock.Settled lib i) :
    Reopened (paths.filterMap lib.opens) host ((loadEach S paths).run host) := by
  induction paths generalizing past host with
  | nil => exact ⟨rfl, (ModuleTable.inventory_reopened_none _).symm, nofun⟩
  | cons path rest ih =>
    obtain ⟨_, stock⟩ := load_stock keeps serves guarded path
    have first : ∀ i, lib.opens path = some i → host.stock.Settled lib i := by
      intro i opens
      exact settled i (List.mem_filterMap.mpr ⟨path, List.mem_cons_self, opens⟩)
    have later := (loads_load path).guarded keeps serves.steady past host guarded
    have still : ∀ i ∈ rest.filterMap lib.opens,
        ((load S path).run host).state.stock.Settled lib i := by
      intro i listed
      obtain ⟨other, there, opens⟩ := List.mem_filterMap.mp listed
      have before := settled i
        (List.mem_filterMap.mpr ⟨other, List.mem_cons_of_mem _ there, opens⟩)
      rw [stock]
      cases lib.opens path with
      | none => exact before
      | some opened => exact before.opened
    obtain ⟨registry, inventory, hookless⟩ := load_settled keeps serves guarded first
    obtain ⟨registry', inventory', hookless'⟩ := ih later still
    have ids : (path :: rest).filterMap lib.opens =
        (lib.opens path).toList ++ rest.filterMap lib.opens := by
      cases opens : lib.opens path <;> simp [opens]
    simp only [loadEach, Action.run_bind, Action.run_pure, List.append_nil]
    refine ⟨registry'.trans registry, ?_, ?_⟩
    · rw [inventory', inventory, ids, ModuleTable.reopened_append, List.map_map]
    · intro e member
      rcases List.mem_append.mp member with early | late
      · exact hookless e early
      · exact hookless' e late

/-- Both scans load the same paths, and the same descriptors come of that. The first scan settles
the modules that they open. -/
theorem loadDirectory_again (keeps : S.Keeps P) (serves : S.Serves settings P lib)
    (guarded : host.Guarded settings S P (fun _ => lib.memory.plugin?) past)
    (lists : S.listing host.system directory = .ok entries) (buffer buffer' : Option Scan.Buffer) :
    let paths := entries.filterMap (Scan.candidate? directory)
    let first := (loadDirectory S directory buffer).run host
    let second := (loadDirectory S directory buffer').run first.state
    S.listing first.state.system directory = .ok entries →
    Reopened (paths.filterMap lib.opens) first.state second ∧
    loaded ((loadEach S paths).run first.state).value =
      loaded ((loadEach S paths).run host).value := by
  intro paths first second lists'
  have later : first.state.Guarded settings S P (fun _ => lib.memory.plugin?) _ :=
    (loads_loadDirectory directory buffer).guarded keeps serves.steady past host guarded
  have stock : first.state.stock = _ := (loadDirectory_stock keeps serves guarded lists buffer).2
  constructor
  · have settled : ∀ i ∈ paths.filterMap lib.opens, first.state.stock.Settled lib i := by
      intro i opened
      rw [stock]
      exact Stock.settled_opened_all opened
    obtain ⟨registry, inventory, hookless⟩ := loadEach_settled keeps serves later settled
    have same := loadDirectory_each (S := S) directory buffer' first.state
    have left : second.state = _ := same.state
    rw [← scanEach_listed lists'] at registry inventory hookless
    exact ⟨by rw [left, registry], by rw [left, inventory], same.hookless hookless⟩
  · rw [(loadEach_stock keeps serves later paths).1, (loadEach_stock keeps serves guarded paths).1,
      stock, Stock.answer?_opened_all]

end Host

namespace Run

variable {system : σ} {calls : List (Call σ)}

/-- The modules that the candidates in a directory open, one for each name. -/
def namedModules (S : Surroundings σ) (lib : Library) (s : σ) (directory : Path) : List ModuleId :=
  match S.listing s directory with
  | .error _ => []
  | .ok entries => (entries.filterMap (Scan.candidate? directory)).filterMap lib.opens

/-- **A repeated scan only adds references.** Let the loader always do the same: a path opens one
module or never opens, and a module exports one descriptor or none. In every reachable context a
directory may be scanned twice, with any two buffers, however many slots they have and whatever is
in them. If the directory has not changed in between, the second scan answers the same. When the
directory can be opened, that is how many loads of its candidates succeed, one after the other,
and those that succeed the second time answer the same descriptors. Both scans record these, in
their order: a buffer holds as many of them as it has slots for, an empty slot behind them, and
behind that whatever it held. A directory that cannot be opened is an error both times and touches
no buffer. The second scan runs no hook and leaves the encoders, the decoders and the list of
loaded descriptors as they are. Each module in the table gains a reference for every candidate in
the directory that opens it. -/
theorem repeated_scan_adds_references (within : Within S system calls P)
    (serves : S.Serves settings P lib) (directory : Path) (buffer buffer' : Option Scan.Buffer) :
    let c := context S settings system calls
    let first := (Context.loadDirectory S directory buffer).run c
    let second := (Context.loadDirectory S directory buffer').run first.state
    S.listing first.state.host.system directory = S.listing c.host.system directory →
    second.value.1 = first.value.1 ∧
    (∀ entries, S.listing c.host.system directory = .ok entries →
      let loads := (entries.filterMap (Scan.candidate? directory)).mapM (Context.load S)
      let ds := loaded (loads.run c).value
      loaded (loads.run first.state).value = ds ∧
      first.value.1 = .ok ds.length ∧
      Option.Rel (Scan.Buffer.Holds ds) buffer first.value.2 ∧
      Option.Rel (Scan.Buffer.Holds ds) buffer' second.value.2) ∧
    (∀ cause, S.listing c.host.system directory = .error cause →
      first.value = (.error (.unreadableDirectory directory cause), buffer) ∧
      second.value = (.error (.unreadableDirectory directory cause), buffer')) ∧
    (∀ e ∈ second.events, e.hook? = none) ∧
    second.state.registry = first.state.registry ∧
    second.state.modules.descriptors = first.state.modules.descriptors ∧
    second.state.modules.inventory = first.state.modules.inventory.map
      (ModuleTable.reopened (namedModules S lib c.host.system directory)) := by
  intro c first second unchanged
  have guarded : c.host.Guarded settings S P (fun _ => lib.memory.plugin?) _ :=
    guarded settings within serves.steady
  cases lists : S.listing c.host.system directory with
  | error cause =>
    have once : first = _ := Context.loadDirectory_unreadable buffer lists
    have again : second = _ := Context.loadDirectory_unreadable buffer' (unchanged.trans lists)
    have named : namedModules S lib c.host.system directory = [] := by
      simp only [namedModules, lists]
    rw [again, named, once]
    refine ⟨rfl, nofun, ?_, nofun, rfl, rfl, ?_⟩
    · intro _ same
      cases same
      exact ⟨rfl, rfl⟩
    · exact (ModuleTable.inventory_reopened_none _).symm
  | ok entries =>
    have named : namedModules S lib c.host.system directory =
        (entries.filterMap (Scan.candidate? directory)).filterMap lib.opens := by
      simp only [namedModules, lists]
    obtain ⟨⟨registry, inventory, hookless⟩, answers⟩ := Host.loadDirectory_again within.loading
      serves guarded lists buffer buffer' (unchanged.trans lists)
    obtain ⟨_, once⟩ := Context.loadDirectory_loads buffer lists
    obtain ⟨_, again⟩ := Context.loadDirectory_loads buffer' (unchanged.trans lists)
    -- The loads of the second scan start from what the first one left, and come to the same.
    let loads := (entries.filterMap (Scan.candidate? directory)).mapM (Context.load S)
    have same : loaded (loads.run first.state).value = loaded (loads.run c).value := by
      simp only [loads, Context.mapM_load]
      exact answers
    have firstAnswer : first.value = (.ok (loaded (loads.run c).value).length, _) := once
    have secondAnswer : second.value =
        (.ok (loaded (loads.run first.state).value).length, _) := again
    rw [same] at secondAnswer
    rw [named, secondAnswer, firstAnswer]
    refine ⟨rfl, ?_, nofun, hookless, registry, ModuleTable.descriptors_reopened inventory,
      inventory⟩
    intro _ listed
    cases listed
    exact ⟨same, rfl, Scan.close_holds _ buffer, Scan.close_holds _ buffer'⟩

/-- A module with two names, a second one that exports the same, a third one that exports
something else, and one that exports nothing. -/
def stacked : List DeclaredModule :=
  [⟨⟨[112, 47, 97, 46, 115, 111]⟩, ⟨1⟩, some ⟨0⟩, none, none⟩,
    ⟨⟨[112, 47, 98, 46, 115, 111]⟩, ⟨1⟩, some ⟨0⟩, none, none⟩,
    ⟨⟨[112, 47, 99, 46, 115, 111]⟩, ⟨2⟩, some ⟨0⟩, none, none⟩,
    ⟨⟨[112, 47, 100, 46, 115, 111]⟩, ⟨3⟩, none, none, none⟩,
    ⟨⟨[112, 47, 101, 46, 115, 111]⟩, ⟨4⟩, some ⟨5⟩, none, none⟩]

/-- All five names are in the directory. -/
def stack : List DirEntry :=
  [.named [97, 46, 115, 111] (.ok .file), .named [101, 46, 115, 111] (.ok .file),
    .named [98, 46, 115, 111] (.ok .symlink), .named [100, 46, 115, 111] (.ok .file),
    .named [99, 46, 115, 111] (.ok .file)]

/-- The second module is loaded before the directory is scanned twice. The first one gains two
references each time, and the one that exports nothing fails each time. The first buffer has room
for all and keeps its last slot, and the second one is filled up by the first two. -/
theorem stack_scanned_twice :
    let S := Catalog.surroundings.withListing (lists stack)
    let c := context S .standard (.ofModules (.ofEncoders id) stacked)
      [.load ⟨[112, 47, 99, 46, 115, 111]⟩]
    let first := (Context.loadDirectory S ⟨[112]⟩
      (some [some ⟨7⟩, none, some ⟨8⟩, some ⟨9⟩, some ⟨6⟩, some ⟨3⟩])).run c
    let second := (Context.loadDirectory S ⟨[112]⟩ (some [some ⟨4⟩, none])).run first.state
    first.value = (.ok 4, some [some ⟨0⟩, some ⟨5⟩, some ⟨0⟩, some ⟨0⟩, none, some ⟨3⟩]) ∧
      second.value = (.ok 4, some [some ⟨0⟩, some ⟨5⟩]) ∧
      second.state.registry.encoders = [⟨0⟩, ⟨5⟩] ∧
      first.state.modules.inventory = [(⟨2⟩, ⟨0⟩, 2), (⟨1⟩, ⟨0⟩, 2), (⟨4⟩, ⟨5⟩, 1)] ∧
      second.state.modules.inventory = [(⟨2⟩, ⟨0⟩, 3), (⟨1⟩, ⟨0⟩, 4), (⟨4⟩, ⟨5⟩, 2)] := by
  intro S c first second
  have unaltered : Within Catalog.surroundings (.ofModules (.ofEncoders id) stacked)
      [.load ⟨[112, 47, 99, 46, 115, 111]⟩] (Catalog.Unaltered (.ofEncoders id) stacked) :=
    Catalog.within_unaltered (by simp [Alters, Call.flatAll, Call.flat])
  have within : Within S (.ofModules (.ofEncoders id) stacked)
      [.load ⟨[112, 47, 99, 46, 115, 111]⟩] (Catalog.Unaltered (.ofEncoders id) stacked) :=
    ⟨unaltered.start, unaltered.loading.withListing, unaltered.elsewhere⟩
  have consistent : Catalog.Consistent stacked := by
    unfold Catalog.Consistent
    decide
  have serves : S.Serves .standard (Catalog.Unaltered (.ofEncoders id) stacked)
      (Catalog.library (.ofEncoders id) stacked) :=
    (Catalog.serves_declared .standard consistent).withListing
  obtain ⟨answer, recorded, _, _, registry, _, inventory⟩ :=
    repeated_scan_adds_references within serves ⟨[112]⟩
      (some [some ⟨7⟩, none, some ⟨8⟩, some ⟨9⟩, some ⟨6⟩, some ⟨3⟩]) (some [some ⟨4⟩, none]) rfl
  obtain ⟨_, _, _, kept⟩ := recorded stack rfl
  have once : first.value =
      (.ok 4, some [some ⟨0⟩, some ⟨5⟩, some ⟨0⟩, some ⟨0⟩, none, some ⟨3⟩]) := by decide +kernel
  have there : first.state.modules.inventory =
      [(⟨2⟩, ⟨0⟩, 2), (⟨1⟩, ⟨0⟩, 2), (⟨4⟩, ⟨5⟩, 1)] := by decide +kernel
  have found : loaded (((stack.filterMap (Scan.candidate? ⟨[112]⟩)).mapM (Context.load S)).run
      c).value = [⟨0⟩, ⟨5⟩, ⟨0⟩, ⟨0⟩] := by decide +kernel
  have count : first.value.1 = .ok 4 := congrArg Prod.fst once
  rw [found] at kept
  refine ⟨once, Prod.ext ?_ ?_, ?_, there, ?_⟩
  · exact answer.trans count
  · exact (Scan.holds_some kept).trans (by decide)
  · refine (congrArg Registry.encoders registry).trans ?_
    decide +kernel
  · refine inventory.trans ?_
    rw [there]
    decide +kernel

end Run
end CodecHost
