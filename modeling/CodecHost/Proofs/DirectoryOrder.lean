import CodecHost.Proofs.EncoderRanks
import CodecHost.Proofs.PredictedLoads
import Mathlib

/-! In which order a directory lists its entries matters to nothing but the order of what
comes of it. With a loader that always does the same, scanning a directory in two orders
loads the same number of modules, with the same references on each, and makes the same
plugins active, in an order in which no format is served better or worse. -/
namespace CodecHost

variable {σ : Type} {S : Surroundings σ} {settings : Settings} {P : List Event → σ → Prop}
  {past : List Event} {lib : Library} {listing reordered : σ → Path → Listing}

/-- The same surroundings with other directories. -/
def Surroundings.withListing (S : Surroundings σ) (listing : σ → Path → Listing) :
    Surroundings σ :=
  { S with listing }

theorem Surroundings.Keeps.withListing (keeps : S.Keeps P) : (S.withListing listing).Keeps P :=
  ⟨keeps.opening, keeps.failing, keeps.resolving, keeps.closing, keeps.hosting⟩

theorem Surroundings.Serves.withListing (serves : S.Serves settings P lib) :
    (S.withListing listing).Serves settings P lib :=
  ⟨serves.opening, serves.resolving, serves.reading.info, serves.reading.tables⟩

namespace Host

variable {host a b : Host σ} {table : List Event → Descriptor → Option Plugin}

theorem guarded_withListing :
    host.Guarded settings (S.withListing listing) P table past ↔
      host.Guarded settings S P table past :=
  ⟨fun guarded => ⟨guarded.toAnchored, guarded.single, guarded.known, guarded.hooks⟩,
    fun guarded => ⟨guarded.toAnchored, guarded.single, guarded.known, guarded.hooks⟩⟩

/-- Two hosts hold the same, at most in another order, and find equally good plugins. -/
structure Reordered (S : Surroundings σ) (a b : Host σ) : Prop where
  inventory : a.modules.inventory.Perm b.modules.inventory
  encoders : a.registry.encoders.Perm b.registry.encoders
  decoders : a.registry.decoders.Perm b.registry.decoders
  priorities : a.registry.priorities (S.memory a.system) = b.registry.priorities (S.memory b.system)
  encoder : ∀ format, a.registry.foundPriority (S.memory a.system) format =
    b.registry.foundPriority (S.memory b.system) format
  decoder : ∀ format, a.registry.foundLevel (S.memory a.system) format =
    b.registry.foundLevel (S.memory b.system) format

/-- What is active reads as the library says. -/
theorem Guarded.reads (serves : S.Serves settings P lib)
    (guarded : host.Guarded settings S P (fun _ => lib.memory.plugin?) past) :
    ∀ p ∈ host.registry.plugins, (S.memory host.system).Agree lib.memory p := fun p active =>
  serves.reading.tables _ _ guarded.holds p (guarded.in_place serves.steady active)

/-- Hosts with the same stock hold the same. -/
theorem reordered_of_stock {later : List Event} (serves : S.Serves settings P lib)
    (first : a.Guarded settings S P (fun _ => lib.memory.plugin?) past)
    (second : b.Guarded settings S P (fun _ => lib.memory.plugin?) later)
    (sorted : a.registry.Sorted lib.memory) (sortedToo : b.registry.Sorted lib.memory)
    (same : a.stock = b.stock) : Reordered S a b := by
  have active : a.registry.plugins.Perm b.registry.plugins := by
    refine (List.perm_ext_iff_of_nodup first.single second.single).mpr fun p => ?_
    exact Set.ext_iff.mp (congrArg Stock.active same) p
  obtain ⟨encoders, decoders⟩ := Registry.lists_perm active
  obtain ⟨priorities, encoder, decoder⟩ := Registry.found_congr (first.reads serves)
  obtain ⟨prioritiesToo, encoderToo, decoderToo⟩ := Registry.found_congr (second.reads serves)
  refine ⟨first.kept.inventory_perm second.kept (congrArg Stock.tally same), encoders, decoders,
    ?_, fun format => ?_, fun format => ?_⟩
  · rw [← priorities, ← prioritiesToo]
    exact Registry.priorities_perm encoders sorted sortedToo
  · rw [← encoder, ← encoderToo]
    exact Registry.foundPriority_perm encoders sorted sortedToo format
  · rw [← decoder, ← decoderToo]
    exact Registry.foundLevel_perm decoders format

/-- What a scan comes to: it opens the modules of its entries in the stock, and counts those
that answer. -/
theorem loadDirectory_stock (keeps : S.Keeps P) (serves : S.Serves settings P lib)
    (guarded : host.Guarded settings S P (fun _ => lib.memory.plugin?) past) {directory : Path}
    {entries : List DirEntry} (lists : S.listing host.system directory = .ok entries)
    (buffer : Option Scan.Buffer) :
    ((loadDirectory S directory buffer).run host).value.1 =
        .ok (((entries.filterMap (Scan.candidate? directory)).filterMap lib.opens).filterMap
          (host.stock.answer? lib)).length ∧
      ((loadDirectory S directory buffer).run host).state.stock =
        ((entries.filterMap (Scan.candidate? directory)).filterMap lib.opens).foldl
          (Stock.opened lib) host.stock := by
  obtain ⟨state, _⟩ := loadDirectory_each (S := S) directory buffer host
  obtain ⟨answers, stock⟩ := loadEach_stock keeps serves guarded
    (entries.filterMap (Scan.candidate? directory))
  rw [← scanEach_listed lists] at answers stock
  constructor
  · rw [loadDirectory_records lists, answers]
  · rw [state, stock]

/-- A scan keeps the encoders sorted, whatever the directory lists. -/
theorem loadDirectory_sorted (keeps : S.Keeps P) (serves : S.Serves settings P lib)
    (guarded : host.Guarded settings S P (fun _ => lib.memory.plugin?) past)
    (sorted : host.registry.Sorted lib.memory) (listing : σ → Path → Listing) (directory : Path)
    (buffer : Option Scan.Buffer) :
    let last := ((loadDirectory (S.withListing listing) directory buffer).run host).state
    ∃ past, last.Guarded settings S P (fun _ => lib.memory.plugin?) past ∧
      last.registry.Sorted lib.memory := by
  have loads : Loads (S.withListing listing)
      (loadDirectory (S.withListing listing) directory buffer) := loads_loadDirectory _ _
  have kept := loads.sorted keeps.withListing serves.withListing.steady serves.withListing.reading
    _ _ ⟨guarded_withListing.mpr guarded, sorted⟩
  exact ⟨_, guarded_withListing.mp kept.1, kept.2⟩

end Host

namespace Run

variable {system : σ} {calls : List (Call σ)} {directory : Path} {entries others : List DirEntry}

/-- **The order of a directory does not matter.** Let the loader always do the same: a path opens
one module or never opens, and a module exports one descriptor or none. In every reachable
context, scanning a directory whose entries are listed in two orders answers the same number both
times, and leaves the same modules with the same descriptors and as many references, the same
encoders and decoders active, and the same sequence of priorities. So for every format the
encoders that are found are of one priority, and the decoders of one support level. -/
theorem directory_order_irrelevant (within : Within S system calls P)
    (serves : S.Serves settings P lib)
    (lists : listing (context S settings system calls).host.system directory = .ok entries)
    (reorders : reordered (context S settings system calls).host.system directory = .ok others)
    (same : entries.Perm others) (buffer buffer' : Option Scan.Buffer) :
    let one := (Context.loadDirectory (S.withListing listing) directory buffer).run
      (context S settings system calls)
    let other := (Context.loadDirectory (S.withListing reordered) directory buffer').run
      (context S settings system calls)
    (∃ count, one.value.1 = .ok count ∧ other.value.1 = .ok count) ∧
      Host.Reordered S one.state.host other.state.host := by
  have guarded := guarded settings within serves.steady
  have sorted : (context S settings system calls).registry.Sorted lib.memory :=
    encoders_sorted within serves.steady serves.reading
  obtain ⟨count, stock⟩ := Host.loadDirectory_stock within.loading.withListing
    serves.withListing (Host.guarded_withListing.mpr guarded) lists buffer
  obtain ⟨count', stock'⟩ := Host.loadDirectory_stock within.loading.withListing
    serves.withListing (Host.guarded_withListing.mpr guarded) reorders buffer'
  obtain ⟨_, first, sortedFirst⟩ := Host.loadDirectory_sorted within.loading serves guarded sorted
    listing directory buffer
  obtain ⟨_, second, sortedSecond⟩ := Host.loadDirectory_sorted within.loading serves guarded
    sorted reordered directory buffer'
  have opened := (same.filterMap (Scan.candidate? directory)).filterMap lib.opens
  refine ⟨⟨_, count, count'.trans ?_⟩, ?_⟩
  · rw [(opened.filterMap _).length_eq]
  · apply Host.reordered_of_stock serves first second sortedFirst sortedSecond
    rw [stock, stock']
    exact opened.foldl_eq' (fun _ _ _ _ _ => Stock.opened_comm) _

/-- Three modules. One of them has two names in the directory, and one is not there. -/
def shelved : List DeclaredModule :=
  [⟨⟨[112, 47, 97, 46, 115, 111]⟩, ⟨1⟩, some ⟨0⟩, none, none⟩,
    ⟨⟨[112, 47, 98, 46, 115, 111]⟩, ⟨1⟩, some ⟨0⟩, none, none⟩,
    ⟨⟨[112, 47, 99, 46, 115, 111]⟩, ⟨2⟩, some ⟨1⟩, none, none⟩,
    .working 100 3 2]

/-- The names in the directory. -/
def shelf : List DirEntry :=
  [.named [97, 46, 115, 111] (.ok .file), .named [98, 46, 115, 111] (.ok .symlink),
    .named [99, 46, 115, 111] (.ok .file)]

/-- The directory lists these entries. -/
def lists (entries : List DirEntry) (_ : Catalog) (_ : Path) : Listing := .ok entries

/-- What a scan leaves when the module that is not there is loaded already. -/
def scanned (entries : List DirEntry) : Host Catalog :=
  ((Context.loadDirectory (Catalog.surroundings.withListing (lists entries)) ⟨[112]⟩ none).run
    (context Catalog.surroundings .standard (.ofModules (.ofEncoders id) shelved)
      [.load ⟨[100]⟩])).state.host

/-- Scanned backwards, the directory leaves the encoders in another order, and nothing else. -/
theorem shelf_backwards :
    Host.Reordered Catalog.surroundings (scanned shelf) (scanned shelf.reverse) ∧
      (scanned shelf).registry.encoders = [⟨2⟩, ⟨0⟩, ⟨1⟩] ∧
      (scanned shelf.reverse).registry.encoders = [⟨2⟩, ⟨1⟩, ⟨0⟩] := by
  have within : Within Catalog.surroundings (.ofModules (.ofEncoders id) shelved)
      [.load ⟨[100]⟩] (Catalog.Unaltered (.ofEncoders id) shelved) :=
    Catalog.within_unaltered (by simp [Alters, Call.flatAll, Call.flat])
  have consistent : Catalog.Consistent shelved := by
    unfold Catalog.Consistent
    decide
  have serves : Catalog.surroundings.Serves .standard
      (Catalog.Unaltered (.ofEncoders id) shelved) (Catalog.library (.ofEncoders id) shelved) :=
    Catalog.serves_declared .standard consistent
  have reads : ∀ entries, lists entries (context Catalog.surroundings .standard
      (.ofModules (.ofEncoders id) shelved) [.load ⟨[100]⟩]).host.system ⟨[112]⟩ = .ok entries :=
    fun _ => rfl
  obtain ⟨_, same⟩ := directory_order_irrelevant within serves (reads shelf)
    (reads shelf.reverse) (List.reverse_perm shelf).symm none none
  refine ⟨same, ?_, ?_⟩
  · cbv
  · cbv

end Run
end CodecHost
