import CodecHost.Proofs.HookSafety
import CodecHost.Proofs.RegistryOrder
import CodecHost.Proofs.TeardownOrder

/-! What it comes to when all modules are unloaded, in whatever order their references are
given back. What then remains of the registry is known beforehand, and so is what has to happen
on the way: the end hooks of the tables that go, and a close for each reference. Every unloading
does a part of this and leaves the rest due. -/
namespace CodecHost

open Ledger

variable {σ : Type} {S : Surroundings σ} {settings : Settings} {P : List Event → σ → Prop}
  {table : List Event → Descriptor → Option Plugin} {ends : List Event → Descriptor → Bool}
  {past events later : List Event} {d : Descriptor} {p : Plugin}

/-- While a reference is open, the function table that its descriptor leads to has an end hook or
has none, and this does not change. -/
def Surroundings.SteadyEnds (S : Surroundings σ) (P : List Event → σ → Prop)
    (ends : List Event → Descriptor → Bool) : Prop :=
  ∀ past s, P past s → ∀ earlier h d, OpenSince earlier past h d →
    ∀ p, (S.memory s).plugin? d = some p → (S.memory s).hasEnd p = ends earlier d

namespace Registry

variable {m m' : Memory} {r next : Registry} {tables others : List Plugin} {was : Bool}
  {hooks : List Event}

/-- The end hooks that are due when these tables go. -/
def hooksDue (m : Memory) (tables : List Plugin) (r : Registry) : List Event :=
  (r.plugins.filter fun p => decide (p ∈ tables)).flatMap (endHooks m)

/-- The registry without these tables. -/
def without (tables : List Plugin) (r : Registry) : Registry :=
  r.keep fun p => decide (p ∉ tables)

theorem plugins_without : (r.without tables).plugins =
    r.plugins.filter fun p => decide (p ∉ tables) := plugins_keep _

theorem without_nil : r.without [] = r := by
  simp [without]

theorem hooksDue_nil : r.hooksDue m [] = [] := by
  simp [hooksDue]

theorem hooksDue_congr (ends : ∀ p ∈ tables, m.hasEnd p = m'.hasEnd p) :
    r.hooksDue m tables = r.hooksDue m' tables := by
  refine List.flatMap_congr fun p member => ?_
  have listed : p ∈ tables := by simpa using (List.mem_filter.mp member).2
  rw [endHooks, endHooks, ends p listed]

theorem deeds_endHooks : deeds (endHooks m p) = endHooks m p := by
  refine List.filter_eq_self.mpr fun e member => ?_
  rw [mem_endHooks member]
  rfl

/-- A module that is unregistered takes its own table with it, and the others are still due. -/
theorem Unregistering.settles (unregistering : Unregistering m d r ⟨was, next, hooks⟩)
    (single : r.plugins.Nodup) (split : ∀ p, p ∈ tables ↔ m.plugin? d = some p ∨ p ∈ others) :
    next.without others = r.without tables ∧
      (deeds hooks ++ next.hooksDue m others).Perm (r.hooksDue m tables) := by
  constructor
  · apply plugins_injective
    rw [plugins_without, plugins_without, show next = _ from unregistering.remainder single,
      plugins_keep, List.filter_filter]
    refine List.filter_congr fun q _ => ?_
    simp only [split, not_or, Bool.decide_and, decide_not]
    exact Bool.and_comm _ _
  · cases unregistering with
    | absent notices idle =>
      rw [deeds_notices, List.nil_append, hooksDue, hooksDue]
      refine .of_eq (congrArg (List.flatMap _) (List.filter_congr fun q active => ?_))
      have other : m.plugin? d ≠ some q := fun leads => idle q leads active
      simp [split, other]
    | @removed p _ n leads active left =>
      have own : p ∈ tables := (split p).mpr (.inl leads)
      rw [deeds_append, deeds_endHooks, deeds_notice, List.append_nil, hooksDue, left]
      have rest : (r.plugins.erase p).filter (fun q => decide (q ∈ others)) =
          (r.plugins.erase p).filter fun q => decide (q ∈ tables) := by
        refine List.filter_congr fun q member => ?_
        have differ : p ≠ q := (single.mem_erase_iff.mp member).1.symm
        simp [split, leads, differ]
      have first : (p :: r.plugins.erase p).filter (fun q => decide (q ∈ tables)) =
          p :: (r.plugins.erase p).filter fun q => decide (q ∈ tables) :=
        List.filter_cons_of_pos (decide_eq_true own)
      rw [rest, ← List.flatMap_cons, ← first]
      exact ((List.perm_cons_erase active).symm.filter _).flatMap_right _

end Registry

namespace Host

variable {host middle last : Host σ} {record : Record}

/-- What remains of the registry when all modules are unloaded. -/
def remainder (S : Surroundings σ) (host : Host σ) : Registry :=
  host.registry.without (host.tables S)

/-- What has to happen until all modules are unloaded: the hooks of their tables that are active,
and a close for every reference. -/
def dues (S : Surroundings σ) (host : Host σ) : List Event :=
  host.registry.hooksDue (S.memory host.system) (host.tables S) ++ host.modules.handles.map .closed

/-- A part of the dues is done, and the rest is due still. -/
structure Settles (S : Surroundings σ) (host : Host σ) (events : List Event) (last : Host σ) :
    Prop where
  remainder : last.remainder S = host.remainder S
  dues : (deeds events ++ last.dues S).Perm (host.dues S)

namespace Settles

theorem refl (host : Host σ) : Settles S host [] host := ⟨rfl, .refl _⟩

theorem trans (first : Settles S host events middle) (second : Settles S middle later last) :
    Settles S host (events ++ later) last := by
  refine ⟨second.remainder.trans first.remainder, ?_⟩
  rw [deeds_append, List.append_assoc]
  exact (second.dues.append_left _).trans first.dues

/-- What goes to the log settles nothing. -/
theorem noted (settles : Settles S host events last) (n : Notice) :
    Settles S host (events ++ [.notice n]) last :=
  settles.trans ⟨rfl, .refl _⟩

/-- Everything is settled when the table is empty. -/
theorem emptied (settles : Settles S host events last) (empty : last.modules = .empty) :
    last.registry = host.remainder S ∧ (deeds events).Perm (host.dues S) := by
  have tables : last.tables S = [] := by
    rw [tables, empty]
    rfl
  have none : last.dues S = [] := by
    rw [Host.dues, tables, empty, Registry.hooksDue_nil]
    rfl
  have all := settles.remainder
  rw [Host.remainder, tables, Registry.without_nil] at all
  exact ⟨all, by simpa [none] using settles.dues⟩

end Settles

/-- What the tables of a later host lead to is what it was before. -/
structure Reads (S : Surroundings σ) (host last : Host σ) : Prop where
  leads : ∀ r ∈ last.modules.records, (S.memory last.system).plugin? r.descriptor =
    (S.memory host.system).plugin? r.descriptor
  ends : ∀ p ∈ last.tables S, (S.memory last.system).hasEnd p = (S.memory host.system).hasEnd p

/-- A move that opens nothing leaves modules open that lead to what they led to. -/
theorem Anchored.reads (anchored : host.Anchored P past)
    (later : last.Anchored P (past ++ events)) (orderly : OpensFirst events)
    (steady : S.Steady P table) (hasEnds : S.SteadyEnds P ends)
    (continued : ∀ new ∈ last.modules.records, ∃ old ∈ host.modules.records, old.Continues new) :
    Reads S host last := by
  have leads : ∀ r ∈ last.modules.records, (S.memory last.system).plugin? r.descriptor =
      (S.memory host.system).plugin? r.descriptor := by
    intro new member
    obtain ⟨old, there, continues⟩ := continued new member
    exact anchored.reading later orderly steady there continues member
  refine ⟨leads, fun p listed => ?_⟩
  obtain ⟨new, member, now⟩ := List.mem_filterMap.mp listed
  obtain ⟨old, there, continues⟩ := continued new member
  obtain ⟨earlier, h, oldest, since⟩ := anchored.anchors old there
  have before : (S.memory host.system).plugin? old.descriptor = some p := by
    rw [← continues.descriptor, ← leads new member, now]
  have held : h ∈ new.handles := List.mem_of_head? (continues.oldest.trans oldest)
  have still : OpenSince earlier (past ++ events) h old.descriptor :=
    since.append later.books (List.mem_flatMap.mpr ⟨new, member, held⟩) orderly
  rw [continues.descriptor] at now
  rw [hasEnds _ _ anchored.holds _ _ _ since p before,
    hasEnds _ _ later.holds _ _ _ still p now]

theorem Reads.tables (reads : Reads S host last) :
    last.tables S = last.modules.records.filterMap fun r =>
      (S.memory host.system).plugin? r.descriptor := List.filterMap_congr reads.leads

/-- References are closed and nothing else of what is due is done. -/
theorem Reads.settles (reads : Reads S host last) (hooks : List Event) (closed : List Handle)
    (rest : last.registry.without (last.tables S) = host.registry.without (host.tables S))
    (due : (deeds hooks ++ last.registry.hooksDue (S.memory host.system) (last.tables S)).Perm
      (host.registry.hooksDue (S.memory host.system) (host.tables S)))
    (handles : host.modules.handles.Perm (closed ++ last.modules.handles))
    (told : deeds events = deeds hooks ++ closed.map .closed) : Settles S host events last := by
  refine ⟨rest, ?_⟩
  rw [Registry.hooksDue_congr fun p listed => (reads.ends p listed).symm] at due
  have closes := handles.map Event.closed
  rw [List.map_append] at closes
  rw [told, dues, dues, List.append_assoc]
  refine .trans (.append_left _ ?_) (List.append_assoc .. ▸ due.append closes.symm)
  rw [← List.append_assoc, ← List.append_assoc]
  exact List.perm_append_comm.append_right _

/-- A record goes with its module, and all its references are closed. -/
theorem Reads.left {was : Bool} {hooks : List Event} (reads : Reads S host last)
    (single : host.registry.plugins.Nodup)
    (unregistering : Registry.Unregistering (S.memory host.system) record.descriptor host.registry
      ⟨was, last.registry, hooks⟩)
    (moved : host.modules.records.Perm (record :: last.modules.records))
    (told : deeds events = deeds hooks ++ record.handles.map .closed) :
    Settles S host events last := by
  have split : ∀ p, p ∈ host.tables S ↔
      (S.memory host.system).plugin? record.descriptor = some p ∨ p ∈ last.tables S := by
    intro p
    have tables := moved.filterMap fun r => (S.memory host.system).plugin? r.descriptor
    rw [Host.tables, tables.mem_iff, reads.tables]
    simp
  obtain ⟨rest, due⟩ := unregistering.settles single split
  exact reads.settles hooks record.handles rest due (moved.flatMap_right _) told

/-- Unloading does a part of what is due. -/
theorem Unloading.settles (keeps : S.Keeps P) (steady : S.Steady P table)
    (hasEnds : S.SteadyEnds P ends) (guarded : host.Guarded settings S P table past)
    (unloading : Unloading S d host events last) : Settles S host events last := by
  have move : Move S host events last := .unloading unloading
  have later := move.anchored keeps guarded.toAnchored
  have reads := guarded.toAnchored.reads later move.opensFirst steady hasEnds
    fun _ member => unloading.records member
  cases unloading with
  | @released record before after kept handle found exports first handles others =>
    have unchanged : host.tables S =
        (before ++ { record with handles := kept } :: after).filterMap fun r =>
          (S.memory host.system).plugin? r.descriptor := by
      simp only [Host.tables, found, List.filterMap_append, List.filterMap_cons]
    have tables := reads.tables.trans unchanged.symm
    refine reads.settles [] [handle] ?_ ?_ ?_ rfl
    · rw [tables]
    · rw [tables]
      exact .refl _
    · refine (ModuleTable.handles_split found).trans ?_
      rw [handles, List.append_assoc]
      refine List.perm_middle.trans ?_
      exact ((ModuleTable.handles_middle before { record with handles := kept } after).symm).cons _
  | @removed record before after handle was registry hooks found exports first handles
      unregistering =>
    have moved : host.modules.records.Perm
        (record :: ModuleTable.swapRemove host.modules.records before.length) := by
      rw [found]
      exact List.perm_middle.trans
        ((ModuleTable.swapRemove_perm before record after).symm.cons record)
    subst exports
    refine reads.left guarded.single unregistering moved ?_
    rw [deeds_append, deeds_append, deeds_notice, List.append_nil, handles]
    rfl

/-- So does a record that is forced out. -/
theorem settles_forced (keeps : S.Keeps P) (steady : S.Steady P table)
    (hasEnds : S.SteadyEnds P ends) {rest : List Record} {was : Bool} {registry : Registry}
    {hooks : List Event} (guarded : host.Guarded settings S P table past)
    (found : host.modules.records = record :: rest)
    (unregistering : Registry.Unregistering (S.memory host.system) record.descriptor host.registry
      ⟨was, registry, hooks⟩) :
    Settles S host (hooks ++ record.handles.map .closed)
      ⟨registry, ⟨rest⟩, closeAll S record.handles host.system⟩ := by
  have move : Move S host _ _ := .forced found unregistering
  have later := move.anchored keeps guarded.toAnchored
  have reads := guarded.toAnchored.reads later move.opensFirst steady hasEnds
    fun new member => ⟨new, by simp [found, member], .refl new⟩
  apply reads.left guarded.single unregistering (.of_eq found)
  rw [deeds_append, deeds_closed]

end Host
end CodecHost
