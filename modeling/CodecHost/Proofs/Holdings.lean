import CodecHost.Proofs.HandleConservation

/-! The module table by descriptors. Several modules may export one descriptor, and
unloading finds a module by it, so that what counts for a descriptor are the references
on all of its modules together. Every load that answers with a descriptor adds one, and
every unloading takes one away. -/
namespace CodecHost

variable {σ : Type} {S : Surroundings σ} {settings : Settings} {past events : List Event}
  {d : Descriptor} {h : Handle}

namespace ModuleTable

variable {t : ModuleTable} {record : Record}

/-- The descriptor of each reference that the table holds. -/
def holdings (t : ModuleTable) : List Descriptor :=
  t.records.flatMap fun record => record.handles.map fun _ => record.descriptor

@[simp] theorem holdings_empty : empty.holdings = [] := rfl

theorem holdings_middle (before : List Record) (record : Record) (after : List Record) :
    (holdings ⟨before ++ record :: after⟩).Perm
      ((record.handles.map fun _ => record.descriptor) ++ holdings ⟨before ++ after⟩) := by
  simp only [holdings, List.flatMap_append, List.flatMap_cons]
  rw [← List.append_assoc, ← List.append_assoc]
  exact List.perm_append_comm.append_right _

theorem holdings_perm {records others : List Record} (same : records.Perm others) :
    (holdings ⟨records⟩).Perm (holdings ⟨others⟩) := same.flatMap_right _

theorem holdings_attach (tracked : t.record? h.id = some record) :
    (t.attach h).holdings.Perm (record.descriptor :: t.holdings) := by
  obtain ⟨_, before, after, split, attached⟩ := attach_split tracked
  have whole : t = ⟨before ++ record :: after⟩ := by rw [← split]
  rw [attached, whole]
  refine (holdings_middle before _ after).trans ?_
  refine .trans ?_ ((holdings_middle before record after).symm.cons _)
  rw [List.map_append, List.map_singleton, ← List.cons_append]
  exact (List.perm_append_singleton _ _).append_right _

theorem holdings_insert : (t.insert d h).holdings.Perm (d :: t.holdings) := by
  simp only [holdings, ModuleTable.insert, List.flatMap_append, List.flatMap_singleton,
    List.map_singleton]
  exact List.perm_append_singleton _ _

/-- Every record holds a reference, so that the table holds one for each descriptor. -/
theorem mem_holdings (kept : t.WellKept) : d ∈ t.holdings ↔ d ∈ t.descriptors := by
  simp only [holdings, descriptors, List.mem_flatMap, List.mem_map]
  constructor
  · rintro ⟨record, listed, _, _, exports⟩
    exact ⟨record, listed, exports⟩
  · rintro ⟨record, listed, exports⟩
    obtain ⟨handle, held⟩ := List.exists_mem_of_ne_nil _ (kept.held record listed)
    exact ⟨record, listed, handle, held, exports⟩

end ModuleTable

namespace Host

variable {host last : Host σ}

/-- Unloading takes one reference of the descriptor away. -/
theorem Unloading.holdings (unloading : Unloading S d host events last) :
    host.modules.holdings.Perm (d :: last.modules.holdings) := by
  cases unloading with
  | @released record before after kept handle found exports first handles =>
    have whole : host.modules = ⟨before ++ record :: after⟩ := by rw [← found]
    rw [whole]
    refine (ModuleTable.holdings_middle before record after).trans ?_
    refine .trans ?_ ((ModuleTable.holdings_middle before _ after).symm.cons d)
    rw [handles, List.map_append, List.map_singleton, exports, ← List.cons_append]
    exact (List.perm_append_singleton _ _).append_right _
  | @removed record before after handle _ _ _ found exports first handles =>
    have whole : host.modules = ⟨before ++ record :: after⟩ := by rw [← found]
    have moved := ModuleTable.swapRemove_perm before record after
    rw [found, whole]
    refine (ModuleTable.holdings_middle before record after).trans ?_
    rw [handles, List.map_singleton, exports]
    exact (ModuleTable.holdings_perm moved.symm).cons d

/-- A load that answers with a descriptor adds one reference of it, and one that fails
adds none. -/
theorem load_holdings (path : Path) (host : Host σ) :
    ((load S path).run host).state.modules.holdings.Perm
      (((load S path).run host).value.toOption.toList ++ host.modules.holdings) := by
  have ends := load_ends S path host
  generalize (load S path).run host = step at ends ⊢
  cases ends with
  | refused => exact .refl _
  | attached _ tracked => exact ModuleTable.holdings_attach tracked
  | entered => exact ModuleTable.holdings_insert

/-- A descriptor that is not loaded is refused, and nothing happens. -/
theorem unload_missing (kept : host.modules.WellKept) (missing : d ∉ host.modules.descriptors) :
    (unload S d).run host = ⟨.error .notLoaded, host, []⟩ := by
  rcases unload_outcome (S := S) d host with ⟨idle, _⟩ | ⟨_, unloading⟩
  · exact idle
  · refine absurd ?_ missing
    rw [← ModuleTable.mem_holdings kept, unloading.holdings.mem_iff]
    exact List.mem_cons_self

/-- A descriptor that is loaded can be unloaded. -/
theorem unload_loaded (kept : host.modules.WellKept) (loaded : d ∈ host.modules.descriptors) :
    ((unload S d).run host).value = .ok () ∧
      Unloading S d host ((unload S d).run host).events ((unload S d).run host).state := by
  rcases unload_outcome (S := S) d host with ⟨_, empty⟩ | unloaded
  · obtain ⟨record, listed, exports⟩ := List.mem_map.mp loaded
    obtain ⟨found, there⟩ : ∃ found, host.modules.find? d = some found :=
      Option.isSome_iff_exists.mp (List.find?_isSome.mpr ⟨record, listed, by simpa using exports⟩)
    exact absurd (empty found there) (kept.held found (List.mem_of_find?_eq_some there))
  · exact unloaded

/-- Unloading closes one reference. -/
theorem Unloading.closes_one (unloading : Unloading S d host events last) :
    Ledger.closes (fun _ => true) events = 1 := by
  cases unloading with
  | released => rfl
  | removed _ _ _ _ unregistering =>
    have quiet := fun e inside => (unregistering.internal e inside).quiet
    rw [Ledger.closes_append, Ledger.closes_append, Ledger.closes_quiet _ quiet]
    rfl

end Host
end CodecHost
