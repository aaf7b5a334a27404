import CodecHost.Proofs.Anchors

/-! Two lists tell what loading and unloading are about: the function tables that are
active, and those behind the descriptors of the loaded modules. A move leaves both
alone, or it adds one table to both, or it takes one out of both. The lists need not
agree, since two modules may lead to one table, which is active only once. -/
namespace CodecHost

variable {σ : Type} {S : Surroundings σ} {P : List Event → σ → Prop}
  {table : List Event → Descriptor → Option Plugin} {past events : List Event}

namespace Host

/-- The function tables behind the descriptors of the loaded modules. -/
def tables (S : Surroundings σ) (host : Host σ) : List Plugin :=
  host.modules.records.filterMap fun record => (S.memory host.system).plugin? record.descriptor

theorem mem_tables {host : Host σ} {p : Plugin} : p ∈ host.tables S ↔
    ∃ d ∈ host.modules.descriptors, (S.memory host.system).plugin? d = some p := by
  simp [tables, ModuleTable.descriptors]

/-- What a move does to the active tables and to those of the loaded modules. -/
inductive Effect (S : Surroundings σ) (host last : Host σ) : Prop where
  | idle (active : last.registry.plugins = host.registry.plugins)
      (behind : (last.tables S).Perm (host.tables S))
  | gained {p : Plugin} (active : last.registry.plugins.Perm (host.registry.plugins.insert p))
      (behind : (last.tables S).Perm (p :: host.tables S))
  | lost {p : Plugin} (active : last.registry.plugins = host.registry.plugins.erase p)
      (behind : (host.tables S).Perm (p :: last.tables S))

variable {host last : Host σ}

/-- A module goes, and what is active goes with it. -/
theorem effect_left {d : Descriptor} {record : Record} {was : Bool} {hooks : List Event}
    (unregistering : Registry.Unregistering (S.memory host.system) d host.registry
      ⟨was, last.registry, hooks⟩) (exports : record.descriptor = d)
    (moved : host.modules.records.Perm (record :: last.modules.records))
    (same : ∀ r ∈ last.modules.records, (S.memory last.system).plugin? r.descriptor =
      (S.memory host.system).plugin? r.descriptor) : Effect S host last := by
  have left := unregistering.plugins
  have behind := moved.filterMap fun r => (S.memory host.system).plugin? r.descriptor
  rw [List.filterMap_cons, ← List.filterMap_congr same, exports] at behind
  cases leads : (S.memory host.system).plugin? d with
  | none =>
    rw [leads] at left behind
    exact .idle left behind.symm
  | some p =>
    rw [leads] at left behind
    exact .lost left behind

/-- The table stays, up to the references that its records hold. -/
theorem effect_idle (active : last.registry = host.registry)
    (stays : last.modules.descriptors = host.modules.descriptors)
    (same : ∀ r ∈ last.modules.records, (S.memory last.system).plugin? r.descriptor =
      (S.memory host.system).plugin? r.descriptor) : Effect S host last := by
  refine .idle (by rw [active]) (.of_eq ?_)
  have mapped : ∀ (m : Memory) (records : List Record),
      records.filterMap (fun r => m.plugin? r.descriptor) =
        (records.map Record.descriptor).filterMap m.plugin? := by
    simp [List.filterMap_map]
  rw [tables, List.filterMap_congr same, mapped, tables, mapped]
  exact congrArg _ stays

/-- What happens elsewhere has no effect on what is loaded and active. -/
theorem effect_altered {change : σ → σ} (anchored : host.Anchored P past)
    (lasts : ∀ past s, P past s → P past (change s)) (steady : S.Steady P table) :
    Effect S host { host with system := change host.system } :=
  effect_idle rfl rfl fun _ member => anchored.reading_altered lasts steady member

theorem descriptors_replace {before after : List Record} {old new : Record}
    (found : host.modules.records = before ++ old :: after)
    (same : new.descriptor = old.descriptor) :
    ModuleTable.descriptors ⟨before ++ new :: after⟩ = host.modules.descriptors := by
  simp [ModuleTable.descriptors, found, same]

theorem Loading.effect (steady : S.Steady P table) (loading : Loading S host events last)
    (anchored : host.Anchored P past) (later : last.Anchored P (past ++ events)) :
    Effect S host last := by
  have reading : ∀ new ∈ last.modules.records, (∃ old ∈ host.modules.records, old.Continues new) →
      (S.memory last.system).plugin? new.descriptor =
        (S.memory host.system).plugin? new.descriptor := by
    rintro new member ⟨old, there, continues⟩
    exact anchored.reading later loading.opensFirst steady there continues member
  cases loading with
  | noted | unopened | refused =>
    exact effect_idle rfl rfl fun r member => reading r member ⟨r, member, .refl r⟩
  | attached opening tracked =>
    obtain ⟨_, before, after, split, attached⟩ := ModuleTable.attach_split tracked
    refine effect_idle rfl ?_ fun r member => ?_
    · simp only [attached]
      exact descriptors_replace split rfl
    · rcases (Loading.attached opening tracked).records anchored.kept member with
        there | ⟨h, hooks, _, impossible, _⟩
      · exact reading r member there
      · cases impossible
  | @entered _ handle d system _ _ _ _ _ _ registering =>
    obtain ⟨_, p, leads, active⟩ := registering.plugins
    refine .gained active ?_
    have same : ∀ r ∈ host.modules.records, _ := fun r there =>
      reading r (List.mem_append_left _ there) ⟨r, there, .refl r⟩
    simp only [tables, ModuleTable.insert, List.filterMap_append, List.filterMap_cons, leads,
      List.filterMap_nil, List.filterMap_congr same]
    exact List.perm_append_singleton _ _

theorem Unloading.effect {d : Descriptor} (steady : S.Steady P table)
    (unloading : Unloading S d host events last) (anchored : host.Anchored P past)
    (later : last.Anchored P (past ++ events)) : Effect S host last := by
  have reading : ∀ new ∈ last.modules.records, (S.memory last.system).plugin? new.descriptor =
      (S.memory host.system).plugin? new.descriptor := by
    intro new member
    obtain ⟨old, there, continues⟩ := unloading.records member
    exact anchored.reading later (Move.unloading unloading).opensFirst steady there continues member
  cases unloading with
  | released found => exact effect_idle rfl (descriptors_replace found rfl) reading
  | @removed record before after _ _ _ _ found exports _ _ unregistering =>
    refine effect_left unregistering exports ?_ reading
    simp only [found]
    refine List.perm_middle.trans (.cons record ?_)
    exact (ModuleTable.swapRemove_perm before record after).symm

/-- Every move has one of these effects. -/
theorem Move.effect (keeps : S.Keeps P) (steady : S.Steady P table)
    (move : Move S host events last) (anchored : host.Anchored P past) : Effect S host last := by
  have later := move.anchored keeps anchored
  have orderly := move.opensFirst
  cases move with
  | loading loading => exact loading.effect steady anchored later
  | unloading unloading => exact unloading.effect steady anchored later
  | forced found unregistering =>
    refine effect_left unregistering rfl (.of_eq found) fun new member => ?_
    exact anchored.reading later orderly steady (by simp [found, member]) (.refl new) member

end Host
end CodecHost
