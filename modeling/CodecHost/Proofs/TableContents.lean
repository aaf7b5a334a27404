import CodecHost.ModuleTable

/-! What the operations on the module table do to its contents: the records, by
position, and the references they hold, as a bag. The order in which records are
kept matters to no reference. -/
namespace CodecHost

variable {t : ModuleTable} {record : Record} {before after : List Record} {h : Handle}
  {d : Descriptor}

namespace ModuleTable

/-- All references that the table holds. -/
def handles (t : ModuleTable) : List Handle := t.records.flatMap Record.handles

theorem handles_middle (before : List Record) (record : Record) (after : List Record) :
    (handles ⟨before ++ record :: after⟩).Perm (record.handles ++ handles ⟨before ++ after⟩) := by
  simp only [handles, List.flatMap_append, List.flatMap_cons]
  rw [← List.append_assoc, ← List.append_assoc]
  exact List.perm_append_comm.append_right _

theorem handles_split (found : t.records = before ++ record :: after) :
    t.handles.Perm (record.handles ++ handles ⟨before ++ after⟩) := by
  rw [handles, found]
  exact handles_middle before record after

/-- A table that is in order: no module has two records, and a record holds
references on its own module only, at least one. -/
structure WellKept (t : ModuleTable) : Prop where
  distinct : (t.records.map Record.id).Nodup
  held : ∀ record ∈ t.records, record.handles ≠ []
  owned : ∀ record ∈ t.records, ∀ handle ∈ record.handles, handle.id = record.id

theorem wellKept_empty : empty.WellKept :=
  ⟨List.nodup_nil, by simp [empty], by simp [empty]⟩

/-- A table stays in order when a record goes and the others move about. -/
theorem WellKept.shrink {records : List Record} (kept : t.WellKept)
    (rest : t.records.Perm (record :: records)) : WellKept ⟨records⟩ := by
  have inside : ∀ record ∈ records, record ∈ t.records := by
    intro record member
    exact rest.mem_iff.mpr (List.mem_cons_of_mem _ member)
  have distinct := (rest.map Record.id).nodup_iff.mp kept.distinct
  rw [List.map_cons] at distinct
  exact ⟨(List.nodup_cons.mp distinct).2, fun r member => kept.held r (inside r member),
    fun r member => kept.owned r (inside r member)⟩

/-- A record may be given other references on its module. -/
theorem WellKept.replace {handles : List Handle} (kept : t.WellKept)
    (found : t.records = before ++ record :: after) (some : handles ≠ [])
    (owned : ∀ handle ∈ handles, handle.id = record.id) :
    WellKept ⟨before ++ { record with handles } :: after⟩ := by
  have earlier : ∀ r, r ∈ before ∨ r ∈ after → r ∈ t.records := by
    intro r member
    rw [found]
    rcases member with member | member <;> simp [member]
  refine ⟨?_, ?_, ?_⟩
  · have distinct := kept.distinct
    rw [found] at distinct
    simpa using distinct
  · intro r member
    rcases List.mem_append.mp member with member | member
    · exact kept.held r (earlier r (.inl member))
    · rcases List.mem_cons.mp member with rfl | member
      · exact some
      · exact kept.held r (earlier r (.inr member))
  · intro r member
    rcases List.mem_append.mp member with member | member
    · exact kept.owned r (earlier r (.inl member))
    · rcases List.mem_cons.mp member with rfl | member
      · exact owned
      · exact kept.owned r (earlier r (.inr member))

/-- A module without a record may be given one. -/
theorem WellKept.insert (kept : t.WellKept) (new : t.record? h.id = none) :
    (t.insert d h).WellKept := by
  have absent : ∀ record ∈ t.records, record.id ≠ h.id := by
    simpa [record?] using new
  refine ⟨?_, ?_, ?_⟩
  · simp only [ModuleTable.insert, List.map_append, List.map_cons, List.map_nil]
    refine List.nodup_append.mpr ⟨kept.distinct, by simp, ?_⟩
    intro id member other single same
    obtain ⟨record, inside, rfl⟩ := List.mem_map.mp member
    rw [List.mem_singleton.mp single] at same
    exact absent record inside same
  · intro record member
    rcases List.mem_append.mp member with member | member
    · exact kept.held record member
    · rw [List.mem_singleton.mp member]
      exact List.cons_ne_nil _ _
  · intro record member
    rcases List.mem_append.mp member with member | member
    · exact kept.owned record member
    · rw [List.mem_singleton.mp member]
      simp

theorem handles_insert : (t.insert d h).handles.Perm (h :: t.handles) := by
  simp only [handles, ModuleTable.insert, List.flatMap_append, List.flatMap_cons, List.flatMap_nil,
    List.append_nil]
  exact List.perm_append_singleton _ _

theorem attachFirst_split {p : Record → Bool} {records : List Record}
    (found : records.find? p = some record) :
    ∃ before after, records = before ++ record :: after ∧
      attachFirst p h records =
        before ++ { record with handles := record.handles ++ [h] } :: after := by
  induction records with
  | nil => cases found
  | cons first rest ih =>
    rw [List.find?_cons] at found
    split at found
    · rename_i matched
      cases found
      exact ⟨[], rest, rfl, by simp [attachFirst, matched]⟩
    · rename_i unmatched
      obtain ⟨before, after, split, attached⟩ := ih found
      exact ⟨first :: before, after, by rw [split, List.cons_append],
        by simp [attachFirst, unmatched, attached]⟩

/-- Attaching changes one record, which is a record of the reference's module. -/
theorem attach_split (tracked : t.record? h.id = some record) :
    record.id = h.id ∧ ∃ before after, t.records = before ++ record :: after ∧
      t.attach h = ⟨before ++ { record with handles := record.handles ++ [h] } :: after⟩ := by
  obtain ⟨before, after, split, attached⟩ := attachFirst_split (h := h) tracked
  exact ⟨by simpa using List.find?_some tracked, before, after, split, by rw [attach, attached]⟩

/-- The record of a descriptor is the first that has it. -/
theorem find?_split (found : t.records = before ++ record :: after)
    (exports : record.descriptor = d) (first : ∀ r ∈ before, r.descriptor ≠ d) :
    t.find? d = some record := by
  rw [find?, List.find?_eq_some_iff_append]
  exact ⟨by simpa using exports, before, after, found, by simpa using first⟩

theorem swapRemove_perm {α : Type} (before : List α) (x : α) (after : List α) :
    (swapRemove (before ++ x :: after) before.length).Perm (before ++ after) := by
  rcases List.eq_nil_or_concat after with rfl | ⟨middle, last, rfl⟩
  · simp [swapRemove]
  · have shape : before ++ x :: middle.concat last = before ++ x :: middle ++ [last] := by simp
    simp only [shape, swapRemove, List.getLast?_concat]
    have placed : (before ++ x :: middle ++ [last]).set before.length last =
        (before ++ last :: middle) ++ [last] := by
      simp [List.set_append_right]
    rw [placed, List.dropLast_concat, List.concat_eq_append]
    exact (List.perm_append_singleton last middle).symm.append_left before

end ModuleTable
end CodecHost
