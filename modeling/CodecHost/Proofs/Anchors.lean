import CodecHost.Proofs.Worlds

/-! A record holds on to the reference by which its descriptor was found: it is the
oldest, and references are given back from the newest. What a descriptor of the
table leads to is therefore what it led to when its module was loaded. -/
namespace CodecHost

variable {σ : Type} {S : Surroundings σ} {settings : Settings} {elsewhere : (σ → σ) → Prop}
  {P : List Event → σ → Prop} {table : List Event → Descriptor → Option Plugin}
  {past events : List Event} {held : List Handle}

namespace Record

/-- The oldest reference of the record led to its descriptor, and was open since. -/
def Anchored (past : List Event) (record : Record) : Prop :=
  ∃ earlier h, record.handles.head? = some h ∧ OpenSince earlier past h record.descriptor

/-- The record is the other one at a later time. -/
structure Continues (old new : Record) : Prop where
  id : new.id = old.id
  descriptor : new.descriptor = old.descriptor
  oldest : new.handles.head? = old.handles.head?

theorem Continues.refl (record : Record) : record.Continues record := ⟨rfl, rfl, rfl⟩

variable {old new : Record}

theorem Anchored.append (anchored : old.Anchored past) (continues : old.Continues new)
    (books : Balanced (past ++ events) held) (inside : ∀ h ∈ new.handles, h ∈ held)
    (orderly : OpensFirst events) : new.Anchored (past ++ events) := by
  obtain ⟨earlier, h, oldest, since⟩ := anchored
  have oldest := continues.oldest.trans oldest
  refine ⟨earlier, h, oldest, ?_⟩
  rw [continues.descriptor]
  exact since.append books (inside h (List.mem_of_head? oldest)) orderly

/-- What is behind the descriptor of a record does not change while the record is
in the table. -/
theorem Anchored.reading {s next : σ} (anchored : old.Anchored past)
    (continues : old.Continues new) (books : Balanced (past ++ events) held)
    (inside : ∀ h ∈ new.handles, h ∈ held) (orderly : OpensFirst events)
    (steady : S.Steady P table) (before : P past s) (after : P (past ++ events) next) :
    (S.memory next).plugin? new.descriptor = (S.memory s).plugin? new.descriptor := by
  obtain ⟨earlier, h, oldest, since⟩ := anchored
  have member := inside h (List.mem_of_head? (continues.oldest.trans oldest))
  rw [continues.descriptor, steady _ _ before _ _ _ since,
    steady _ _ after _ _ _ (since.append books member orderly)]

end Record

namespace Host

variable {host last : Host σ}

theorem Loading.opensFirst (loading : Loading S host events last) : OpensFirst events := by
  cases loading with
  | noted | unopened | attached =>
    exact ⟨_, [], (List.append_nil _).symm, by simp [Event.closed?], by simp⟩
  | refused =>
    exact ⟨[_, _], [_], rfl, by simp [Event.closed?], by simp [Event.opened?]⟩
  | entered _ _ _ registering =>
    refine ⟨_, [], (List.append_nil _).symm, ?_, by simp⟩
    intro e member
    rcases List.mem_cons.mp member with rfl | member
    · rfl
    · rcases List.mem_cons.mp member with rfl | member
      · rfl
      · exact (registering.internal e member).quiet.closed?

theorem Move.opensFirst (move : Move S host events last) : OpensFirst events := by
  cases move with
  | loading loading => exact loading.opensFirst
  | unloading unloading =>
    cases unloading with
    | released => exact ⟨[_], [_], rfl, by simp [Event.closed?], by simp [Event.opened?]⟩
    | removed _ _ _ _ unregistering =>
      refine ⟨_, [_], rfl, ?_, by simp [Event.opened?]⟩
      intro e member
      rcases List.mem_append.mp member with member | member
      · exact (unregistering.internal e member).quiet.closed?
      · rw [List.mem_singleton.mp member]
        rfl
  | forced _ unregistering =>
    refine ⟨_, _, rfl, fun e member => (unregistering.internal e member).quiet.closed?, ?_⟩
    intro e member
    obtain ⟨h, _, rfl⟩ := List.mem_map.mp member
    rfl

/-- A record that stands in the place of another is the only one that changes. -/
theorem continues_middle {before after : List Record} {old new : Record}
    (continues : old.Continues new) {record : Record} (member : record ∈ before ++ new :: after) :
    ∃ r ∈ before ++ old :: after, r.Continues record := by
  rcases List.mem_append.mp member with member | member
  · exact ⟨record, by simp [member], .refl record⟩
  · rcases List.mem_cons.mp member with rfl | member
    · exact ⟨old, by simp, continues⟩
    · exact ⟨record, by simp [member], .refl record⟩

theorem head?_append_singleton {α : Type} {xs : List α} (x : α) (some : xs ≠ []) :
    (xs ++ [x]).head? = xs.head? := by
  cases xs with
  | nil => exact absurd rfl some
  | cons => rfl

/-- A record of the table was there before the host loaded, or it holds the one
reference that was just opened and led to its descriptor. -/
theorem Loading.records (loading : Loading S host events last) (kept : host.modules.WellKept)
    {new : Record} (member : new ∈ last.modules.records) :
    (∃ old ∈ host.modules.records, old.Continues new) ∨
      ∃ h hooks, new.handles = [h] ∧
        events = .opened h :: .resolved h (.ok new.descriptor) :: hooks ∧
        ∀ e ∈ hooks, e.Internal := by
  cases loading with
  | noted | unopened | refused => exact .inl ⟨new, member, .refl new⟩
  | @attached _ handle record _ _ tracked =>
    obtain ⟨_, before, after, split, attached⟩ := ModuleTable.attach_split tracked
    have listed := List.mem_of_find?_eq_some tracked
    have continues : record.Continues { record with handles := record.handles ++ [handle] } :=
      ⟨rfl, rfl, head?_append_singleton _ (kept.held _ listed)⟩
    simp only [attached] at member
    rw [split]
    exact .inl (continues_middle continues member)
  | entered _ _ _ registering =>
    rcases List.mem_append.mp member with member | member
    · exact .inl ⟨new, member, .refl new⟩
    · rw [List.mem_singleton.mp member]
      exact .inr ⟨_, _, rfl, rfl, registering.internal⟩

theorem Unloading.records {d : Descriptor} (unloading : Unloading S d host events last)
    {new : Record} (member : new ∈ last.modules.records) :
    ∃ old ∈ host.modules.records, old.Continues new := by
  cases unloading with
  | @released record _ _ kept _ found _ _ handles others =>
    have continues : record.Continues { record with handles := kept } :=
      ⟨rfl, rfl, by rw [handles, head?_append_singleton _ others]⟩
    rw [found]
    exact continues_middle continues member
  | @removed record before after _ _ _ _ found =>
    simp only [found, (ModuleTable.swapRemove_perm before record after).mem_iff] at member
    refine ⟨new, ?_, .refl new⟩
    rw [found]
    rcases List.mem_append.mp member with member | member <;> simp [member]

/-- Every record is anchored, and the system has the property that is assumed of it. -/
structure Anchored (P : List Event → σ → Prop) (past : List Event) (host : Host σ) : Prop
    extends Accounted past host where
  holds : P past host.system
  anchors : ∀ record ∈ host.modules.records, record.Anchored past

namespace Anchored

/-- A record that was there is still anchored after events that leave its oldest
reference in the table. -/
theorem continued {old new : Record} (anchored : host.Anchored P past)
    (accounted : last.Accounted (past ++ events)) (orderly : OpensFirst events)
    (there : old ∈ host.modules.records) (continues : old.Continues new)
    (member : new ∈ last.modules.records) : new.Anchored (past ++ events) :=
  (anchored.anchors old there).append continues accounted.books
    (fun _ inside => List.mem_flatMap.mpr ⟨new, member, inside⟩) orderly

/-- The descriptor of a record that was there leads to where it led before. -/
theorem reading {old new : Record} (anchored : host.Anchored P past)
    (later : last.Anchored P (past ++ events)) (orderly : OpensFirst events)
    (steady : S.Steady P table) (there : old ∈ host.modules.records) (continues : old.Continues new)
    (member : new ∈ last.modules.records) :
    (S.memory last.system).plugin? new.descriptor =
      (S.memory host.system).plugin? new.descriptor :=
  (anchored.anchors old there).reading continues later.books
    (fun _ inside => List.mem_flatMap.mpr ⟨new, member, inside⟩) orderly steady anchored.holds
    later.holds

/-- A descriptor of the table reads as it did when its oldest reference was opened. -/
theorem steady (anchored : host.Anchored P past) (steady : S.Steady P table) {record : Record}
    (member : record ∈ host.modules.records) :
    ∃ earlier h, h ∈ record.handles ∧ OpenSince earlier past h record.descriptor ∧
      (S.memory host.system).plugin? record.descriptor = table earlier record.descriptor := by
  obtain ⟨earlier, h, oldest, since⟩ := anchored.anchors record member
  exact ⟨earlier, h, List.mem_of_head? oldest, since,
    steady past host.system anchored.holds earlier h record.descriptor since⟩

/-- The records stay anchored when the system changes on its own. -/
theorem altered {change : σ → σ} (anchored : host.Anchored P past)
    (lasts : ∀ past s, P past s → P past (change s)) :
    Anchored P past { host with system := change host.system } :=
  ⟨⟨anchored.kept, anchored.books⟩, lasts past _ anchored.holds, anchored.anchors⟩

/-- What is behind a descriptor of the table does not change on its own. -/
theorem reading_altered {change : σ → σ} (anchored : host.Anchored P past)
    (lasts : ∀ past s, P past s → P past (change s)) (steady : S.Steady P table) {record : Record}
    (member : record ∈ host.modules.records) :
    (S.memory (change host.system)).plugin? record.descriptor =
      (S.memory host.system).plugin? record.descriptor := by
  obtain ⟨earlier, h, _, since, reads⟩ := anchored.steady steady member
  rw [reads, steady _ _ (anchored.altered lasts).holds _ _ _ since]

end Anchored

theorem anchored_fresh {system : σ} (start : P [] system) : (fresh system).Anchored P [] :=
  ⟨⟨ModuleTable.wellKept_empty, .nil⟩, start, by simp [fresh, ModuleTable.empty]⟩

/-- Every move of a host keeps the records anchored. -/
theorem Move.anchored (keeps : S.Keeps P) (move : Move S host events last)
    (anchored : host.Anchored P past) : last.Anchored P (past ++ events) := by
  have accounted := move.accounted anchored.toAccounted
  refine ⟨accounted, move.keeps keeps anchored.toAccounted anchored.holds, fun new member => ?_⟩
  have continued : (∃ old ∈ host.modules.records, old.Continues new) →
      new.Anchored (past ++ events) := by
    rintro ⟨old, there, continues⟩
    exact anchored.continued accounted move.opensFirst there continues member
  cases move with
  | loading loading =>
    rcases loading.records anchored.kept member with there | ⟨h, hooks, handles, rfl, internal⟩
    · exact continued there
    · have resolved : Balanced (past ++ [.opened h] ++ [.resolved h (.ok new.descriptor)]) _ :=
        anchored.books.opened.quiet (by simp [Event.Quiet])
      have listed : h ∈ last.modules.handles :=
        List.mem_flatMap.mpr ⟨new, member, by simp [handles]⟩
      have since := OpenSince.resolved resolved List.mem_cons_self
      have books := accounted.books
      rw [List.append_cons, List.append_cons] at books ⊢
      exact ⟨_, h, by simp [handles], since.append books listed
        (opensFirst_quiet fun e inside => (internal e inside).quiet)⟩
  | unloading unloading => exact continued (unloading.records member)
  | forced found => exact continued ⟨new, by simp [found, member], .refl new⟩

end Host

/-- Every move of a context keeps the records anchored. -/
theorem Context.Move.anchored {c last : Context σ} (keeps : S.Keeps P)
    (lasts : ∀ change, elsewhere change → ∀ past s, P past s → P past (change s))
    (move : Context.Move S settings elsewhere past c events last)
    (anchored : c.host.Anchored P past) : last.host.Anchored P (past ++ events) := by
  have same : ∀ (internal : ∀ e ∈ events, e.Internal)
      (_ : last.host.modules = c.host.modules) (_ : P (past ++ events) last.host.system),
      last.host.Anchored P (past ++ events) := by
    intro internal modules holds
    refine ⟨move.accounted anchored.toAccounted, holds, fun record member => ?_⟩
    have there := member
    rw [modules] at there
    exact anchored.continued (move.accounted anchored.toAccounted)
      (opensFirst_quiet fun e inside => (internal e inside).quiet) there (.refl record) member
  cases move with
  | growing growing =>
    cases growing with
    | hosted loading => exact (Host.Move.loading loading).anchored keeps anchored
    | asked => exact same (by simp [Event.Internal]) rfl (keeps.hosting anchored.holds trivial)
    | brought _ _ _ registering =>
      exact same registering.internal rfl (keeps.internal anchored.holds registering.internal)
    | counted | activated => exact same (by simp) rfl (by simpa using anchored.holds)
  | hosted move => exact move.anchored keeps anchored
  | cleared =>
    have internal : ∀ e ∈ c.host.registry.clearing (S.memory c.host.system), e.Internal := by
      intro e member
      obtain ⟨p, _, rfl⟩ := Registry.mem_clearing member
      trivial
    exact same internal rfl (keeps.internal anchored.holds internal)
  | altered may => simpa using anchored.altered (lasts _ may)

theorem Context.Moving.anchored {α : Type} {a : Action (Context σ) α} (keeps : S.Keeps P)
    (lasts : ∀ change, elsewhere change → ∀ past s, P past s → P past (change s))
    (moving : Context.Moving S settings elsewhere a) :
    Ensures (fun past c => c.host.Anchored P past) a fun _ past c => c.host.Anchored P past :=
  moving.ensures fun move anchored => move.anchored keeps lasts anchored

theorem Context.Grows.anchored {α : Type} {a : Action (Context σ) α} (keeps : S.Keeps P)
    (grows : Context.Grows S settings a) :
    Ensures (fun past c => c.host.Anchored P past) a fun _ past c => c.host.Anchored P past := by
  have moving : Context.Moving S settings (fun _ => False) a := grows.moving
  exact moving.anchored keeps nofun

end CodecHost
