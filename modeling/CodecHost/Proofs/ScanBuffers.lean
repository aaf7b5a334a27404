import CodecHost.CommandLine.Program
import CodecHost.Proofs.ScanLoads

/-! The buffer of a scan. Its first slots take the descriptors of the first modules that load,
and an empty slot behind the last of them says where they end. Slots further behind are left as
they were, so that what a reader finds does not depend on what the buffer held before. -/
namespace CodecHost

open CommandLine (recorded)

variable {σ : Type}

namespace Scan

variable {slots : Buffer} {ds : List Descriptor}

/-- The slots when the first of them have taken descriptors, as far as they go. -/
def Buffer.filled (slots : Buffer) (ds : List Descriptor) : Buffer :=
  (ds.map some).take slots.length ++ slots.drop ds.length

theorem length_filled : (Buffer.filled slots ds).length = slots.length := by
  simp only [Buffer.filled, List.length_append, List.length_take, List.length_map,
    List.length_drop]
  omega

theorem filled_nil : Buffer.filled slots [] = slots := by simp [Buffer.filled]

/-- As long as the buffer is not full, there are slots behind those that are filled. -/
theorem filled_room (room : ds.length < slots.length) :
    Buffer.filled slots ds = ds.map some ++ slots.drop ds.length := by
  rw [Buffer.filled, List.take_of_length_le (by rw [List.length_map]; omega)]

/-- A buffer that is full holds descriptors only. -/
theorem filled_full (full : slots.length ≤ ds.length) :
    Buffer.filled slots ds = (ds.take slots.length).map some := by
  rw [Buffer.filled, List.drop_eq_nil_of_le full, List.append_nil, List.map_take]

/-- The first slot that is not filled is the next one to be written. -/
theorem filled_set (room : ds.length < slots.length) (slot : Option Descriptor) :
    (Buffer.filled slots ds).set ds.length slot =
      ds.map some ++ slot :: slots.drop (ds.length + 1) := by
  have next : slots.drop ds.length = slots[ds.length] :: slots.drop (ds.length + 1) :=
    List.drop_eq_getElem_cons room
  rw [filled_room room, next, List.set_append_right _ _ (by simp), List.length_map, Nat.sub_self,
    List.set_cons_zero]

/-- In a full buffer nothing is written any more. -/
theorem filled_set_full (full : slots.length ≤ ds.length) (slot : Option Descriptor) :
    (Buffer.filled slots ds).set ds.length slot = (ds.take slots.length).map some := by
  rw [List.set_eq_of_length_le (by rw [length_filled]; exact full), filled_full full]

/-- The next descriptor goes to the first slot that is not filled. -/
theorem filled_snoc (d : Descriptor) :
    (Buffer.filled slots ds).set ds.length (some d) = Buffer.filled slots (ds ++ [d]) := by
  by_cases room : ds.length < slots.length
  · rw [filled_set room, Buffer.filled, List.take_of_length_le (by simp; omega)]
    simp
  · have full : slots.length ≤ ds.length := Nat.le_of_not_lt room
    rw [filled_set_full full, filled_full (by simp; omega), List.take_append_of_le_length full]

/-- Descriptors that are recorded one after the other fill the slots in their order. -/
theorem recorded_filled (slots : Buffer) (before ds : List Descriptor) :
    (ds.foldl Progress.record ⟨before.length, some (Buffer.filled slots before)⟩).buffer =
      some (Buffer.filled slots (before ++ ds)) := by
  induction ds generalizing before with
  | nil => rw [List.append_nil]; rfl
  | cons d rest ih =>
    have one : Progress.record ⟨before.length, some (Buffer.filled slots before)⟩ d =
        ⟨(before ++ [d]).length, some (Buffer.filled slots (before ++ [d]))⟩ := by
      rw [Progress.record, Option.map_some, filled_snoc, List.length_append]
      rfl
    rw [List.foldl_cons, one, ih, List.append_assoc, List.singleton_append]

/-- What a scan leaves in a buffer: the slots that are filled, and an empty one behind them. -/
theorem close_recorded (slots : Buffer) (ds : List Descriptor) :
    (ds.foldl Progress.record ⟨0, some slots⟩).close =
      some ((Buffer.filled slots ds).set ds.length none) := by
  have filled := recorded_filled slots [] ds
  rw [filled_nil, List.nil_append, List.length_nil] at filled
  rw [Progress.close, filled, recorded_loaded, Nat.zero_add, Option.map_some]

/-- Without a buffer nothing is recorded. -/
theorem close_bufferless (ds : List Descriptor) (count : Nat) :
    (ds.foldl Progress.record ⟨count, none⟩).close = none := by
  induction ds generalizing count with
  | nil => rfl
  | cons d rest ih => exact ih (count + 1)

theorem recorded_map_some (ds : List Descriptor) (rest : Buffer) :
    recorded (ds.map some ++ none :: rest) = ds ∧ recorded (ds.map some) = ds := by
  induction ds with
  | nil => exact ⟨rfl, rfl⟩
  | cons d others ih => exact ⟨congrArg (d :: ·) ih.1, congrArg (d :: ·) ih.2⟩

/-- A reader who stops at the first empty slot finds the descriptors that fit. -/
theorem recorded_closed (slots : Buffer) (ds : List Descriptor) :
    recorded ((Buffer.filled slots ds).set ds.length none) = ds.take slots.length := by
  by_cases room : ds.length < slots.length
  · rw [filled_set room, (recorded_map_some ds _).1, List.take_of_length_le (Nat.le_of_lt room)]
  · rw [filled_set_full (Nat.le_of_not_lt room), (recorded_map_some _ []).2]

/-- A slot that a descriptor is for holds it. -/
theorem closed_front {i : Nat} {d : Descriptor} (found : ds[i]? = some d)
    (fits : i < slots.length) :
    ((Buffer.filled slots ds).set ds.length none)[i]? = some (some d) := by
  by_cases room : ds.length < slots.length
  · have inside : i < ds.length := (List.getElem?_eq_some_iff.mp found).1
    rw [filled_set room, List.getElem?_append_left (by simpa using inside), List.getElem?_map,
      found, Option.map_some]
  · rw [filled_set_full (Nat.le_of_not_lt room), List.getElem?_map, List.getElem?_take_of_lt fits,
      found, Option.map_some]

/-- The slots behind the empty one are as they were. -/
theorem closed_behind {i : Nat} (behind : ds.length < i) :
    ((Buffer.filled slots ds).set ds.length none)[i]? = slots[i]? := by
  by_cases room : ds.length < slots.length
  · obtain ⟨more, rfl⟩ := Nat.exists_eq_add_of_lt behind
    rw [filled_set room, List.getElem?_append_right (by simp; omega), List.length_map]
    have position : ds.length + more + 1 - ds.length = more + 1 := by omega
    rw [position, List.getElem?_cons_succ, List.getElem?_drop]
    congr 1
    omega
  · have full : slots.length ≤ ds.length := Nat.le_of_not_lt room
    rw [List.getElem?_eq_none (by rw [List.length_set, length_filled]; omega),
      List.getElem?_eq_none (by omega)]

/-- What a buffer holds once descriptors are recorded in it. Each slot takes the descriptor at its
position, the slot behind the last one is empty, and the slots behind that are as they were. Who
reads up to the first empty slot finds as many of the descriptors as there is room for. -/
structure Buffer.Holds (ds : List Descriptor) (slots after : Buffer) : Prop where
  length : after.length = slots.length
  taken : ∀ i d, ds[i]? = some d → i < slots.length → after[i]? = some (some d)
  ended : ds.length < slots.length → after[ds.length]? = some none
  behind : ∀ i, ds.length < i → after[i]? = slots[i]?
  shown : recorded after = ds.take slots.length

/-- A scan leaves that behind. -/
theorem holds_closed (slots : Buffer) (ds : List Descriptor) :
    Buffer.Holds ds slots ((Buffer.filled slots ds).set ds.length none) where
  length := by rw [List.length_set, length_filled]
  taken := fun _ _ found fits => closed_front found fits
  ended := fun room => List.getElem?_set_self (by rw [length_filled]; exact room)
  behind := fun _ behind => closed_behind behind
  shown := recorded_closed slots ds

/-- Nothing is left open about what the buffer holds. -/
theorem Buffer.Holds.unique {after other : Buffer} (holds : Buffer.Holds ds slots after)
    (holdsToo : Buffer.Holds ds slots other) : after = other := by
  refine List.ext_getElem? fun i => ?_
  by_cases fits : i < slots.length
  · rcases Nat.lt_trichotomy i ds.length with front | rfl | behind
    · have found : ds[i]? = some ds[i] := List.getElem?_eq_getElem front
      rw [holds.taken i _ found fits, holdsToo.taken i _ found fits]
    · rw [holds.ended fits, holdsToo.ended fits]
    · rw [holds.behind i behind, holdsToo.behind i behind]
  · have outside : after.length ≤ i := by rw [holds.length]; omega
    have outsideToo : other.length ≤ i := by rw [holdsToo.length]; omega
    rw [List.getElem?_eq_none outside, List.getElem?_eq_none outsideToo]

theorem holds_some {after : Option Buffer}
    (left : Option.Rel (Buffer.Holds ds) (some slots) after) :
    after = some ((Buffer.filled slots ds).set ds.length none) := by
  cases left with
  | some holds => rw [holds.unique (holds_closed slots ds)]

/-- The buffer of a scan, if there is one, holds the descriptors when the scan ends. -/
theorem close_holds (ds : List Descriptor) (buffer : Option Buffer) :
    Option.Rel (Buffer.Holds ds) buffer (ds.foldl Progress.record ⟨0, buffer⟩).close := by
  cases buffer with
  | none =>
    rw [close_bufferless]
    exact .none
  | some slots =>
    rw [close_recorded]
    exact .some (holds_closed slots ds)

/-- **What a buffer holds after a scan.** Whatever the load function is, and however many slots
there are with whatever in them: a scan of a directory that can be opened calls the load function
for every candidate in order, also when the buffer is full, and answers how many of the loads
succeeded. Each slot takes the descriptor of the load that succeeded at its position. The slot
behind the last one is empty, and the slots behind that are as they were. Who reads up to the
first empty slot finds the descriptors that were loaded first, as many as there is room for.
Every load that fails is noted once. When the directory cannot be opened, nothing happens. -/
theorem buffer_holds_first_loaded (directory : Path) (slots : Buffer)
    (load : Path → Action σ (Except PluginError Descriptor)) (s : σ) :
    (∀ entries : List DirEntry,
      let paths := entries.filterMap (candidate? directory)
      let loads := (paths.mapM load).run s
      let scanned := (scan directory (.ok entries) (some slots) load).run s
      ∃ after : Buffer,
        scanned.value = (.ok (loaded loads.value).length, some after) ∧
        scanned.SameDeeds loads ∧
        ((scan directory (.ok entries) (some slots) (tracked load)).run (s, [])).state =
          (loads.state, paths) ∧
        after.length = slots.length ∧
        (∀ i d, (loaded loads.value)[i]? = some d → i < slots.length →
          after[i]? = some (some d)) ∧
        ((loaded loads.value).length < slots.length →
          after[(loaded loads.value).length]? = some none) ∧
        (∀ i, (loaded loads.value).length < i → after[i]? = slots[i]?) ∧
        recorded after = (loaded loads.value).take slots.length ∧
        (skips scanned.events).Perm (skips loads.events ++ failed paths loads.value)) ∧
    ∀ cause, (scan directory (.error cause) (some slots) load).run s =
      ⟨(.error (.unreadableDirectory directory cause), some slots), s, []⟩ := by
  refine ⟨fun entries => ?_, fun cause => rfl⟩
  intro paths loads scanned
  obtain ⟨same, value, skipped⟩ := scan_each directory entries (some slots) load s
  obtain ⟨length, taken, ended, behind, shown⟩ := holds_closed slots (loaded loads.value)
  rw [close_recorded] at value
  exact ⟨_, value, same, scan_tracked directory entries (some slots) load s, length, taken, ended,
    behind, shown, skipped⟩

end Scan
end CodecHost
