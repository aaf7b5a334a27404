import CodecHost.Proofs.ReferenceAccounts
import Mathlib

/-! The open counts of modules. A descriptor has as many references as its modules have
together, and the open count that is answered for it is that of the first of these modules.
It is the number of references on the descriptor as long as no other module exports it. -/
namespace CodecHost

variable {σ : Type} {S : Surroundings σ} {settings : Settings} {d e : Descriptor}

namespace ModuleTable

variable {t t' : ModuleTable}

/-- The references on each of the modules that export a descriptor. -/
def openCounts (t : ModuleTable) (d : Descriptor) : List Nat :=
  (t.records.filter (·.descriptor = d)).map Record.openCount

theorem openCounts_cons (record : Record) (rest : List Record) (d : Descriptor) :
    openCounts ⟨record :: rest⟩ d =
      (if record.descriptor = d then [record.openCount] else []) ++ openCounts ⟨rest⟩ d := by
  by_cases exports : record.descriptor = d <;> simp [openCounts, exports]

theorem openCounts_append (before after : List Record) (d : Descriptor) :
    openCounts ⟨before ++ after⟩ d = openCounts ⟨before⟩ d ++ openCounts ⟨after⟩ d := by
  simp only [openCounts, List.filter_append, List.map_append]

theorem openCounts_perm {records others : List Record} (same : records.Perm others)
    (d : Descriptor) : (openCounts ⟨records⟩ d).Perm (openCounts ⟨others⟩ d) :=
  (same.filter _).map _

/-- Modules that all export something else count nothing. -/
theorem openCounts_others {records : List Record} (others : ∀ r ∈ records, r.descriptor ≠ d) :
    openCounts ⟨records⟩ d = [] := by
  simpa [openCounts] using others

/-- The first module that exports the descriptor counts first. -/
theorem openCounts_first {before after : List Record} {record : Record}
    (exports : record.descriptor = d) (first : ∀ r ∈ before, r.descriptor ≠ d) :
    openCounts ⟨before ++ record :: after⟩ d = record.openCount :: openCounts ⟨after⟩ d := by
  rw [openCounts_append, openCounts_others first, openCounts_cons, if_pos exports]
  rfl

/-- A module that exports something else does not count. -/
theorem openCounts_middle_ne (before after : List Record) {record : Record}
    (another : record.descriptor ≠ e) :
    openCounts ⟨before ++ record :: after⟩ e = openCounts ⟨before ++ after⟩ e := by
  rw [openCounts_append, openCounts_append, openCounts_cons, if_neg another, List.nil_append]

/-- The count of a descriptor is that of its first module. -/
theorem openCount?_eq (t : ModuleTable) (d : Descriptor) :
    t.openCount? d = (t.openCounts d).head? := by
  rw [openCounts, List.head?_map, List.head?_filter]
  rfl

theorem length_openCounts (t : ModuleTable) (d : Descriptor) :
    (t.openCounts d).length = t.descriptors.count d := by
  rw [openCounts, List.length_map, descriptors, List.count_eq_countP, List.countP_map,
    List.countP_eq_length_filter]
  rfl

/-- The references on a descriptor are those on its modules. -/
theorem count_holdings (t : ModuleTable) (d : Descriptor) :
    t.holdings.count d = (t.openCounts d).sum := by
  obtain ⟨records⟩ := t
  induction records with
  | nil => rfl
  | cons record rest ih =>
    have first : (record.handles.map fun _ => record.descriptor).count d =
        (if record.descriptor = d then [record.openCount] else []).sum := by
      rw [List.map_const']
      by_cases exports : record.descriptor = d <;>
        simp [List.count_replicate, exports, Record.openCount]
    rw [openCounts_cons, List.sum_append, ← ih, ← first, ← List.count_append]
    rfl

/-- Every module has a reference on it. -/
theorem WellKept.openCounts_pos (kept : t.WellKept) : ∀ k ∈ t.openCounts d, 0 < k := by
  intro k member
  obtain ⟨record, listed, rfl⟩ := List.mem_map.mp member
  exact List.length_pos_of_ne_nil (kept.held record (List.mem_filter.mp listed).1)

/-- At most one module of those in the table exports the descriptor. -/
def Alone (t : ModuleTable) (d : Descriptor) : Prop := t.descriptors.count d ≤ 1

/-- The count of a descriptor that no two modules export is what its counts add up to. -/
theorem Alone.openCounts (alone : t.Alone d) :
    t.openCounts d = [] ∨ ∃ k, t.openCounts d = [k] := by
  rw [Alone, ← length_openCounts] at alone
  match t.openCounts d, alone with
  | [], _ => exact .inl rfl
  | [k], _ => exact .inr ⟨k, rfl⟩

/-- No count is answered when there is no reference. -/
theorem WellKept.openCount?_eq_none (kept : t.WellKept) :
    t.openCount? d = none ↔ (t.openCounts d).sum = 0 := by
  have positive : ∀ k ∈ t.openCounts d, 0 < k := kept.openCounts_pos
  rw [openCount?_eq]
  cases counts : t.openCounts d with
  | nil => simp
  | cons k others =>
    have some := positive k (by simp [counts])
    simp only [List.head?_cons, List.sum_cons, reduceCtorEq, false_iff]
    omega

/-- The count of a descriptor that no two modules export is the number of its references. -/
theorem Alone.openCount?_eq_some (alone : t.Alone d) (kept : t.WellKept) {k : Nat} :
    t.openCount? d = some k ↔ 0 < k ∧ (t.openCounts d).sum = k := by
  have positive : ∀ k ∈ t.openCounts d, 0 < k := kept.openCounts_pos
  rw [openCount?_eq]
  rcases alone.openCounts with none | ⟨n, one⟩
  · simp [none]
    omega
  · have some := positive n (by simp [one])
    simp only [one, List.head?_cons, Option.some.injEq, List.sum_singleton]
    omega

/-- What becomes of the open counts when a reference on a descriptor is given back. -/
inductive Lowered (d : Descriptor) (t t' : ModuleTable) : Prop where
  /-- The first module that exports it has one reference less. -/
  | released {count : Nat} {others : List Nat} (still : 0 < count)
      (was : t.openCounts d = (count + 1) :: others) (left : t'.openCounts d = count :: others)
      (elsewhere : ∀ e ≠ d, t'.openCounts e = t.openCounts e)
  /-- The first module that exports it goes with its only reference. Others may change their
  places. -/
  | removed {others : List Nat} (was : t.openCounts d = 1 :: others)
      (left : (t'.openCounts d).Perm others)
      (elsewhere : ∀ e ≠ d, (t'.openCounts e).Perm (t.openCounts e))

/-- There is one reference less on the descriptor. -/
theorem Lowered.sum (lowered : t.Lowered d t') :
    (t'.openCounts d).sum + 1 = (t.openCounts d).sum := by
  cases lowered with
  | @released count others still was left elsewhere =>
    rw [was, left, List.sum_cons, List.sum_cons]
    omega
  | @removed others was left elsewhere =>
    rw [was, left.sum_eq, List.sum_cons, Nat.add_comm]

/-- The count of a descriptor that no other module exports falls by one. -/
theorem Lowered.openCount? (lowered : t.Lowered d t') (alone : t.Alone d) :
    ∃ k, t.openCount? d = some (k + 1) ∧
      t'.openCount? d = if k = 0 then none else some k := by
  rw [openCount?_eq, openCount?_eq]
  cases lowered with
  | @released count others still was left elsewhere =>
    refine ⟨count, by rw [was, List.head?_cons], ?_⟩
    rw [left, List.head?_cons, if_neg (Nat.ne_of_gt still)]
  | @removed others was left elsewhere =>
    have none_left : others = [] := by
      rcases alone.openCounts with none | ⟨k, one⟩
      · rw [was] at none
        cases none
      · rw [was] at one
        exact (List.cons.inj one).2
    rw [none_left] at left
    exact ⟨0, by rw [was, List.head?_cons], by rw [left.eq_nil]; rfl⟩

/-- The count of another descriptor that no two modules export stays. -/
theorem Lowered.openCount?_ne (lowered : t.Lowered d t') (other : e ≠ d) (alone : t.Alone e) :
    t'.openCount? e = t.openCount? e := by
  rw [openCount?_eq, openCount?_eq]
  cases lowered with
  | released _ _ _ elsewhere => rw [elsewhere e other]
  | removed _ _ elsewhere =>
    have moved := elsewhere e other
    rcases alone.openCounts with none | ⟨k, one⟩
    · rw [none] at moved ⊢
      rw [moved.eq_nil]
    · rw [one] at moved ⊢
      rw [List.perm_singleton.mp moved]

end ModuleTable

namespace Host

variable {host last : Host σ} {events : List Event}

/-- Unloading lowers the count of the first module that exports the descriptor. -/
theorem Unloading.lowered (unloading : Unloading S d host events last) :
    host.modules.Lowered d last.modules := by
  cases unloading with
  | @released record before after kept handle found exports first handles nonempty =>
    have whole : host.modules = ⟨before ++ record :: after⟩ := by rw [← found]
    have count : record.openCount = kept.length + 1 := by
      rw [Record.openCount, handles, List.length_append, List.length_singleton]
    refine .released (List.length_pos_of_ne_nil nonempty) ?_
      (ModuleTable.openCounts_first exports first) ?_
    · rw [whole, ModuleTable.openCounts_first exports first, count]
    · intro e other
      have another : record.descriptor ≠ e := exports ▸ other.symm
      rw [whole, ModuleTable.openCounts_middle_ne before after another]
      exact ModuleTable.openCounts_middle_ne before after another
  | @removed record before after handle was registry hooks found exports first handles =>
    have whole : host.modules = ⟨before ++ record :: after⟩ := by rw [← found]
    have moved := ModuleTable.swapRemove_perm before record after
    have count : record.openCount = 1 := by rw [Record.openCount, handles, List.length_singleton]
    have counts : host.modules.openCounts d = 1 :: ModuleTable.openCounts ⟨after⟩ d := by
      rw [whole, ModuleTable.openCounts_first exports first, count]
    refine .removed counts ?_ ?_
    · rw [found]
      refine (ModuleTable.openCounts_perm moved d).trans (.of_eq ?_)
      rw [ModuleTable.openCounts_append, ModuleTable.openCounts_others first, List.nil_append]
    · intro e other
      rw [found, whole, ModuleTable.openCounts_middle_ne before after (exports ▸ other.symm)]
      exact ModuleTable.openCounts_perm moved e

end Host

namespace Run

/-- **Open counts add up to the references.** At every moment of a run the open counts of all
modules that export a descriptor add up to the number of references outstanding on it. The count
that is answered is that of the first such module, and none is answered just when nothing is
outstanding. An unloading that succeeds takes one reference. It lowers the count of that first
module, which goes with its last reference, and leaves the counts of all other modules as they
are. So as long as no two modules export the descriptor its count is what is outstanding, and
falls by one when it is unloaded; the count of another descriptor that no two modules export stays
as it was. -/
theorem open_counts_add_up (S : Surroundings σ) (settings : Settings) (system : σ)
    (calls : List (Call σ)) (d : Descriptor) :
    let c := context S settings system calls
    let step := (Context.unload S d).run c
    ((c.modules.openCounts d).sum : Int) = outstanding d (journal S settings system calls) ∧
    c.modules.openCount? d = (c.modules.openCounts d).head? ∧
    (c.modules.openCount? d = none ↔ outstanding d (journal S settings system calls) = 0) ∧
    (c.modules.Alone d → ∀ k : Nat, c.modules.openCount? d = some k ↔
      0 < k ∧ outstanding d (journal S settings system calls) = k) ∧
    (step.value = .ok () →
      c.modules.Lowered d step.state.modules ∧
      (step.state.modules.openCounts d).sum + 1 = (c.modules.openCounts d).sum ∧
      (c.modules.Alone d → ∃ k, c.modules.openCount? d = some (k + 1) ∧
        step.state.modules.openCount? d = if k = 0 then none else some k) ∧
      ∀ e ≠ d, c.modules.Alone e →
        step.state.modules.openCount? e = c.modules.openCount? e) := by
  intro c step
  have kept : c.modules.WellKept := (accounted S settings system calls).kept
  have sum : ((c.modules.openCounts d).sum : Int) =
      outstanding d (journal S settings system calls) := by
    rw [← ModuleTable.count_holdings]
    exact holdings_account S settings system calls d
  refine ⟨sum, ModuleTable.openCount?_eq _ d, ?_, fun alone k => ?_, ?_⟩
  · rw [kept.openCount?_eq_none, ← sum, Int.natCast_eq_zero]
  · rw [alone.openCount?_eq_some kept, ← sum, Int.natCast_inj]
  · intro answer
    have lowered : c.modules.Lowered d step.state.modules := by
      rcases Host.unload_outcome (S := S) d c.host with ⟨idle, _⟩ | ⟨_, unloading⟩
      · have refused : step.value = .error .notLoaded := congrArg Step.value idle
        rw [refused] at answer
        cases answer
      · exact unloading.lowered
    exact ⟨lowered, lowered.sum, lowered.openCount?, fun e other => lowered.openCount?_ne other⟩

/-- Two modules that export one descriptor, and one that exports another. -/
def twinsAndOther : Catalog :=
  .ofModules (.ofEncoders id) [.working 97 1 0, .working 98 2 0, .working 99 3 1]

/-- A module that nobody shares its descriptor with is loaded twice, and a twin once. -/
def loneTwice : List (Call Catalog) := [.load ⟨[99]⟩, .load ⟨[97]⟩, .load ⟨[99]⟩]

/-- The count of the module falls to one, and that of the twin stays. -/
theorem lone_count_falls :
    let c := context Catalog.surroundings .standard twinsAndOther loneTwice
    let step := (Context.unload Catalog.surroundings ⟨1⟩).run c
    c.modules.openCount? ⟨1⟩ = some 2 ∧ step.state.modules.openCount? ⟨1⟩ = some 1 ∧
      step.state.modules.openCount? ⟨0⟩ = some 1 := by
  intro c step
  have alone : c.modules.Alone ⟨1⟩ ∧ c.modules.Alone ⟨0⟩ := by
    unfold ModuleTable.Alone
    decide
  have two : c.modules.openCount? ⟨1⟩ = some 2 := by decide
  have unloaded : step.value = .ok () := by decide
  obtain ⟨_, _, _, _, falls⟩ :=
    open_counts_add_up Catalog.surroundings .standard twinsAndOther loneTwice ⟨1⟩
  obtain ⟨_, _, own, others⟩ := falls unloaded
  obtain ⟨k, before, after⟩ := own alone.1
  cases before.symm.trans two
  refine ⟨two, after, (others ⟨0⟩ (by decide) alone.2).trans ?_⟩
  decide

/-- The other module is loaded, then the first twin, and the second one twice. -/
def otherThenTwins : List (Call Catalog) :=
  [.load ⟨[99]⟩, .load ⟨[97]⟩, .load ⟨[98]⟩, .load ⟨[98]⟩]

/-- Three references are outstanding on the descriptor of the twins, and the count that is
answered is one. It is two when that descriptor was unloaded, and also when the other one was. -/
theorem twins_count_one_of_three :
    let c := context Catalog.surroundings .standard twinsAndOther otherThenTwins
    let own := (Context.unload Catalog.surroundings ⟨0⟩).run c
    let other := (Context.unload Catalog.surroundings ⟨1⟩).run c
    outstanding ⟨0⟩ (journal Catalog.surroundings .standard twinsAndOther otherThenTwins) = 3 ∧
      c.modules.openCount? ⟨0⟩ = some 1 ∧
      own.value = .ok () ∧ own.state.modules.openCount? ⟨0⟩ = some 2 ∧
      other.value = .ok () ∧ other.state.modules.openCount? ⟨0⟩ = some 2 := by
  decide

end Run
end CodecHost
