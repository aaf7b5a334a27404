import CodecHost.Proofs.Worlds
import CodecHost.System.Catalog

/-! What may be assumed of a catalog. What is read at an address never changes,
whatever is opened and closed, and a reference leads to what was declared of its
module when it was opened. -/
namespace CodecHost

open Ledger

/-- Descriptors lead to encoders that have both hooks. -/
def Memory.ofEncoders (place : Address → Address) : Memory where
  info d := ⟨1, Kind.encoder.tag, some (place d.address)⟩
  encoder _ := ⟨1, 0, none, 0, none, true, true⟩
  decoder _ := ⟨1, none, fun _ => 0, false, false⟩

/-- A module that opens and exports a descriptor. -/
def DeclaredModule.working (name : UInt8) (id : Nat) (address : Address) : DeclaredModule :=
  ⟨⟨[name]⟩, ⟨id⟩, some ⟨address⟩, none, none⟩

namespace Catalog

/-- A catalog without directories and variables. -/
def ofModules (memory : Memory) (modules : List DeclaredModule) : Catalog :=
  ⟨modules, [], [], memory, [], 0⟩

/-- No plugins come with the program, and the search path is a directory that is not there. -/
def searchless : Settings := ⟨none, .fixed [], ⟨[112]⟩⟩

/-- A module that opens was declared to do so. -/
theorem opened_declared {c next : Catalog} {path : Path} {handle : Handle}
    (opening : surroundings.openModule path c = (.ok handle, next)) :
    ∃ module, c.modules.find? (·.path = path) = some module ∧ module.openError = none ∧
      handle = ⟨c.next, module.id, path⟩ ∧
      next = { c with references := (c.next, module) :: c.references, next := c.next + 1 } := by
  simp only [surroundings, openModule] at opening
  split at opening
  · cases opening
  · next module found =>
    split at opening
    · cases opening
    · next opens =>
      cases opening
      exact ⟨module, found, opens, rfl, rfl⟩

/-- A module that does not open changes nothing, and none was declared to open. -/
theorem failed_undeclared {c next : Catalog} {path : Path} {diagnostic : String}
    (opening : surroundings.openModule path c = (.error diagnostic, next)) :
    next = c ∧ ∀ module, c.modules.find? (·.path = path) = some module →
      module.openError ≠ none := by
  simp only [surroundings, openModule] at opening
  split at opening
  · next missing =>
    cases opening
    exact ⟨rfl, fun module found => nomatch missing.symm.trans found⟩
  · next module found =>
    split at opening
    · next fails =>
      cases opening
      refine ⟨rfl, fun other same opens => ?_⟩
      cases found.symm.trans same
      cases fails.symm.trans opens
    · cases opening

/-- Modules are declared with descriptors that suit their identities, and references
lead to such descriptors. -/
structure Faithful (m : Memory) (suits : ModuleId → Descriptor → Prop) (past : List Event)
    (c : Catalog) : Prop where
  memory : c.memory = m
  declared : ∀ module ∈ c.modules, ∀ d, module.descriptor = some d → suits module.id d
  opened : ∀ entry ∈ c.references, ∀ d, entry.2.descriptor = some d → suits entry.2.id d
  fresh : ∀ entry ∈ c.references, entry.1 < c.next
  numbered : ∀ h, .opened h ∈ past → h.number < c.next
  identified : ∀ h, .opened h ∈ past → ∀ entry ∈ c.references, entry.1 = h.number →
    entry.2.id = h.id
  answered : ∀ h d, .resolved h (.ok d) ∈ past → suits h.id d

namespace Faithful

variable {m : Memory} {suits : ModuleId → Descriptor → Prop} {past : List Event} {c : Catalog}

theorem start {modules : List DeclaredModule}
    (declared : ∀ module ∈ modules, ∀ d, module.descriptor = some d → suits module.id d) :
    Faithful m suits [] (ofModules m modules) :=
  ⟨rfl, declared, nofun, nofun, nofun, nofun, nofun⟩

/-- An event that neither opens nor resolves adds nothing to the past that counts. -/
theorem other {e : Event} (faithful : Faithful m suits past c) (unopened : ∀ h, e ≠ .opened h)
    (unanswered : ∀ h d, e ≠ .resolved h (.ok d)) : Faithful m suits (past ++ [e]) c := by
  have opened_before : ∀ h, .opened h ∈ past ++ [e] → .opened h ∈ past := by
    intro h member
    exact (List.mem_append.mp member).resolve_right fun last =>
      unopened h (List.mem_singleton.mp last).symm
  refine { faithful with numbered := ?_, identified := ?_, answered := ?_ }
  · exact fun h member => faithful.numbered h (opened_before h member)
  · exact fun h member => faithful.identified h (opened_before h member)
  · intro h d member
    exact faithful.answered h d ((List.mem_append.mp member).resolve_right fun last =>
      unanswered h d (List.mem_singleton.mp last).symm)

theorem opening {path : Path} {module : DeclaredModule} (faithful : Faithful m suits past c)
    (declared : module ∈ c.modules) :
    Faithful m suits (past ++ [.opened ⟨c.next, module.id, path⟩])
      { c with references := (c.next, module) :: c.references, next := c.next + 1 } := by
  refine ⟨faithful.memory, faithful.declared, ?_, ?_, ?_, ?_, ?_⟩
  · intro entry member
    rcases List.mem_cons.mp member with rfl | member
    · exact faithful.declared module declared
    · exact faithful.opened entry member
  · intro entry member
    rcases List.mem_cons.mp member with rfl | member
    · exact Nat.lt_succ_self _
    · exact Nat.lt_succ_of_lt (faithful.fresh entry member)
  · intro h member
    rcases List.mem_append.mp member with member | last
    · exact Nat.lt_succ_of_lt (faithful.numbered h member)
    · cases List.mem_singleton.mp last
      exact Nat.lt_succ_self _
  · intro h member entry listed same
    rcases List.mem_append.mp member with member | last
    · rcases List.mem_cons.mp listed with rfl | listed
      · exact absurd same (Nat.ne_of_gt (faithful.numbered h member))
      · exact faithful.identified h member entry listed same
    · cases List.mem_singleton.mp last
      rcases List.mem_cons.mp listed with rfl | listed
      · rfl
      · exact absurd same (Nat.ne_of_lt (faithful.fresh entry listed))
  · intro h d member
    exact faithful.answered h d (by simpa using member)

theorem resolving {h : Handle} {answer : Except String Descriptor} {next : Catalog}
    (faithful : Faithful m suits past c) (opened : .opened h ∈ past)
    (resolving : surroundings.resolve h c = (answer, next)) :
    Faithful m suits (past ++ [.resolved h answer]) next := by
  have same : next = c := by
    cases resolving
    rfl
  subst same
  cases answer with
  | error diagnostic => exact faithful.other nofun nofun
  | ok d =>
    have suitable : suits h.id d := by
      simp only [surroundings, resolve, Prod.mk.injEq, and_true] at resolving
      split at resolving
      · cases resolving
      · next module found =>
        obtain ⟨before, after, split, _⟩ := List.lookup_eq_some_iff.mp found
        have listed : (h.number, module) ∈ next.references := by simp [split]
        split at resolving
        · cases resolving
        · next exported =>
          cases resolving
          rw [← faithful.identified h opened _ listed rfl]
          exact faithful.opened _ listed d exported
        · cases resolving
    refine { faithful with numbered := ?_, identified := ?_, answered := ?_ }
    · exact fun g member => faithful.numbered g (by simpa using member)
    · exact fun g member => faithful.identified g (by simpa using member)
    · intro g e member
      rcases List.mem_append.mp member with member | last
      · exact faithful.answered g e member
      · cases List.mem_singleton.mp last
        exact suitable

theorem closing {h : Handle} (faithful : Faithful m suits past c) :
    Faithful m suits (past ++ [.closed h]) (surroundings.close h c) := by
  have later := faithful.other (e := .closed h) nofun nofun
  have fewer : ∀ entry ∈ (surroundings.close h c).references, entry ∈ c.references :=
    fun entry member => (List.mem_filter.mp member).1
  exact ⟨later.memory, later.declared, fun entry member => later.opened entry (fewer entry member),
    fun entry member => later.fresh entry (fewer entry member), later.numbered,
    fun g opened entry member => later.identified g opened entry (fewer entry member),
    later.answered⟩

end Faithful

theorem keeps_faithful (m : Memory) (suits : ModuleId → Descriptor → Prop) :
    surroundings.Keeps (Faithful m suits) where
  opening faithful opening := by
    obtain ⟨module, found, _, rfl, rfl⟩ := opened_declared opening
    exact faithful.opening (List.mem_of_find?_eq_some found)
  failing faithful opening := by
    rw [(failed_undeclared opening).1]
    exact faithful.other nofun nofun
  resolving faithful opened resolving := faithful.resolving opened resolving
  closing faithful _ := faithful.closing
  hosting faithful internal := faithful.other (by rintro h rfl; exact internal)
    (by rintro h d rfl; exact internal)

/-- No two references were numbered alike, and those that are open are on the list. -/
structure Tallied (m : Memory) (suits : ModuleId → Descriptor → Prop) (past : List Event)
    (c : Catalog) : Prop extends Faithful m suits past c where
  apart : ∀ g h, .opened g ∈ past → .opened h ∈ past → g.number = h.number → g = h
  once : ∀ h, opens (· = h) past ≤ 1
  listed : ∀ h, closes (· = h) past < opens (· = h) past →
    ∃ entry ∈ c.references, entry.1 = h.number

namespace Tallied

variable {m : Memory} {suits : ModuleId → Descriptor → Prop} {past : List Event} {c next : Catalog}

theorem start {modules : List DeclaredModule}
    (declared : ∀ module ∈ modules, ∀ d, module.descriptor = some d → suits module.id d) :
    Tallied m suits [] (ofModules m modules) :=
  ⟨.start declared, nofun, by simp [opens], by simp [opens]⟩

/-- An event that neither opens nor closes leaves the list as it is. -/
theorem quiet {e : Event} (tallied : Tallied m suits past c) (quiet : e.Quiet)
    (faithful : Faithful m suits (past ++ [e]) next) (same : next.references = c.references) :
    Tallied m suits (past ++ [e]) next := by
  have opened : ∀ p, opens p [e] = 0 := fun p => opens_quiet p (by simpa using quiet)
  have closed : ∀ p, closes p [e] = 0 := fun p => closes_quiet p (by simpa using quiet)
  have before : ∀ h, .opened h ∈ past ++ [e] → .opened h ∈ past := by
    intro h member
    refine (List.mem_append.mp member).resolve_right fun last => ?_
    rw [← List.mem_singleton.mp last] at quiet
    exact quiet
  refine ⟨faithful, fun g h first second => ?_, fun h => ?_, fun h => ?_⟩
  · exact tallied.apart g h (before g first) (before h second)
  · rw [opens_append, opened]
    exact tallied.once h
  · rw [opens_append, closes_append, opened, closed, same]
    exact tallied.listed h

theorem opening {module : DeclaredModule} {path : Path} (tallied : Tallied m suits past c)
    (faithful : Faithful m suits (past ++ [.opened ⟨c.next, module.id, path⟩]) next)
    (same : next.references = (c.next, module) :: c.references) :
    Tallied m suits (past ++ [.opened ⟨c.next, module.id, path⟩]) next := by
  generalize new : (⟨c.next, module.id, path⟩ : Handle) = handle at faithful ⊢
  have number : handle.number = c.next := by rw [← new]
  have fresh : ∀ h, .opened h ∈ past → h.number ≠ handle.number := by
    intro h inside
    have numbered := tallied.numbered h inside
    omega
  have cases_of : ∀ h, .opened h ∈ past ++ [.opened handle] → .opened h ∈ past ∨ h = handle := by
    intro h member
    simpa using member
  refine ⟨faithful, fun g h first second alike => ?_, fun h => ?_, fun h still => ?_⟩
  · rcases cases_of g first with old | last
    · rcases cases_of h second with older | last
      · exact tallied.apart g h old older alike
      · exact absurd (alike.trans (congrArg _ last)) (fresh g old)
    · rcases cases_of h second with older | latest
      · exact absurd (alike.symm.trans (congrArg _ last)) (fresh h older)
      · exact last.trans latest.symm
  · rw [opens_append, opens_opened]
    by_cases same : handle = h
    · subst same
      have none : ¬ 0 < opens (· = handle) past := fun counted =>
        fresh handle (opened_of_opens counted) rfl
      have one : [handle].countP (· = handle) = 1 := by simp
      omega
    · have others : [handle].countP (· = h) = 0 := by simp [same]
      have once := tallied.once h
      omega
  · rw [same]
    by_cases same : handle = h
    · exact ⟨(c.next, module), List.mem_cons_self, by rw [← same, number]⟩
    · rw [opens_append, closes_append, opens_opened, closes_opened] at still
      have others : [handle].countP (· = h) = 0 := by simp [same]
      obtain ⟨entry, there, number⟩ := tallied.listed h (by omega)
      exact ⟨entry, List.mem_cons_of_mem _ there, number⟩

theorem closing {handle : Handle} (tallied : Tallied m suits past c)
    (faithful : Faithful m suits (past ++ [.closed handle]) (surroundings.close handle c))
    (inside : closes (· = handle) past < opens (· = handle) past) :
    Tallied m suits (past ++ [.closed handle]) (surroundings.close handle c) := by
  refine ⟨faithful, fun g h first second => ?_, fun h => ?_, fun h still => ?_⟩
  · exact tallied.apart g h (by simpa using first) (by simpa using second)
  · rw [opens_append, opens_closed]
    exact tallied.once h
  · rw [opens_append, closes_append, opens_closed, closes_closed] at still
    have different : h ≠ handle := by
      rintro rfl
      have one : [h].countP (· = h) = 1 := by simp
      have once := tallied.once h
      omega
    obtain ⟨entry, there, number⟩ := tallied.listed h (by omega)
    refine ⟨entry, List.mem_filter.mpr ⟨there, ?_⟩, number⟩
    have opened : Event.opened h ∈ past := opened_of_opens (by omega)
    have other : Event.opened handle ∈ past := opened_of_opens (by omega)
    have apart : entry.1 ≠ handle.number := fun alike =>
      different (tallied.apart h handle opened other (number.symm.trans alike))
    simpa using apart

end Tallied

theorem keeps_tallied (m : Memory) (suits : ModuleId → Descriptor → Prop) :
    surroundings.Keeps (Tallied m suits) where
  opening tallied opening := by
    have faithful := (keeps_faithful m suits).opening tallied.toFaithful opening
    obtain ⟨module, _, _, rfl, rfl⟩ := opened_declared opening
    exact tallied.opening faithful rfl
  failing tallied opening := by
    have faithful := (keeps_faithful m suits).failing tallied.toFaithful opening
    exact tallied.quiet trivial faithful (by rw [(failed_undeclared opening).1])
  resolving tallied opened resolving := by
    refine tallied.quiet trivial ((keeps_faithful m suits).resolving tallied.toFaithful opened
      resolving) ?_
    cases resolving
    rfl
  closing tallied inside :=
    tallied.closing ((keeps_faithful m suits).closing tallied.toFaithful inside) inside
  hosting tallied internal :=
    tallied.quiet internal.quiet ((keeps_faithful m suits).hosting tallied.toFaithful internal) rfl

theorem steady_faithful (m : Memory) (suits : ModuleId → Descriptor → Prop) :
    surroundings.Steady (Faithful m suits) fun _ => m.plugin? := by
  intro past c faithful earlier h d _
  rw [← faithful.memory]
  rfl

/-- A run on declared modules, to which nothing happens elsewhere. -/
theorem within_faithful {m : Memory} {suits : ModuleId → Descriptor → Prop}
    {modules : List DeclaredModule} {calls : List (Call Catalog)}
    (declared : ∀ module ∈ modules, ∀ d, module.descriptor = some d → suits module.id d)
    (alone : ∀ change, ¬ Run.Alters calls change) :
    Run.Within surroundings (ofModules m modules) calls (Faithful m suits) :=
  ⟨Faithful.start declared, keeps_faithful m suits, fun change alters => (alone change alters).elim⟩

end Catalog
end CodecHost
