import CodecHost.Proofs.Runs

/-! References are conserved. Whatever is called and whatever fails, the module table
holds exactly the references that are open, a close only ever concerns an open one,
and the drop of the context leaves none behind. -/
namespace CodecHost

open Ledger

variable {σ : Type} {S : Surroundings σ} {settings : Settings} {elsewhere : (σ → σ) → Prop}

section Accounts

variable {past events : List Event}

/-- The reference is one on a given module, opened by a given path. -/
def Handle.leadsTo (id : ModuleId) (path : Path) (h : Handle) : Bool := h.id = id ∧ h.path = path

/-- The table is in order and holds what the ledger says is open. -/
structure Host.Accounted (past : List Event) (host : Host σ) : Prop where
  kept : host.modules.WellKept
  books : Balanced past host.modules.handles

namespace Host.Accounted

variable {host last : Host σ}

theorem attached {handle : Handle} {record : Record} {system : σ}
    (accounted : Accounted past host) (tracked : host.modules.record? handle.id = some record) :
    Accounted (past ++ [.opened handle])
      { host with modules := host.modules.attach handle, system } := by
  obtain ⟨own, before, after, split, attached⟩ := ModuleTable.attach_split tracked
  have listed : record ∈ host.modules.records := by simp [split]
  have handles : (handle :: host.modules.handles).Perm (host.modules.attach handle).handles := by
    rw [attached]
    refine ((ModuleTable.handles_split split).cons handle).trans ?_
    refine .trans ?_ (ModuleTable.handles_middle before _ after).symm
    simp only [List.append_assoc, List.singleton_append]
    exact List.perm_middle.symm
  refine ⟨?_, accounted.books.opened.perm handles⟩
  simp only [attached]
  refine accounted.kept.replace split (by simp) ?_
  intro h member
  rcases List.mem_append.mp member with member | member
  · exact accounted.kept.owned record listed h member
  · rw [List.mem_singleton.mp member, own]

theorem released {record : Record} {before after : List Record} {kept : List Handle}
    {handle : Handle} {n : Notice} {system : σ} (accounted : Accounted past host)
    (split : host.modules.records = before ++ record :: after)
    (handles : record.handles = kept ++ [handle]) (others : kept ≠ []) :
    Accounted (past ++ [.notice n, .closed handle])
      { host with modules := ⟨before ++ { record with handles := kept } :: after⟩, system } := by
  have listed : record ∈ host.modules.records := by simp [split]
  refine ⟨accounted.kept.replace split others ?_, ?_⟩
  · intro h member
    exact accounted.kept.owned record listed h (by simp [handles, member])
  · have noted : Balanced (past ++ [.notice n]) _ := accounted.books.quiet (by simp [Event.Quiet])
    rw [List.append_cons]
    refine (noted.perm ?_).closed
    refine (ModuleTable.handles_split split).trans ?_
    have left := ModuleTable.handles_middle before { record with handles := kept } after
    rw [handles, List.append_assoc]
    exact List.perm_middle.trans (left.symm.cons handle)

theorem removed {record : Record} {before after : List Record} {handle : Handle}
    {hooks : List Event} {registry : Registry} {system : σ} (accounted : Accounted past host)
    (split : host.modules.records = before ++ record :: after)
    (handles : record.handles = [handle]) (internal : ∀ e ∈ hooks, e.Internal) :
    Accounted (past ++ (hooks ++ [.notice (.unloaded record.id)] ++ [.closed handle]))
      ⟨registry, ⟨ModuleTable.swapRemove host.modules.records before.length⟩, system⟩ := by
  have moved :
      (ModuleTable.swapRemove host.modules.records before.length).Perm (before ++ after) := by
    rw [split]
    exact ModuleTable.swapRemove_perm before record after
  constructor
  · refine accounted.kept.shrink (.trans ?_ (moved.symm.cons record))
    rw [split]
    exact List.perm_middle
  · have silent : ∀ e ∈ hooks ++ [.notice (.unloaded record.id)], e.Quiet := by
      intro e member
      rcases List.mem_append.mp member with member | member
      · exact (internal e member).quiet
      · rw [List.mem_singleton.mp member]
        trivial
    rw [← List.append_assoc]
    refine Balanced.closed ((accounted.books.quiet silent).perm ?_)
    refine (ModuleTable.handles_split split).trans ?_
    rw [handles]
    exact (moved.symm.flatMap_right _).cons handle

theorem forced {record : Record} {rest : List Record} {hooks : List Event} {registry : Registry}
    {system : σ} (accounted : Accounted past host) (split : host.modules.records = record :: rest)
    (internal : ∀ e ∈ hooks, e.Internal) :
    Accounted (past ++ (hooks ++ record.handles.map .closed)) ⟨registry, ⟨rest⟩, system⟩ := by
  constructor
  · exact accounted.kept.shrink (.of_eq split)
  · rw [← List.append_assoc]
    have books := accounted.books.quiet fun e member => (internal e member).quiet
    refine Balanced.closed_all (books.perm ?_)
    rw [ModuleTable.handles, split]
    exact ModuleTable.handles_middle [] record rest

theorem refused {handle : Handle} {answer : Except String Descriptor} {system : σ}
    (accounted : Accounted past host) :
    Accounted (past ++ [.opened handle, .resolved handle answer, .closed handle])
      { host with system } := by
  have opened : Balanced (past ++ [.opened handle]) (handle :: host.modules.handles) :=
    accounted.books.opened
  have resolved : Balanced (past ++ [.opened handle] ++ [.resolved handle answer]) _ :=
    opened.quiet (by simp [Event.Quiet])
  exact ⟨accounted.kept, by simpa using resolved.closed⟩

theorem entered {handle : Handle} {d : Descriptor} {hooks : List Event} {registry : Registry}
    {system : σ} (accounted : Accounted past host)
    (new : host.modules.record? handle.id = none) (internal : ∀ e ∈ hooks, e.Internal) :
    Accounted (past ++ .opened handle :: .resolved handle (.ok d) :: hooks)
      ⟨registry, host.modules.insert d handle, system⟩ := by
  refine ⟨accounted.kept.insert new, ?_⟩
  have silent : ∀ e ∈ .resolved handle (.ok d) :: hooks, e.Quiet := by
    intro e member
    rcases List.mem_cons.mp member with rfl | member
    · trivial
    · exact (internal e member).quiet
  rw [List.append_cons]
  exact (accounted.books.opened.quiet silent).perm ModuleTable.handles_insert.symm

theorem quiet {registry : Registry} {system : σ} (accounted : Accounted past host)
    (quiet : ∀ e ∈ events, e.Quiet) :
    Accounted (past ++ events) ⟨registry, host.modules, system⟩ :=
  ⟨accounted.kept, accounted.books.quiet quiet⟩

theorem internal {registry : Registry} {system : σ} (accounted : Accounted past host)
    (internal : ∀ e ∈ events, e.Internal) :
    Accounted (past ++ events) ⟨registry, host.modules, system⟩ :=
  accounted.quiet fun e member => (internal e member).quiet

end Host.Accounted

theorem Host.Loading.accounted {host last : Host σ} (loading : Host.Loading S host events last)
    (accounted : Host.Accounted past host) : Host.Accounted (past ++ events) last := by
  cases loading with
  | noted n => exact accounted.quiet (by simp [Event.Quiet])
  | unopened => exact accounted.quiet (by simp [Event.Quiet])
  | attached _ tracked => exact accounted.attached tracked
  | refused => exact accounted.refused
  | entered _ new _ registering => exact accounted.entered new registering.internal

/-- Every move of a host keeps the account. -/
theorem Host.Move.accounted {host last : Host σ} (move : Host.Move S host events last)
    (accounted : Host.Accounted past host) : Host.Accounted (past ++ events) last := by
  cases move with
  | loading loading => exact loading.accounted accounted
  | unloading unloading =>
    cases unloading with
    | released split _ _ handles others => exact accounted.released split handles others
    | removed split _ _ handles unregistering =>
      exact accounted.removed split handles unregistering.internal
  | forced split unregistering => exact accounted.forced split unregistering.internal

/-- Every move of a context keeps the account. -/
theorem Context.Move.accounted {c last : Context σ}
    (move : Context.Move S settings elsewhere past c events last)
    (accounted : c.host.Accounted past) : last.host.Accounted (past ++ events) := by
  cases move with
  | growing growing =>
    cases growing with
    | hosted loading => exact loading.accounted accounted
    | asked => exact accounted.internal (by simp [Event.Internal])
    | brought _ _ _ registering => exact accounted.internal registering.internal
    | counted | activated => exact accounted.quiet (by simp)
  | hosted move => exact move.accounted accounted
  | cleared =>
    refine accounted.internal fun e member => ?_
    obtain ⟨p, _, rfl⟩ := Registry.mem_clearing member
    trivial
  | altered => exact accounted.quiet (by simp)

end Accounts

namespace Run

variable {system : σ} {calls : List (Call σ)}

theorem accounted_start : (Context.fresh system).host.Accounted [] :=
  ⟨ModuleTable.wellKept_empty, .nil⟩

/-- The account holds after every sequence of calls. -/
theorem accounted (S : Surroundings σ) (settings : Settings) (system : σ) (calls : List (Call σ)) :
    (context S settings system calls).host.Accounted (past S settings system calls) :=
  (moves S settings system calls).preserve (I := fun past c => c.host.Accounted past)
    (fun move accounted => move.accounted accounted) accounted_start

/-- The account holds after the drop, when the table is empty. -/
theorem trace_balanced (S : Surroundings σ) (settings : Settings) (system : σ)
    (calls : List (Call σ)) : Balanced (trace S settings system calls) [] := by
  have accounted : (ended S settings system calls).host.Accounted (trace S settings system calls) :=
    (trace_moves S settings system calls).preserve (I := fun past c => c.host.Accounted past)
      (fun move accounted => move.accounted accounted) accounted_start
  have empty : (ended S settings system calls).host.modules = .empty := Context.drop_modules _
  have books := accounted.books
  rwa [empty] at books

/-- **References are conserved.** After every sequence of calls the records of the
table are of different modules, each holding at least one reference and only such on
its own module; of each module and path as many references are open as the table
holds. No close concerns a reference that is not open, and after the drop none is. -/
theorem handles_conserved (S : Surroundings σ) (settings : Settings) (system : σ)
    (calls : List (Call σ)) :
    (context S settings system calls).modules.WellKept ∧
    (∀ id path,
      (opens (Handle.leadsTo id path) (past S settings system calls) : Int) -
          closes (Handle.leadsTo id path) (past S settings system calls) =
        ((context S settings system calls).modules.handles.countP (Handle.leadsTo id path) : Nat)) ∧
    (∀ before h after, trace S settings system calls = before ++ .closed h :: after →
      closes (· = h) before < opens (· = h) before) ∧
    ∀ id path,
      (opens (Handle.leadsTo id path) (trace S settings system calls) : Int) -
        closes (Handle.leadsTo id path) (trace S settings system calls) = 0 := by
  have during := accounted S settings system calls
  have afterwards := trace_balanced S settings system calls
  refine ⟨during.kept, ?_, ?_, ?_⟩
  · intro id path
    have balance := during.books.balance (Handle.leadsTo id path)
    have same : (context S settings system calls).modules =
      (context S settings system calls).host.modules := rfl
    rw [same]
    omega
  · intro before h after split
    exact afterwards.closings before (.closed h) after split h rfl
  · intro id path
    have balance := afterwards.balance (Handle.leadsTo id path)
    rw [List.countP_nil] at balance
    omega

end Run
end CodecHost
