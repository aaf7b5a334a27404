import CodecHost.Context
import CodecHost.Proofs.HostMoves

/-! Everything that calls on a context can do, as moves. What may come next depends
on the past in one place: the built-ins bring a plugin only after they were asked.
The system may change on its own between calls, in the ways that `elsewhere`
allows. -/
namespace CodecHost

variable {σ α β : Type} {S : Surroundings σ} {settings : Settings} {elsewhere : (σ → σ) → Prop}

/-- At call number `n` the built-ins get as far as `d`: nothing before it makes the
call fail. -/
def Builtins.Brings (accepts : Descriptor → Prop) (b : Builtins) (n : Nat) (d : Descriptor) :
    Prop :=
  ∃ front back, b.round n = front ++ some d :: back ∧
    ∀ entry ∈ front ++ [some d], ∃ e, entry = some e ∧ accepts e

namespace Context

/-- A move that takes nothing away. -/
inductive Growing (S : Surroundings σ) (settings : Settings) (past : List Event) :
    Context σ → List Event → Context σ → Prop where
  /-- The host loads. -/
  | hosted {c : Context σ} {events : List Event} {host : Host σ}
      (loading : Host.Loading S c.host events host) :
      Growing S settings past c events { c with host }
  /-- The clients are counted anew. -/
  | counted {c : Context σ} (count : Nat) :
      Growing S settings past c [] { c with initCount := count }
  /-- The built-ins are asked to register. -/
  | asked {c : Context σ} {b : Builtins} (routine : settings.builtins = some b) :
      Growing S settings past c [.builtins c.builtinRounds]
        { c with builtinRounds := c.builtinRounds + 1 }
  /-- The built-ins register a plugin. -/
  | brought {c : Context σ} {b : Builtins} {n : Nat} {d : Descriptor} {registry : Registry}
      {hooks : List Event} (routine : settings.builtins = some b) (asked : .builtins n ∈ past)
      (brings : b.Brings (S.memory c.host.system).Accepts n d)
      (registering : Registry.Registering (S.memory c.host.system) d c.host.registry
        ⟨.ok (), registry, hooks⟩) :
      Growing S settings past c hooks { c with host := { c.host with registry } }
  /-- The built-ins count as active. -/
  | activated {c : Context σ} :
      Growing S settings past c [] { c with builtinsRegistered := true }

/-- One move of a context. -/
inductive Move (S : Surroundings σ) (settings : Settings) (elsewhere : (σ → σ) → Prop)
    (past : List Event) : Context σ → List Event → Context σ → Prop where
  | growing {c last : Context σ} {events : List Event}
      (growing : Growing S settings past c events last) :
      Move S settings elsewhere past c events last
  /-- The host loads and unloads. -/
  | hosted {c : Context σ} {events : List Event} {host : Host σ}
      (move : Host.Move S c.host events host) :
      Move S settings elsewhere past c events { c with host }
  /-- Everything is unregistered at once. -/
  | cleared {c : Context σ} :
      Move S settings elsewhere past c (c.host.registry.clearing (S.memory c.host.system))
        { c with host := { c.host with registry := .empty }, builtinsRegistered := false }
  /-- The system changes on its own. -/
  | altered {c : Context σ} {change : σ → σ} (may : elsewhere change) :
      Move S settings elsewhere past c []
        { c with host := { c.host with system := change c.host.system } }

/-- A step of the host, while the rest of the context stays. -/
inductive Inside (R : Host σ → List Event → Host σ → Prop) (past : List Event) :
    Context σ → List Event → Context σ → Prop where
  | step {c : Context σ} {events : List Event} {host : Host σ} (inside : R c.host events host) :
      Inside R past c events { c with host }

variable {c : Context σ} {past : List Event}

theorem Inside.growing {events : List Event} {last : Context σ}
    (inside : Inside (Host.Loading S) past c events last) :
    Growing S settings past c events last := by
  cases inside with
  | step loading => exact .hosted loading

theorem Inside.move {events : List Event} {last : Context σ}
    (inside : Inside (Host.Move S) past c events last) :
    Move S settings elsewhere past c events last := by
  cases inside with
  | step move => exact .hosted move

/-- The action takes nothing away. -/
def Grows (S : Surroundings σ) (settings : Settings) (a : Action (Context σ) α) : Prop :=
  Performs (Growing S settings) a

/-- The action takes and gives. -/
def Moving (S : Surroundings σ) (settings : Settings) (elsewhere : (σ → σ) → Prop)
    (a : Action (Context σ) α) : Prop :=
  Performs (Move S settings elsewhere) a

theorem Grows.moving {a : Action (Context σ) α} (grows : Grows S settings a) :
    Moving S settings elsewhere a := grows.imp .growing

theorem grows_note (n : Notice) : Grows S settings (Action.note n : Action (Context σ) Unit) :=
  performs_single fun _ _ => .hosted (.noted n)

theorem moving_note (n : Notice) :
    Moving S settings elsewhere (Action.note n : Action (Context σ) Unit) := (grows_note n).moving

theorem performs_host {R : Host σ → List Event → Host σ → Prop} {a : Action (Host σ) α}
    (performs : Performs (fun _ => R) a) : Performs (Inside R) (onHost a) :=
  performs.focus (fun _ => rfl) fun {c _ host _ _} inside => .step (c := { c with host }) inside

theorem moving_host {a : Action (Host σ) α} (moving : Host.Moving S a) :
    Moving S settings elsewhere (onHost a) := (performs_host moving).imp Inside.move

theorem grows_host {a : Action (Host σ) α} (loads : Host.Loads S a) :
    Grows S settings (onHost a) := (performs_host loads).imp Inside.growing

theorem onHost_run (a : Action (Host σ) α) :
    (onHost a).run c =
      ⟨(a.run c.host).value, { c with host := (a.run c.host).state }, (a.run c.host).events⟩ := rfl

/-! Built-ins. -/

theorem registerEach_trail {b : Builtins} {n : Nat} (routine : settings.builtins = some b)
    {front back : List (Option Descriptor)} (round : b.round n = front ++ back)
    (reached : ∀ entry ∈ front, ∃ e, entry = some e ∧ (S.memory c.host.system).Accepts e)
    (asked : .builtins n ∈ past) :
    Trail (Growing S settings) past c ((registerEach S back).run c.host).events
      { c with host := ((registerEach S back).run c.host).state } := by
  induction back generalizing front past c with
  | nil => exact .done
  | cons entry rest ih =>
    cases entry with
    | none => exact .done
    | some d =>
      simp only [registerEach, Action.run_bind, Host.onRegistry_run]
      have outcome := Registry.register_outcome (S.memory c.host.system) d c.host.registry
      generalize (Registry.register (S.memory c.host.system) d).run c.host.registry = step
        at outcome ⊢
      obtain ⟨value, registry, hooks⟩ := step
      cases value with
      | error e =>
        cases outcome with
        | rejected => exact .done
      | ok _ =>
        have further : ∀ entry ∈ front ++ [some d],
            ∃ e, entry = some e ∧ (S.memory c.host.system).Accepts e := by
          intro entry member
          rcases List.mem_append.mp member with member | member
          · exact reached entry member
          · exact ⟨d, List.mem_singleton.mp member, outcome.plugins.1⟩
        refine .step (R := Growing S settings)
          (.brought routine asked ⟨front, rest, round, further⟩ outcome) ?_
        have later : b.round n = (front ++ [some d]) ++ rest := by simpa using round
        exact ih (c := { c with host := { c.host with registry } }) later further
          (List.mem_append_left hooks asked)

theorem grows_registerBuiltins : Grows S settings (registerBuiltins S settings) := by
  intro past c
  unfold registerBuiltins
  cases routine : settings.builtins with
  | none => exact .done
  | some b =>
    simp only [Action.run_bind, Action.run_get, Action.run_modify, Action.run_emit, onHost_run,
      List.nil_append]
    exact .step (R := Growing S settings) (.asked routine)
      (registerEach_trail routine (List.nil_append _).symm (by simp) (by simp))

theorem grows_activateBuiltins : Grows S settings (activateBuiltins S settings) := by
  refine performs_bind grows_registerBuiltins fun answer => ?_
  cases answer with
  | error e => exact performs_pure _
  | ok _ =>
    exact performs_bind (performs_single fun _ _ => .activated) fun _ => performs_pure _

theorem grows_start : Grows S settings (start S settings) := by
  refine performs_bind grows_activateBuiltins fun answer => ?_
  cases answer with
  | error e => exact performs_pure _
  | ok _ =>
    refine performs_get_bind fun c => ?_
    exact performs_bind (grows_note _) fun _ => performs_pure _

/-! Clients. -/

theorem loadDirectories_inside (directories : List Path) :
    Performs (Inside (Host.Loading S)) (loadDirectories S directories) := by
  induction directories with
  | nil => exact performs_pure _
  | cons directory rest ih =>
    refine performs_bind (performs_host (Host.loads_loadDirectory directory none)) fun answer => ?_
    obtain ⟨count, buffer⟩ := answer
    cases count with
    | error e => exact performs_pure _
    | ok count =>
      exact performs_bind (performs_single fun _ _ => .step (.noted _)) fun _ => ih

theorem loadSearchPath_inside : Performs (Inside (Host.Loading S)) (loadSearchPath S settings) :=
  performs_get_bind fun _ => loadDirectories_inside _

theorem grows_loadSearchPath : Grows S settings (loadSearchPath S settings) :=
  loadSearchPath_inside.imp Inside.growing

theorem grows_init : Grows S settings (init S settings) := by
  refine performs_bind (performs_single fun _ c => .counted (c.initCount + 1)) fun _ => ?_
  refine performs_get_bind fun c => ?_
  refine performs_bind (grows_note _) fun _ => ?_
  split
  · split
    · exact grows_loadSearchPath
    · refine performs_bind grows_activateBuiltins fun answer => ?_
      cases answer with
      | error e => exact performs_pure _
      | ok _ => exact grows_loadSearchPath
  · exact performs_pure _

theorem teardown_moving : Moving S settings elsewhere (teardown S) := by
  intro past c
  have rest : Moving S settings elsewhere
      (onHost (Host.unloadAll S) >>= fun n => Action.note (.tornDown n)) :=
    performs_bind (moving_host Host.unloadAll_moving) fun _ => moving_note _
  unfold teardown
  simp only [Action.run_bind, onHost_run, Host.onRegistry_run, Registry.unregisterAllDecoders_run,
    Registry.unregisterAllEncoders_run, Action.run_modify, List.nil_append]
  rw [← List.append_assoc]
  exact .step (R := Move S settings elsewhere) .cleared (rest _ _)

/-- A teardown leaves nothing active and nothing loaded. -/
theorem teardown_state (c : Context σ) :
    ∃ system, ((teardown S).run c).state =
      { c with host := .fresh system, builtinsRegistered := false } := by
  simp only [teardown, Action.run_bind, onHost_run, Host.onRegistry_run,
    Registry.unregisterAllDecoders_run, Registry.unregisterAllEncoders_run, Action.run_modify,
    Action.run_note]
  generalize cleared : (⟨⟨[], []⟩, c.host.modules, c.host.system⟩ : Host σ) = host
  have idle : host.registry = .empty := by rw [← cleared]; rfl
  have registry := Host.unloadRecords_idle host.modules.records
    { host with modules := .empty } idle (S := S)
  have modules := Host.unloadAll_modules (S := S) host
  refine ⟨((Host.unloadAll S).run host).state.system, ?_⟩
  rw [Host.fresh, ← modules, ← registry]
  rfl

/-- The last client to leave tears everything down. -/
theorem deinit_last {c : Context σ} (lonely : c.initCount = 1) :
    (deinit S).run c =
      ⟨(), ((teardown S).run { c with initCount := 0 }).state,
        .notice (.deinitCounted 0) :: ((teardown S).run { c with initCount := 0 }).events⟩ := by
  simp [deinit, lonely]

/-- Any other client that leaves is only counted. -/
theorem deinit_others {c : Context σ} (others : c.initCount ≠ 1) :
    ((deinit S).run c).state = { c with initCount := c.initCount - 1 } := by
  by_cases clients : c.initCount = 0
  · have same : { c with initCount := 0 } = c := by rw [← clients]
    simp [deinit, clients, same]
  · simp [deinit, clients, others]

/-- A client that leaves takes nothing away, or everything. -/
theorem deinit_state (c : Context σ) :
    (∃ count, ((deinit S).run c).state = { c with initCount := count }) ∨
      ∃ system, ((deinit S).run c).state =
        { c with host := .fresh system, initCount := 0, builtinsRegistered := false } := by
  by_cases lonely : c.initCount = 1
  · obtain ⟨system, state⟩ := teardown_state (S := S) { c with initCount := 0 }
    exact .inr ⟨system, by rw [deinit_last lonely, state]⟩
  · exact .inl ⟨c.initCount - 1, deinit_others lonely⟩

theorem deinit_moving : Moving S settings elsewhere (deinit S) := by
  refine performs_get_bind fun c => ?_
  split
  · exact moving_note _
  · refine performs_bind
      (performs_single fun _ c => .growing (.counted (c.initCount - 1))) fun _ => ?_
    refine performs_bind (moving_note _) fun _ => ?_
    split
    · exact teardown_moving
    · exact performs_pure _

theorem drop_moving : Moving S settings elsewhere (drop S) := by
  refine performs_get_bind fun c => ?_
  split
  · exact teardown_moving
  · exact performs_bind (moving_note _) fun _ => teardown_moving

/-- A drop tears everything down, whatever goes to the log before. -/
theorem drop_run (c : Context σ) :
    ∃ notices : List Notice, (drop S).run c =
      ⟨(), ((teardown S).run c).state,
        notices.map .notice ++ ((teardown S).run c).events⟩ := by
  by_cases clients : c.initCount = 0
  · exact ⟨[], by simp [drop, clients]⟩
  · exact ⟨[.droppedEarly c.initCount], by simp [drop, clients]⟩

theorem drop_modules (c : Context σ) : ((drop S).run c).state.host.modules = .empty := by
  obtain ⟨system, state⟩ := teardown_state (S := S) c
  obtain ⟨notices, run⟩ := drop_run (S := S) c
  rw [run, state]
  rfl

theorem drop_registry (c : Context σ) : ((drop S).run c).state.host.registry = .empty := by
  obtain ⟨system, state⟩ := teardown_state (S := S) c
  obtain ⟨notices, run⟩ := drop_run (S := S) c
  rw [run, state]
  rfl

/-- A build answers what the built-ins answer and leaves what they leave. -/
theorem build_outcome (S : Surroundings σ) (settings : Settings) (system : σ) :
    (build S settings system).value = ((activateBuiltins S settings).run (fresh system)).value ∧
      (build S settings system).state =
        ((activateBuiltins S settings).run (fresh system)).state := by
  simp only [build, start, Action.run_bind]
  cases ((activateBuiltins S settings).run (fresh system)).value <;> exact ⟨rfl, rfl⟩

end Context
end CodecHost
