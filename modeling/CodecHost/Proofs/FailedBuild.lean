import CodecHost.Proofs.ActivePlugins
import CodecHost.Proofs.HookBalance

/-! What a failed build leaves behind. The built-ins register one plugin after the
other, so that when one of them does not register, the init hooks of those before it
have run. The registry they entered is given up with the build, and nothing ends them:
a failed build is balanced only when it fails at the start. -/
namespace CodecHost

variable {σ : Type} {S : Surroundings σ} {settings : Settings} {system : σ} {host : Host σ}
  {accepts : Descriptor → Prop} {round : List (Option Descriptor)} {p : Plugin}
  {past : List Event}

/-- A round registers these plugins and then fails: the routine gives up, or the host
cannot work with the next plugin. -/
structure FailsAfter (accepts : Descriptor → Prop) (round : List (Option Descriptor))
    (front : List Descriptor) : Prop where
  fit : ∀ d ∈ front, accepts d
  stops : ∃ stop back, round = front.map some ++ stop :: back ∧ ∀ d, stop = some d → ¬ accepts d

theorem failsAfter_cons {d : Descriptor} {front : List Descriptor} (fit : accepts d)
    (fails : FailsAfter accepts round front) :
    FailsAfter accepts (some d :: round) (d :: front) := by
  obtain ⟨stop, back, split, unfit⟩ := fails.stops
  exact ⟨List.forall_mem_cons.mpr ⟨fit, fails.fit⟩, stop, back, by simp [split], unfit⟩

namespace Context

/-- A round that fails has come as far as the plugins before the failure. -/
theorem registerEach_fails {e : PluginError}
    (failed : ((registerEach S round).run host).value = .error e) :
    ∃ front, FailsAfter (S.memory host.system).Accepts round front ∧
      ((registerEach S round).run host).state =
        ((registerEach S (front.map some)).run host).state := by
  induction round generalizing host with
  | nil => cases failed
  | cons entry rest ih =>
    cases entry with
    | none => exact ⟨[], ⟨by simp, none, rest, rfl, by simp⟩, rfl⟩
    | some d =>
      simp only [registerEach, Action.run_bind, Host.onRegistry_run] at failed ⊢
      have outcome := Registry.register_outcome (S.memory host.system) d host.registry
      generalize ran : (Registry.register (S.memory host.system) d).run host.registry = step
        at outcome failed ⊢
      obtain ⟨value, next, hooks⟩ := step
      cases value with
      | error e =>
        cases outcome with
        | rejected _ unfit =>
          have stops : ∀ e, some d = some e → ¬ (S.memory host.system).Accepts e := by
            rintro _ ⟨⟩
            exact unfit
          exact ⟨[], ⟨by simp, some d, rest, rfl, stops⟩, rfl⟩
      | ok _ =>
        obtain ⟨front, fails, state⟩ := ih failed
        refine ⟨d :: front, failsAfter_cons outcome.plugins.1 fails, ?_⟩
        simp only [List.map_cons, registerEach, Action.run_bind, Host.onRegistry_run, ran]
        exact state

/-- Registering runs no end hook. -/
theorem registering_ends {m : Memory} {d : Descriptor} {r : Registry}
    {step : Step Registry (Except PluginError Unit)}
    (registering : Registry.Registering m d r step) : ends p step.events = 0 := by
  refine List.countP_eq_zero.mpr fun e member => ?_
  cases registering with
  | rejected => cases member
  | kept => simp [List.mem_singleton.mp member, Event.isEndOf]
  | added =>
    rcases List.mem_append.mp member with member | member
    · simp [Registry.mem_initHooks member, Event.isEndOf]
    · simp [List.mem_singleton.mp member, Event.isEndOf]

/-- A function table with an init hook was initialized just when it is active, and was
not ended. -/
structure Initialized (S : Surroundings σ) (p : Plugin) (past : List Event) (host : Host σ) :
    Prop where
  hooked : (S.memory host.system).hasInit p = true
  toggled : Toggled p past (p ∈ host.registry.plugins)
  unended : ends p past = 0

/-- Registering plugins keeps to it: a table enters with its init hook and none is ended. -/
theorem registerEach_initialized :
    Ensures (Initialized S p) (registerEach S round) fun _ => Initialized S p := by
  induction round with
  | nil => exact ensures_pure fun _ _ => id
  | cons entry rest ih =>
    cases entry with
    | none => exact ensures_pure fun _ _ => id
    | some d =>
      have registered : Ensures (Initialized S p) (Host.onRegistry S fun m => Registry.register m d)
          fun _ => Initialized S p := by
        rintro past host ⟨hooked, toggled, unended⟩
        rw [Host.onRegistry_run]
        have outcome := Registry.register_outcome (S.memory host.system) d host.registry
        refine ⟨hooked, outcome.toggled (fun _ => hooked) toggled, ?_⟩
        have silent : ends p ((Registry.register (S.memory host.system) d).run host.registry).events
            = 0 := registering_ends outcome
        rw [ends, List.countP_append]
        exact Nat.add_eq_zero_iff.mpr ⟨unended, silent⟩
      refine ensures_bind registered fun answer => ?_
      cases answer with
      | error e => exact ensures_pure fun _ _ => id
      | ok _ => exact ih

/-- A build fails where the first round of its built-ins does. -/
theorem build_fails {e : PluginError} (failed : (build S settings system).value = .error e) :
    ∃ b, settings.builtins = some b ∧
      ((registerEach S (b.round 0)).run (.fresh system)).value = .error e ∧
      (build S settings system).events =
        [.builtins 0] ++ ((registerEach S (b.round 0)).run (.fresh system)).events := by
  cases routine : settings.builtins with
  | none =>
    simp only [build, start, activateBuiltins, registerBuiltins, routine, Action.run_bind,
      Action.run_pure] at failed
    cases failed
  | some b =>
    refine ⟨b, rfl, ?_⟩
    simp only [build, start, activateBuiltins, registerBuiltins, routine, Action.run_bind,
      Action.run_get, Action.run_modify, Action.run_emit, onHost_run, fresh] at failed ⊢
    generalize (registerEach S (b.round 0)).run (.fresh system) = step at failed ⊢
    obtain ⟨value, state, events⟩ := step
    cases value with
    | error cause => exact ⟨failed, by simp⟩
    | ok _ => cases failed

/-- **A failed build abandons what it initialized.** A build fails where its first round
does. By then each function table with an init hook that a plugin before the failure
leads to was initialized, once, and none was ended. Its hooks are balanced only if no
plugin before the failure leads to it. -/
theorem failed_build_abandons {e : PluginError}
    (failed : (build S settings system).value = .error e) :
    ∃ b front, settings.builtins = some b ∧
      FailsAfter (S.memory system).Accepts (b.round 0) front ∧
      ∀ p, (S.memory system).hasInit p = true →
        ends p (build S settings system).events = 0 ∧
        inits p (build S settings system).events ≤ 1 ∧
        (inits p (build S settings system).events = ends p (build S settings system).events ↔
          ∀ d ∈ front, (S.memory system).plugin? d ≠ some p) := by
  obtain ⟨b, routine, stopped, events⟩ := build_fails failed
  obtain ⟨front, fails, state⟩ := registerEach_fails stopped
  have succeeds : ((registerEach S (front.map some)).run (.fresh system)).value = .ok () :=
    registerEach_succeeds fails.fit
  obtain ⟨registry, reached, _, members⟩ := registerEach_plugins succeeds
  refine ⟨b, front, routine, fails, fun p hooked => ?_⟩
  have idle : Toggled p ([] ++ [.builtins 0]) False :=
    Toggled.nil.others (by simp [Event.hook?])
  have start : Initialized S p [.builtins 0] (.fresh system) :=
    ⟨hooked, idle.congr (by simp [Host.fresh]), rfl⟩
  have kept : Ensures (Initialized S p) (registerEach S (b.round 0)) fun _ => Initialized S p :=
    registerEach_initialized
  have finish := kept _ _ start
  rw [← events, state, reached] at finish
  have active : p ∈ registry.plugins ↔ ∃ d ∈ front, (S.memory system).plugin? d = some p := by
    simpa [Host.fresh] using members p
  obtain ⟨once, never⟩ := finish.toggled.counts
  have unended : ends p (build S settings system).events = 0 := finish.unended
  rw [unended] at once never ⊢
  by_cases there : p ∈ registry.plugins
  · obtain ⟨d, listed, leads⟩ := active.mp there
    have initialized := once there
    refine ⟨rfl, by omega, ?_⟩
    rw [initialized]
    exact ⟨fun balanced => by omega, fun apart => absurd leads (apart d listed)⟩
  · have balanced := never there
    refine ⟨rfl, by omega, fun _ d listed leads => ?_, fun _ => balanced⟩
    exact there (active.mpr ⟨d, listed, leads⟩)

/-- A routine that registers one plugin and gives up. -/
def givingUp : Settings := ⟨some ⟨fun _ => [some ⟨0⟩, none]⟩, .fixed [], ⟨[112]⟩⟩

/-- What such a build does with an encoder that has both hooks. -/
def givenUp : Step (Context Catalog) (Except PluginError Unit) :=
  build Catalog.surroundings givingUp (.ofModules (.ofEncoders id) [])

/-- The build fails; the encoder was initialized by then and not ended. -/
theorem encoder_abandoned :
    givenUp.value = .error .unsupportedFeature ∧
      inits (.encoder ⟨0⟩) givenUp.events = 1 ∧ ends (.encoder ⟨0⟩) givenUp.events = 0 := by
  have failed : givenUp.value = .error .unsupportedFeature := rfl
  obtain ⟨b, front, routine, fails, hooks⟩ := failed_build_abandons failed
  obtain ⟨unended, _⟩ := hooks (.encoder ⟨0⟩) rfl
  exact ⟨failed, rfl, unended⟩

/-- The build fails, and the hooks of the encoder are not balanced. -/
theorem failed_build_unbalanced :
    (∃ e, givenUp.value = .error e) ∧ (Memory.ofEncoders id).HasHooks (.encoder ⟨0⟩) ∧
      inits (.encoder ⟨0⟩) givenUp.events ≠ ends (.encoder ⟨0⟩) givenUp.events :=
  ⟨⟨.unsupportedFeature, rfl⟩, ⟨rfl, rfl⟩, by decide⟩

end Context
end CodecHost
