import CodecHost.Proofs.BuiltinActivation
import Mathlib

/-! After the last client has left, a context starts over. Of its past it keeps one number,
how often the built-ins were asked to register, and nothing depends on that when they always
register the same. The first cycle has its built-ins from the build and every later one from
its first client, and both come to the same. -/
namespace CodecHost

variable {σ α β : Type} {S : Surroundings σ} {settings : Settings} {system world : σ}
  {history earlier : List (Call σ)} {call : Call σ}

/-- The built-ins register the same whenever they are asked. -/
def Settings.Uniform (settings : Settings) : Prop :=
  ∀ b, settings.builtins = some b → ∀ n, b.round n = b.round 0

namespace Context

variable {c d : Context σ}

/-- Nothing but the number of times that the built-ins were asked tells the contexts apart. -/
structure Alike (c d : Context σ) : Prop where
  host : d.host = c.host
  clients : d.initCount = c.initCount
  active : d.builtinsRegistered = c.builtinsRegistered

/-- On contexts that are alike the actions answer the same, and they leave them alike. -/
def Agreeing (a b : Action (Context σ) α) : Prop :=
  ∀ c d, Alike c d → (b.run d).value = (a.run c).value ∧ Alike (a.run c).state (b.run d).state

theorem agreeing_pure (x : α) : Agreeing (σ := σ) (pure x) (pure x) :=
  fun _ _ alike => ⟨rfl, alike⟩

theorem agreeing_note (m n : Notice) : Agreeing (σ := σ) (Action.note m) (Action.note n) :=
  fun _ _ alike => ⟨rfl, alike⟩

theorem agreeing_bind {a b : Action (Context σ) α} {f g : α → Action (Context σ) β}
    (first : Agreeing a b) (second : ∀ x, Agreeing (f x) (g x)) :
    Agreeing (a >>= f) (b >>= g) := by
  intro c d alike
  obtain ⟨value, alike⟩ := first c d alike
  rw [Action.run_bind, Action.run_bind, value]
  exact second _ _ _ alike

theorem agreeing_get_bind {f g : Context σ → Action (Context σ) α}
    (next : ∀ c d, Alike c d → Agreeing (f c) (g d)) :
    Agreeing (Action.get >>= f) (Action.get >>= g) :=
  fun c d alike => next c d alike c d alike

theorem agreeing_host (a : Action (Host σ) α) : Agreeing (onHost a) (onHost a) := by
  intro c d alike
  rw [onHost_run, onHost_run, alike.host]
  exact ⟨rfl, rfl, alike.clients, alike.active⟩

/-! Built-ins that always register the same. -/

/-- They come to the same on every context with the same host. -/
theorem registerBuiltins_host (uniform : settings.Uniform) (same : d.host = c.host) :
    ((registerBuiltins S settings).run d).value = ((registerBuiltins S settings).run c).value ∧
      ((registerBuiltins S settings).run d).state.host =
        ((registerBuiltins S settings).run c).state.host := by
  unfold registerBuiltins
  cases routine : settings.builtins with
  | none => exact ⟨rfl, same⟩
  | some b =>
    simp only [Action.run_bind, Action.run_get, Action.run_modify, Action.run_emit, onHost_run,
      uniform b routine c.builtinRounds, uniform b routine d.builtinRounds, same, and_self]

theorem activateBuiltins_host (uniform : settings.Uniform) (same : d.host = c.host) :
    ((activateBuiltins S settings).run d).value = ((activateBuiltins S settings).run c).value ∧
      ((activateBuiltins S settings).run d).state.host =
        ((activateBuiltins S settings).run c).state.host := by
  obtain ⟨value, host⟩ := registerBuiltins_host (S := S) uniform same
  unfold activateBuiltins
  rw [Action.run_bind, Action.run_bind, value]
  cases ((registerBuiltins S settings).run c).value with
  | error e => exact ⟨rfl, host⟩
  | ok _ => exact ⟨rfl, host⟩

theorem agreeing_activateBuiltins (uniform : settings.Uniform) :
    Agreeing (activateBuiltins S settings) (activateBuiltins S settings) := by
  intro c d alike
  obtain ⟨value, host⟩ := activateBuiltins_host (S := S) uniform alike.host
  obtain ⟨_, clients, active, inactive⟩ := activateBuiltins_counts S settings c
  obtain ⟨_, clients', active', inactive'⟩ := activateBuiltins_counts S settings d
  refine ⟨value, host, clients'.trans (alike.clients.trans clients.symm), ?_⟩
  cases answer : ((activateBuiltins S settings).run c).value with
  | error e => rw [inactive e answer, inactive' e (value.trans answer), alike.active]
  | ok _ => rw [active answer, active' (value.trans answer)]

/-! Whatever is called, contexts that are alike stay so. -/

theorem agreeing_loadDirectories (directories : List Path) :
    Agreeing (loadDirectories S directories) (loadDirectories S directories) := by
  induction directories with
  | nil => exact agreeing_pure _
  | cons directory rest ih =>
    refine agreeing_bind (agreeing_host _) fun answer => ?_
    obtain ⟨count, buffer⟩ := answer
    cases count with
    | error e => exact agreeing_pure _
    | ok count => exact agreeing_bind (agreeing_note _ _) fun _ => ih

theorem agreeing_loadSearchPath :
    Agreeing (loadSearchPath S settings) (loadSearchPath S settings) := by
  refine agreeing_get_bind fun c d alike => ?_
  rw [alike.host]
  exact agreeing_loadDirectories _

theorem agreeing_init (uniform : settings.Uniform) :
    Agreeing (init S settings) (init S settings) := by
  refine agreeing_bind (fun c d alike => ?_) fun _ => ?_
  · exact ⟨rfl, alike.host, congrArg (· + 1) alike.clients, alike.active⟩
  refine agreeing_get_bind fun c d alike => ?_
  refine agreeing_bind (agreeing_note _ _) fun _ => ?_
  rw [alike.clients, alike.active]
  split
  · split
    · exact agreeing_loadSearchPath
    · refine agreeing_bind (agreeing_activateBuiltins uniform) fun answer => ?_
      cases answer with
      | error e => exact agreeing_pure _
      | ok _ => exact agreeing_loadSearchPath
  · exact agreeing_pure _

theorem agreeing_teardown : Agreeing (teardown S) (teardown S) := by
  refine agreeing_bind (agreeing_host _) fun _ => agreeing_bind (agreeing_host _) fun _ => ?_
  refine agreeing_bind (fun c d alike => ⟨rfl, alike.host, alike.clients, rfl⟩) fun _ => ?_
  exact agreeing_bind (agreeing_host _) fun _ => agreeing_note _ _

theorem agreeing_deinit : Agreeing (deinit S) (deinit S) := by
  refine agreeing_get_bind fun c d alike => ?_
  rw [alike.clients]
  split
  · exact agreeing_note _ _
  · refine agreeing_bind (fun c d alike => ?_) fun _ => ?_
    · exact ⟨rfl, alike.host, congrArg (· - 1) alike.clients, alike.active⟩
    refine agreeing_bind (agreeing_note _ _) fun _ => ?_
    split
    · exact agreeing_teardown
    · exact agreeing_pure _

end Context

namespace Call

open Context

theorem agreeing_perform (uniform : settings.Uniform) (plain : call.Plain) :
    Agreeing (perform S settings call) (perform S settings call) := by
  cases call with
  | init => exact agreeing_bind (agreeing_init uniform) fun _ => agreeing_pure _
  | deinit => exact agreeing_deinit
  | load | unload | loadDirectory | unloadAll =>
    exact agreeing_bind (agreeing_host _) fun _ => agreeing_pure _
  | withRegistry calls => exact plain.elim
  | elsewhere change =>
    intro c d alike
    exact ⟨rfl, congrArg (fun host => { host with system := change host.system }) alike.host,
      alike.clients, alike.active⟩

theorem agreeing_performAll (uniform : settings.Uniform) (calls : List (Call σ)) :
    Agreeing (performAll S settings calls) (performAll S settings calls) := by
  rw [← performAll_flatAll]
  have plain := flatAll_plain calls
  generalize flatAll calls = flat at plain
  induction flat with
  | nil => exact agreeing_pure _
  | cons call rest ih =>
    refine agreeing_bind (agreeing_perform uniform (plain call (by simp))) fun _ => ?_
    exact ih fun c member => plain c (by simp [member])

end Call

namespace Run

open Context

/-- What the last client leaves behind, in whatever system comes to be in force then. -/
theorem context_emptied (world : σ)
    (ends : Call.flatAll history = earlier ++ [.deinit])
    (lonely : (context S settings system earlier).initCount = 1) :
    ∃ rounds, context S settings system (history ++ [.elsewhere fun _ => world]) =
      ⟨.fresh world, 0, false, rounds⟩ := by
  obtain ⟨left, state⟩ := teardown_state (S := S)
    { context S settings system earlier with initCount := 0 }
  have emptied : context S settings system history =
      ⟨.fresh left, 0, false, (context S settings system earlier).builtinRounds⟩ := by
    rw [← context_flatAll, ends, context_snoc, Call.perform, deinit_last lonely, state]
  refine ⟨(context S settings system earlier).builtinRounds, ?_⟩
  rw [context_snoc, emptied]
  rfl

/-- A first client of an empty context finds what it finds in a context that was just built:
the one brings the built-ins back, and in the other they are there. -/
theorem init_of_empty (uniform : settings.Uniform) (rounds : Nat)
    (built : (Context.build S settings world).value = .ok ()) :
    ((init S settings).run ⟨.fresh world, 0, false, rounds⟩).value =
        ((init S settings).run (Context.build S settings world).state).value ∧
      Alike ((init S settings).run (Context.build S settings world).state).state
        ((init S settings).run ⟨.fresh world, 0, false, rounds⟩).state := by
  obtain ⟨idle, active⟩ := build_counts built
  obtain ⟨answered, state⟩ := build_outcome S settings world
  obtain ⟨value, host⟩ := activateBuiltins_host (S := S) (c := fresh world)
    (d := ⟨.fresh world, 1, false, rounds⟩) uniform rfl
  obtain ⟨asked, clients, back, _⟩ := activateBuiltins_counts S settings
    ⟨.fresh world, 1, false, rounds⟩
  have restored := value.trans (answered.symm.trans built)
  have comes : answer S settings ⟨.fresh world, 0, false, rounds⟩ = .ok () :=
    asked.symm.trans restored
  rw [init_searches rfl (.inr comes), init_searches idle (.inl active), restore_away rfl,
    restore_idle (c := { (build S settings world).state with initCount := 1 }) active]
  refine agreeing_loadSearchPath _ _ ⟨?_, clients, (back restored).trans active.symm⟩
  rw [state]
  exact host

/-- **A new cycle has no memory of the old ones.** When the built-ins always register the same,
a context that the last client has left behaves in any world as one that is built there anew:
the next init answers the same and leaves the same plugins active, the same modules loaded, the
same count of clients and the built-ins as active. So does everything that is called after it. -/
theorem new_cycle_forgets (uniform : settings.Uniform)
    (ends : Call.flatAll history = earlier ++ [.deinit])
    (lonely : (context S settings system earlier).initCount = 1)
    (built : (Context.build S settings world).value = .ok ()) :
    let old := context S settings system (history ++ [.elsewhere fun _ => world])
    let new := (Context.build S settings world).state
    ((Context.init S settings).run old).value = ((Context.init S settings).run new).value ∧
      Alike ((Context.init S settings).run new).state ((Context.init S settings).run old).state ∧
      ∀ further : List (Call σ),
        Alike ((Call.performAll S settings (.init :: further)).run new).state
          ((Call.performAll S settings (.init :: further)).run old).state := by
  obtain ⟨rounds, emptied⟩ := context_emptied world ends lonely
  rw [emptied]
  obtain ⟨value, alike⟩ := init_of_empty uniform rounds built
  exact ⟨value, alike, fun further => (Call.agreeing_performAll uniform further _ _ alike).2⟩

/-- An encoder comes with the program, and plugins are searched for in one directory. -/
def steadyBuiltins : Settings := ⟨some (.ofRounds [[some ⟨0⟩]]), .fixed [], ⟨[112]⟩⟩

theorem steadyBuiltins_uniform : steadyBuiltins.Uniform := by
  intro b routine n
  cases routine
  cases n <;> rfl

/-- A system on which the directory is there, with a module in it. -/
def stocked : Catalog :=
  { Catalog.ofModules (.ofEncoders id) [⟨⟨[112, 47, 97, 46, 115, 111]⟩, ⟨1⟩, some ⟨5⟩, none, none⟩]
    with directories := [(⟨[112]⟩, .ok [.named [97, 46, 115, 111] (.ok .file)])] }

/-- The directory was not there in the first cycle, so that its init failed. The second cycle
goes as if it were the first one on the other system. -/
theorem second_cycle_succeeds :
    ((Context.init Catalog.surroundings steadyBuiltins).run
        (context Catalog.surroundings steadyBuiltins bare [])).value ≠ .ok () ∧
      ((Context.init Catalog.surroundings steadyBuiltins).run
        (context Catalog.surroundings steadyBuiltins bare
          ([.init, .deinit] ++ [.elsewhere fun _ => stocked]))).value = .ok () ∧
      ((Context.init Catalog.surroundings steadyBuiltins).run
        (context Catalog.surroundings steadyBuiltins bare
          ([.init, .deinit] ++ [.elsewhere fun _ => stocked]))).state.registry.encoders =
        [⟨0⟩, ⟨5⟩] := by
  have ends : Call.flatAll [.init, .deinit] = [.init] ++ [(.deinit : Call Catalog)] := rfl
  have built : (Context.build Catalog.surroundings steadyBuiltins stocked).value = .ok () := rfl
  have lonely : (context Catalog.surroundings steadyBuiltins bare [.init]).initCount = 1 := rfl
  obtain ⟨value, alike, _⟩ := new_cycle_forgets steadyBuiltins_uniform ends lonely built
  refine ⟨by decide, value.trans rfl, ?_⟩
  rw [Context.registry, alike.host]
  cbv

end Run
end CodecHost
