import CodecHost.Proofs.CatalogWorlds
import CodecHost.Proofs.Runs
import Mathlib.Data.List.Induction

/-! When the built-ins are active. They come with the build and go when the last client
leaves, and the next client to come asks for them again. If they fail then, that client
is told so and stays counted. The clients after it are counted and nothing else, so that
they are told of no failure while the built-ins stay away. -/
namespace CodecHost

variable {σ : Type} {S : Surroundings σ} {settings : Settings} {system : σ}
  {calls start done later : List (Call σ)} {call : Call σ}

namespace Context

variable {c : Context σ}

/-- What the built-ins answer to a client that comes first. -/
def answer (S : Surroundings σ) (settings : Settings) (c : Context σ) : Except PluginError Unit :=
  ((registerBuiltins S settings).run { c with initCount := 1 }).value

theorem registerBuiltins_counts (S : Surroundings σ) (settings : Settings) (c : Context σ) :
    ((registerBuiltins S settings).run c).state.initCount = c.initCount ∧
      ((registerBuiltins S settings).run c).state.builtinsRegistered = c.builtinsRegistered := by
  unfold registerBuiltins
  cases settings.builtins with
  | none => exact ⟨rfl, rfl⟩
  | some b => exact ⟨rfl, rfl⟩

theorem loadSearchPath_counts (S : Surroundings σ) (settings : Settings) (c : Context σ) :
    ((loadSearchPath S settings).run c).state.initCount = c.initCount ∧
      ((loadSearchPath S settings).run c).state.builtinsRegistered = c.builtinsRegistered := by
  have inside : Performs (Inside (Host.Loading S)) (loadSearchPath S settings) :=
    loadSearchPath_inside
  refine (inside [] c).preserve
    (I := fun _ t => t.initCount = c.initCount ∧ t.builtinsRegistered = c.builtinsRegistered)
    (fun {_ s _ _} inside kept => ?_) ⟨rfl, rfl⟩
  cases inside with
  | step => exact kept

/-- Built-ins that answer well count as active. -/
theorem activateBuiltins_counts (S : Surroundings σ) (settings : Settings) (c : Context σ) :
    ((activateBuiltins S settings).run c).value = ((registerBuiltins S settings).run c).value ∧
      ((activateBuiltins S settings).run c).state.initCount = c.initCount ∧
      (((activateBuiltins S settings).run c).value = .ok () →
        ((activateBuiltins S settings).run c).state.builtinsRegistered = true) ∧
      ∀ e, ((activateBuiltins S settings).run c).value = .error e →
        ((activateBuiltins S settings).run c).state.builtinsRegistered = c.builtinsRegistered := by
  obtain ⟨count, registered⟩ := registerBuiltins_counts S settings c
  simp only [activateBuiltins, Action.run_bind]
  cases (registerBuiltins S settings).run c |>.value with
  | error e => exact ⟨rfl, count, nofun, fun _ _ => registered⟩
  | ok _ => exact ⟨rfl, count, fun _ => rfl, nofun⟩

/-- A context that was built has its built-ins active, and no clients. -/
theorem build_counts (built : (build S settings system).value = .ok ()) :
    (build S settings system).state.initCount = 0 ∧
      (build S settings system).state.builtinsRegistered = true := by
  obtain ⟨_, count, active, _⟩ := activateBuiltins_counts S settings (fresh system)
  obtain ⟨answer, state⟩ := build_outcome S settings system
  rw [state]
  exact ⟨count, active (answer ▸ built)⟩

/-- What can come of a client that comes. -/
inductive Coming (S : Surroundings σ) (settings : Settings) (c : Context σ) :
    Except PluginError Unit → Context σ → Prop where
  /-- It is not the first and is only counted. -/
  | counted {last : Context σ} (clients : c.initCount ≠ 0)
      (same : last.builtinsRegistered = c.builtinsRegistered) : Coming S settings c (.ok ()) last
  /-- It is the first and finds the built-ins active. -/
  | kept {value : Except PluginError Unit} {last : Context σ} (first : c.initCount = 0)
      (there : c.builtinsRegistered = true) (still : last.builtinsRegistered = true) :
      Coming S settings c value last
  /-- It is the first and brings the built-ins back. -/
  | restored {value : Except PluginError Unit} {last : Context σ} (first : c.initCount = 0)
      (away : c.builtinsRegistered = false) (succeeds : c.answer S settings = .ok ())
      (back : last.builtinsRegistered = true) : Coming S settings c value last
  /-- It is the first and is told why the built-ins fail. -/
  | failed {e : PluginError} {last : Context σ} (first : c.initCount = 0)
      (away : c.builtinsRegistered = false) (fails : c.answer S settings = .error e)
      (still : last.builtinsRegistered = false) : Coming S settings c (.error e) last

/-- A client that comes is counted, whatever comes of it. -/
theorem init_outcome (S : Surroundings σ) (settings : Settings) (c : Context σ) :
    ((init S settings).run c).state.initCount = c.initCount + 1 ∧
      Coming S settings c ((init S settings).run c).value ((init S settings).run c).state := by
  by_cases first : c.initCount = 0
  · cases there : c.builtinsRegistered with
    | true =>
      obtain ⟨count, registered⟩ := loadSearchPath_counts S settings
        { c with initCount := 1, builtinsRegistered := true }
      simp only [init, Action.run_bind, Action.run_modify, Action.run_get, Action.run_note, first,
        there, ↓reduceIte]
      exact ⟨count, .kept first there registered⟩
    | false =>
      have same : { c with initCount := 1, builtinsRegistered := false } =
          { c with initCount := 1 } := by rw [← there]
      obtain ⟨answer, count, active, inactive⟩ := activateBuiltins_counts S settings
        { c with initCount := 1, builtinsRegistered := false }
      simp only [init, Action.run_bind, Action.run_modify, Action.run_get, Action.run_note, first,
        there, Bool.false_eq_true, ↓reduceIte]
      generalize (activateBuiltins S settings).run _ = step at answer count active inactive ⊢
      obtain ⟨value, next, events⟩ := step
      rw [same] at answer
      cases value with
      | error e => exact ⟨count, .failed first there answer.symm (inactive e rfl)⟩
      | ok _ =>
        obtain ⟨clients, registered⟩ := loadSearchPath_counts S settings next
        exact ⟨clients.trans count,
          .restored first there answer.symm (registered.trans (active rfl))⟩
  · simp only [init, Action.run_bind, Action.run_modify, Action.run_get, Action.run_note,
      Nat.add_eq_right, first, ↓reduceIte, Action.run_pure]
    exact ⟨trivial, .counted first rfl⟩

/-- Brings the built-ins back if they are away. -/
def restore (S : Surroundings σ) (settings : Settings) : Action (Context σ) Unit := do
  let c ← Action.get
  if c.builtinsRegistered then pure () else Call.discard (activateBuiltins S settings)

theorem restore_idle (there : c.builtinsRegistered = true) :
    (restore S settings).run c = ⟨(), c, []⟩ := by
  simp only [restore, Action.run_bind, Action.run_get, there, ↓reduceIte, Action.run_pure,
    List.append_nil]

theorem restore_away (away : c.builtinsRegistered = false) :
    (restore S settings).run c =
      ⟨(), ((activateBuiltins S settings).run c).state,
        ((activateBuiltins S settings).run c).events⟩ := by
  simp only [restore, Call.discard, Action.run_bind, Action.run_get, away, Bool.false_eq_true,
    ↓reduceIte, Action.run_pure, List.nil_append, List.append_nil]

/-- When the built-ins are there, or come when asked, the first client has the search path
loaded. -/
theorem init_searches (first : c.initCount = 0)
    (there : c.builtinsRegistered = true ∨ c.answer S settings = .ok ()) :
    (init S settings).run c =
      let restored := (restore S settings).run { c with initCount := 1 }
      let search := (loadSearchPath S settings).run restored.state
      ⟨search.value, search.state,
        .notice (.initCounted 1) :: (restored.events ++ search.events)⟩ := by
  rcases Bool.eq_false_or_eq_true c.builtinsRegistered with active | active
  · rw [restore_idle (c := { c with initCount := 1 }) active]
    simp only [init, Action.run_bind, Action.run_modify, Action.run_get, Action.run_note, first,
      active, Nat.zero_add, ↓reduceIte, List.nil_append, List.singleton_append]
  · have answered : c.answer S settings = .ok () := by
      rw [active] at there
      exact there.resolve_left Bool.false_ne_true
    have value : ((activateBuiltins S settings).run { c with initCount := 1 }).value = .ok () :=
      (activateBuiltins_counts S settings { c with initCount := 1 }).1.trans answered
    rw [restore_away (c := { c with initCount := 1 }) active]
    rw [active] at value
    simp only [init, Action.run_bind, Action.run_modify, Action.run_get, Action.run_note, first,
      active, Nat.zero_add, Bool.false_eq_true, ↓reduceIte, value, List.nil_append,
      List.singleton_append]

/-- The built-ins go with the last client and with no other. -/
theorem deinit_counts :
    ((deinit S).run c).state.initCount = c.initCount - 1 ∧
      ((deinit S).run c).state.builtinsRegistered = (c.builtinsRegistered && c.initCount ≠ 1) := by
  by_cases lonely : c.initCount = 1
  · obtain ⟨system, state⟩ := teardown_state (S := S) { c with initCount := 0 }
    rw [deinit_last lonely, state]
    simp [lonely]
  · rw [deinit_others lonely]
    simp [lonely]

end Context

namespace Run

/-- Calls that neither come nor leave change nothing about the clients and the built-ins. -/
theorem perform_counts {c : Context σ} (plain : call.Plain) (coming : call ≠ .init)
    (leaving : call ≠ .deinit) :
    ((Call.perform S settings call).run c).state.initCount = c.initCount ∧
      ((Call.perform S settings call).run c).state.builtinsRegistered = c.builtinsRegistered := by
  cases call with
  | init => exact absurd rfl coming
  | deinit => exact absurd rfl leaving
  | withRegistry calls => exact plain.elim
  | load | unload | loadDirectory | unloadAll | elsewhere => exact ⟨rfl, rfl⟩

variable (S settings system)

/-- After `start` and before the end of `later` the last client leaves. -/
def Emptied (start later : List (Call σ)) : Prop :=
  ∃ part, part ++ [.deinit] <+: later ∧ (context S settings system (start ++ part)).initCount = 1

/-- All clients had left when a client came, the built-ins answered this to it, and not
all clients have left since. -/
def Reopened (answer : Except PluginError Unit) (done : List (Call σ)) : Prop :=
  ∃ earlier later, done = earlier ++ .init :: later ∧ Emptied S settings system [] earlier ∧
    (context S settings system earlier).initCount = 0 ∧
    (context S settings system earlier).answer S settings = answer ∧
    ¬ Emptied S settings system (earlier ++ [.init]) later

/-- The routine of the built-ins has succeeded since all clients had left, or they never
have and it succeeded with the build. -/
def Completed (done : List (Call σ)) : Prop :=
  ¬ Emptied S settings system [] done ∨ Reopened S settings system (.ok ()) done

/-- The routine failed for the client that came first since all clients had left. -/
def Lagging (done : List (Call σ)) : Prop :=
  ∃ e, Reopened S settings system (.error e) done

variable {S settings system}

theorem not_emptied_nil : ¬ Emptied S settings system start [] := by
  rintro ⟨part, begins, _⟩
  simp at begins

theorem emptied_snoc : Emptied S settings system start (later ++ [call]) ↔
    Emptied S settings system start later ∨
      call = .deinit ∧ (context S settings system (start ++ later)).initCount = 1 := by
  constructor
  · rintro ⟨part, begins, lonely⟩
    rcases List.prefix_concat_iff.mp begins with whole | before
    · obtain ⟨rfl, last⟩ := List.append_inj' whole rfl
      cases last
      exact .inr ⟨rfl, lonely⟩
    · exact .inl ⟨part, before, lonely⟩
  · rintro (⟨part, before, lonely⟩ | ⟨rfl, lonely⟩)
    · exact ⟨part, before.trans (List.prefix_append _ _), lonely⟩
    · exact ⟨later, List.prefix_rfl, lonely⟩

theorem Emptied.append (emptied : Emptied S settings system start done) (later : List (Call σ)) :
    Emptied S settings system start (done ++ later) := by
  obtain ⟨part, begins, lonely⟩ := emptied
  exact ⟨part, begins.trans (List.prefix_append done later), lonely⟩

theorem Reopened.snoc {answer : Except PluginError Unit}
    (reopened : Reopened S settings system answer done)
    (stays : ¬ (call = .deinit ∧ (context S settings system done).initCount = 1)) :
    Reopened S settings system answer (done ++ [call]) := by
  obtain ⟨earlier, later, rfl, emptied, idle, answered, held⟩ := reopened
  refine ⟨earlier, later ++ [call], by simp, emptied, idle, answered, ?_⟩
  rw [emptied_snoc, List.append_assoc, List.singleton_append]
  tauto

/-- What comes of a client that comes next. -/
theorem comes (S : Surroundings σ) (settings : Settings) (system : σ) (done : List (Call σ)) :
    (context S settings system (done ++ [.init])).initCount =
        (context S settings system done).initCount + 1 ∧
      Context.Coming S settings (context S settings system done)
        ((Context.init S settings).run (context S settings system done)).value
        (context S settings system (done ++ [.init])) := by
  rw [context_snoc]
  exact Context.init_outcome ..

/-- What becomes of the context when a client leaves next. -/
theorem leaves (S : Surroundings σ) (settings : Settings) (system : σ) (done : List (Call σ)) :
    (context S settings system (done ++ [.deinit])).initCount =
        (context S settings system done).initCount - 1 ∧
      (context S settings system (done ++ [.deinit])).builtinsRegistered =
        ((context S settings system done).builtinsRegistered &&
          (context S settings system done).initCount ≠ 1) := by
  rw [context_snoc]
  exact Context.deinit_counts

/-- What becomes of the clients and the built-ins by any other call. -/
theorem neither (S : Surroundings σ) (settings : Settings) (system : σ) (done : List (Call σ))
    (plain : call.Plain) (coming : call ≠ .init) (leaving : call ≠ .deinit) :
    (context S settings system (done ++ [call])).initCount =
        (context S settings system done).initCount ∧
      (context S settings system (done ++ [call])).builtinsRegistered =
        (context S settings system done).builtinsRegistered := by
  rw [context_snoc]
  exact perform_counts plain coming leaving

/-- While clients are there and do not all leave, the built-ins stay as they are. -/
theorem held_snoc (plain : call.Plain) (clients : (context S settings system done).initCount ≠ 0)
    (stays : ¬ (call = .deinit ∧ (context S settings system done).initCount = 1)) :
    (context S settings system (done ++ [call])).initCount ≠ 0 ∧
      (context S settings system (done ++ [call])).builtinsRegistered =
        (context S settings system done).builtinsRegistered := by
  by_cases coming : call = .init
  · subst coming
    obtain ⟨count, outcome⟩ := comes S settings system done
    refine ⟨by omega, ?_⟩
    generalize ((Context.init S settings).run (context S settings system done)).value = value
      at outcome
    cases outcome with
    | counted _ same => exact same
    | kept first => exact absurd first clients
    | restored first => exact absurd first clients
    | failed first => exact absurd first clients
  · by_cases leaving : call = .deinit
    · subst leaving
      have several : (context S settings system done).initCount ≠ 1 := fun one => stays ⟨rfl, one⟩
      obtain ⟨count, registered⟩ := leaves S settings system done
      exact ⟨by omega, by simpa [several] using registered⟩
    · obtain ⟨count, registered⟩ := neither S settings system done plain coming leaving
      exact ⟨fun none => clients (count.symm.trans none), registered⟩

/-- The first client since all have left settles whether the built-ins are active. -/
theorem first_settles (idle : (context S settings system done).initCount = 0)
    (away : (context S settings system done).builtinsRegistered = false) :
    (context S settings system (done ++ [.init])).initCount ≠ 0 ∧
      ((context S settings system (done ++ [.init])).builtinsRegistered = true ↔
        (context S settings system done).answer S settings = .ok ()) := by
  obtain ⟨count, outcome⟩ := comes S settings system done
  refine ⟨by omega, ?_⟩
  generalize ((Context.init S settings).run (context S settings system done)).value = value
    at outcome
  cases outcome with
  | counted clients => exact absurd idle clients
  | kept _ there => rw [away] at there; cases there
  | restored _ _ succeeds back => simp [succeeds, back]
  | failed _ _ fails still => simp [fails, still]

/-- Without clients, nothing but a client that comes changes the built-ins. -/
theorem idle_snoc (plain : call.Plain) (idle : (context S settings system done).initCount = 0)
    (coming : call ≠ .init) :
    (context S settings system (done ++ [call])).initCount = 0 ∧
      (context S settings system (done ++ [call])).builtinsRegistered =
        (context S settings system done).builtinsRegistered := by
  by_cases leaving : call = .deinit
  · subst leaving
    obtain ⟨count, registered⟩ := leaves S settings system done
    exact ⟨by omega, by simpa [idle] using registered⟩
  · obtain ⟨count, registered⟩ := neither S settings system done plain coming leaving
    exact ⟨count.trans idle, registered⟩

/-- Built-ins that are active stay so until all clients leave. -/
theorem standing_snoc (plain : call.Plain)
    (there : (context S settings system done).builtinsRegistered = true)
    (stays : ¬ (call = .deinit ∧ (context S settings system done).initCount = 1)) :
    (context S settings system (done ++ [call])).builtinsRegistered = true := by
  by_cases idle : (context S settings system done).initCount = 0
  · by_cases coming : call = .init
    · subst coming
      obtain ⟨_, outcome⟩ := comes S settings system done
      generalize ((Context.init S settings).run (context S settings system done)).value = value
        at outcome
      cases outcome with
      | counted clients => exact absurd idle clients
      | kept _ _ still => exact still
      | restored _ away => rw [there] at away; cases away
      | failed _ away => rw [there] at away; cases away
    · exact (idle_snoc plain idle coming).2.trans there
  · exact (held_snoc plain idle stays).2.trans there

/-- What the clients and the built-ins have come to. -/
structure Settled (S : Surroundings σ) (settings : Settings) (system : σ) (done : List (Call σ)) :
    Prop where
  /-- Until all clients have left once, the built-ins are there from the build on. -/
  standing : ¬ Emptied S settings system [] done →
    (context S settings system done).builtinsRegistered = true
  /-- Later they are away while no client is there. -/
  idle : Emptied S settings system [] done → (context S settings system done).initCount = 0 →
    (context S settings system done).builtinsRegistered = false
  /-- While clients are there, it is as the first of them was answered. -/
  reopened : Emptied S settings system [] done → (context S settings system done).initCount ≠ 0 →
    ∃ answer, Reopened S settings system answer done ∧
      ((context S settings system done).builtinsRegistered = true ↔ answer = .ok ())

namespace Settled

/-- Once all clients have left, two things are to be known. -/
theorem of_emptied (emptied : Emptied S settings system [] done)
    (idle : (context S settings system done).initCount = 0 →
      (context S settings system done).builtinsRegistered = false)
    (reopened : (context S settings system done).initCount ≠ 0 →
      ∃ answer, Reopened S settings system answer done ∧
        ((context S settings system done).builtinsRegistered = true ↔ answer = .ok ())) :
    Settled S settings system done :=
  ⟨fun never => absurd emptied never, fun _ => idle, fun _ => reopened⟩

/-- The last client leaves. -/
theorem left (lonely : (context S settings system done).initCount = 1) :
    Settled S settings system (done ++ [.deinit]) := by
  obtain ⟨count, registered⟩ := leaves S settings system done
  refine .of_emptied (emptied_snoc.mpr (.inr ⟨rfl, lonely⟩)) (fun _ => ?_) fun clients => ?_
  · simpa [lonely] using registered
  · omega

/-- A client comes, and is the first since all have left. -/
theorem reopen (settled : Settled S settings system done)
    (emptied : Emptied S settings system [] done)
    (idle : (context S settings system done).initCount = 0) :
    Settled S settings system (done ++ [.init]) := by
  obtain ⟨clients, answered⟩ := first_settles idle (settled.idle emptied idle)
  refine .of_emptied (emptied.append _) (fun none => absurd none clients) fun _ => ?_
  exact ⟨_, ⟨done, [], rfl, emptied, idle, rfl, not_emptied_nil⟩, answered⟩

/-- A call is made after all clients have left, and it is not the last one to leave. -/
theorem snoc_emptied (settled : Settled S settings system done) (plain : call.Plain)
    (emptied : Emptied S settings system [] done)
    (stays : ¬ (call = .deinit ∧ (context S settings system done).initCount = 1)) :
    Settled S settings system (done ++ [call]) := by
  by_cases idle : (context S settings system done).initCount = 0
  · by_cases coming : call = .init
    · subst coming
      exact settled.reopen emptied idle
    · obtain ⟨count, registered⟩ := idle_snoc plain idle coming
      refine .of_emptied (emptied.append _) (fun _ => ?_) fun clients => absurd count clients
      exact registered.trans (settled.idle emptied idle)
  · obtain ⟨clients, registered⟩ := held_snoc plain idle stays
    obtain ⟨answer, reopened, answered⟩ := settled.reopened emptied idle
    refine .of_emptied (emptied.append _) (fun none => absurd none clients) fun _ => ?_
    exact ⟨answer, reopened.snoc stays, by rw [registered, answered]⟩

/-- A call is made before all clients have left, and it is not the last one to leave. -/
theorem snoc_standing (settled : Settled S settings system done) (plain : call.Plain)
    (before : ¬ Emptied S settings system [] done)
    (stays : ¬ (call = .deinit ∧ (context S settings system done).initCount = 1)) :
    Settled S settings system (done ++ [call]) := by
  have never : ¬ Emptied S settings system [] (done ++ [call]) := by
    rw [emptied_snoc]
    rintro (earlier | left)
    · exact before earlier
    · exact stays left
  exact ⟨fun _ => standing_snoc plain (settled.standing before) stays,
    fun emptied => absurd emptied never, fun emptied => absurd emptied never⟩

end Settled

/-- Every run of a context that was built is settled. -/
theorem settled (built : (Context.build S settings system).value = .ok ())
    (plain : ∀ call ∈ done, call.Plain) : Settled S settings system done := by
  induction done using List.reverseRecOn with
  | nil =>
    exact ⟨fun _ => (Context.build_counts built).2, fun emptied => absurd emptied not_emptied_nil,
      fun emptied => absurd emptied not_emptied_nil⟩
  | append_singleton done call ih =>
    have before := ih fun c member => plain c (by simp [member])
    have last : call.Plain := plain call (by simp)
    by_cases leaving : call = .deinit ∧ (context S settings system done).initCount = 1
    · obtain ⟨rfl, lonely⟩ := leaving
      exact .left lonely
    · by_cases emptied : Emptied S settings system [] done
      · exact before.snoc_emptied last emptied leaving
      · exact before.snoc_standing last emptied leaving

/-- What the first client was answered holds until all have left. -/
theorem Reopened.settles {answer : Except PluginError Unit}
    (built : (Context.build S settings system).value = .ok ())
    (plain : ∀ call ∈ done, call.Plain) (reopened : Reopened S settings system answer done) :
    Emptied S settings system [] done ∧ (context S settings system done).initCount ≠ 0 ∧
      ((context S settings system done).builtinsRegistered = true ↔ answer = .ok ()) := by
  obtain ⟨earlier, later, rfl, emptied, idle, rfl, held⟩ := reopened
  refine ⟨emptied.append _, ?_⟩
  rw [List.append_cons] at plain ⊢
  induction later using List.reverseRecOn with
  | nil =>
    have away := (settled built fun c member => plain c (by simp [member])).idle emptied idle
    simpa using first_settles idle away
  | append_singleton later call ih =>
    have stays : ¬ (call = .deinit ∧
        (context S settings system (earlier ++ [.init] ++ later)).initCount = 1) :=
      fun left => held (emptied_snoc.mpr (.inr left))
    have fewer : ∀ c ∈ earlier ++ [.init] ++ later, c.Plain := fun c member => plain c (by
      rw [← List.append_assoc]
      exact List.mem_append_left _ member)
    obtain ⟨clients, answered⟩ := ih fewer fun emptied => held (emptied.append [call])
    rw [← List.append_assoc]
    obtain ⟨clients, registered⟩ := held_snoc (plain call (by simp)) clients stays
    exact ⟨clients, by rw [registered, answered]⟩

/-- The built-ins count as active just when their routine has succeeded since all clients
had left. -/
theorem registered_iff_completed (built : (Context.build S settings system).value = .ok ())
    (plain : ∀ call ∈ done, call.Plain) :
    (context S settings system done).builtinsRegistered = true ↔
      Completed S settings system done := by
  have settled := settled built plain
  constructor
  · intro there
    by_cases emptied : Emptied S settings system [] done
    · have clients : (context S settings system done).initCount ≠ 0 := by
        intro idle
        rw [settled.idle emptied idle] at there
        cases there
      obtain ⟨answer, reopened, answered⟩ := settled.reopened emptied clients
      exact .inr (answered.mp there ▸ reopened)
    · exact .inl emptied
  · rintro (never | reopened)
    · exact settled.standing never
    · exact (reopened.settles built plain).2.2.mpr rfl

/-- Clients are there without the built-ins just when the first of them was told that the
routine failed. -/
theorem lagging_iff (built : (Context.build S settings system).value = .ok ())
    (plain : ∀ call ∈ done, call.Plain) :
    Lagging S settings system done ↔
      (context S settings system done).initCount ≠ 0 ∧
        (context S settings system done).builtinsRegistered = false := by
  constructor
  · rintro ⟨e, reopened⟩
    obtain ⟨_, clients, answered⟩ := reopened.settles built plain
    exact ⟨clients, Bool.eq_false_iff.mpr fun there => by cases answered.mp there⟩
  · rintro ⟨clients, away⟩
    have settled := settled built plain
    have emptied : Emptied S settings system [] done := by
      by_contra never
      rw [settled.standing never] at away
      cases away
    obtain ⟨answer, reopened, answered⟩ := settled.reopened emptied clients
    cases answer with
    | error e => exact ⟨e, reopened⟩
    | ok _ =>
      rw [answered.mpr rfl] at away
      cases away

/-- **A client that comes finds the built-ins active, or comes after one that was told
they are not.** Whatever was called before, and also when the client comes in a callback:
after an init that succeeds, the built-ins count as active just when their routine has
succeeded since all clients had left. They do not only if the routine failed for the
client that came first since then and clients have been there ever since. An init that
takes the first reference and succeeds always leaves them active. -/
theorem init_activates (built : (Context.build S settings system).value = .ok ())
    (reached : done ++ [.init] <+: Call.flatAll calls)
    (succeeds : ((Context.init S settings).run (context S settings system done)).value = .ok ()) :
    ((context S settings system (done ++ [.init])).builtinsRegistered = true ↔
      Completed S settings system (done ++ [.init])) ∧
    ((context S settings system (done ++ [.init])).builtinsRegistered = true ↔
      ¬ Lagging S settings system done) ∧
    ((context S settings system done).initCount = 0 →
      (context S settings system (done ++ [.init])).builtinsRegistered = true) := by
  have plain : ∀ call ∈ done ++ [.init], call.Plain := fun call member =>
    Call.flatAll_plain calls call (reached.subset member)
  have plain_before : ∀ call ∈ done, call.Plain := fun call member =>
    plain call (List.mem_append_left _ member)
  have lagging := lagging_iff built plain_before
  refine ⟨registered_iff_completed built plain, ?_⟩
  obtain ⟨_, outcome⟩ := comes S settings system done
  rw [succeeds] at outcome
  generalize context S settings system (done ++ [.init]) = last at outcome ⊢
  rw [lagging]
  cases outcome with
  | counted clients same => simp [clients, same]
  | kept first _ still => simp [first, still]
  | restored first _ _ back => simp [first, back]

/-- A routine that succeeds with the build and fails from then on. -/
def failingLater : Settings := ⟨some (.ofRounds [[some ⟨0⟩], [none]]), .fixed [], ⟨[112]⟩⟩

/-- A system with no modules, on which an encoder comes with the program. -/
def bare : Catalog := .ofModules (.ofEncoders id) []

/-- A client comes and leaves, which takes the built-ins away, and another one comes. -/
def comeBack : List (Call Catalog) := [.init, .deinit, .init]

/-- The client after that is told of no failure, since the one before it was. -/
theorem next_client_lags :
    ((Context.init Catalog.surroundings failingLater).run
        (context Catalog.surroundings failingLater bare comeBack)).value = .ok () ∧
      Lagging Catalog.surroundings failingLater bare comeBack := by
  have built : (Context.build Catalog.surroundings failingLater bare).value = .ok () := rfl
  have reached : comeBack ++ [.init] <+: Call.flatAll (comeBack ++ [.init]) := List.prefix_rfl
  obtain ⟨_, active, _⟩ := init_activates built reached rfl
  exact ⟨rfl, not_not.mp fun settled => Bool.false_ne_true (active.mpr settled)⟩

/-- Its init succeeds, and the built-ins are not active after it. -/
theorem init_without_builtins :
    (Context.build Catalog.surroundings failingLater bare).value = .ok () ∧
      ((Context.init Catalog.surroundings failingLater).run
        (context Catalog.surroundings failingLater bare comeBack)).value = .ok () ∧
      (context Catalog.surroundings failingLater bare
        (comeBack ++ [.init])).builtinsRegistered = false :=
  ⟨rfl, rfl, rfl⟩

end Run
end CodecHost
