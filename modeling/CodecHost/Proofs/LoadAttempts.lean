import CodecHost.CommandLine.Program
import CodecHost.Proofs.BulkLoads
import CodecHost.Proofs.TeardownOrder

/-! Loads one after the other. Each finds what the one before it left, however that went, and
asks the loader for its path once. What all of them answer, leave behind and make happen is what
the single loads do, put together. The commands of the program load into a context that is bare
before them and gone after them. -/
namespace CodecHost

open Ledger

variable {σ : Type} {S : Surroundings σ} {settings : Settings}

/-- The loader was asked to open a module. -/
def Event.isRequest : Event → Bool
  | opened _ | openFailed _ _ => true
  | _ => false

namespace Ledger

variable {events before after : List Event}

/-- The events in which the loader was asked to open a module, in order. -/
def requests (events : List Event) : List Event := events.filter Event.isRequest

theorem requests_append : requests (before ++ after) = requests before ++ requests after :=
  List.filter_append ..

/-- No request goes to the log. -/
theorem requests_deeds (events : List Event) : requests (deeds events) = requests events := by
  rw [requests, requests, deeds, List.filter_filter]
  refine List.filter_congr fun e _ => ?_
  cases e <;> rfl

theorem requests_internal (internal : ∀ e ∈ events, e.Internal) : requests events = [] := by
  refine List.filter_eq_nil_iff.mpr fun e member => ?_
  have alone := internal e member
  cases e <;> first | exact alone.elim | nofun

end Ledger

namespace Context

/-- A load by its path and by the context that it finds. -/
structure Attempt (σ : Type) where
  path : Path
  before : Context σ

namespace Attempt

variable (S : Surroundings σ) (a : Attempt σ)

/-- How the load goes. -/
def step : Step (Context σ) (Except PluginError Descriptor) := (load S a.path).run a.before

/-- The error of a load that fails. -/
def failure? : Option PluginError :=
  match (a.step S).value with
  | .ok _ => none
  | .error e => some e

/-- What the loader answers when it is asked for the path. -/
def request : Event :=
  match S.openModule a.path a.before.host.system with
  | (.ok handle, _) => .opened handle
  | (.error diagnostic, _) => .openFailed a.path diagnostic

end Attempt

/-- Loads in the order of their paths. Each finds what the one before it left. -/
def attempts (S : Surroundings σ) : List Path → Context σ → List (Attempt σ)
  | [], _ => []
  | path :: rest, c => ⟨path, c⟩ :: attempts S rest ((load S path).run c).state

variable {paths : List Path} {c : Context σ}

theorem attempts_paths (paths : List Path) (c : Context σ) :
    (attempts S paths c).map Attempt.path = paths := by
  induction paths generalizing c with
  | nil => rfl
  | cons path rest ih => rw [attempts, List.map_cons, ih]

/-- The answers of loads and what they make happen are those of the single loads. -/
theorem mapM_attempts (paths : List Path) (c : Context σ) :
    (paths.mapM (load S)).run c =
      ⟨(attempts S paths c).map fun a => (a.step S).value, ((paths.mapM (load S)).run c).state,
        (attempts S paths c).flatMap fun a => (a.step S).events⟩ := by
  induction paths generalizing c with
  | nil => rfl
  | cons path rest ih =>
    rw [List.mapM_cons, Action.run_bind, Action.run_bind, ih]
    simp only [Action.run_pure, List.append_nil]
    rfl

/-- As calls of a run, loads do the same. -/
theorem performAll_loads (paths : List Path) (c : Context σ) :
    (Call.performAll S settings (paths.map .load)).run c =
      ⟨(), ((paths.mapM (load S)).run c).state, ((paths.mapM (load S)).run c).events⟩ := by
  induction paths generalizing c with
  | nil => rfl
  | cons path rest ih =>
    simp only [List.map_cons, Call.performAll, Call.perform, Call.discard, List.mapM_cons,
      Action.run_bind, Action.run_pure, List.append_nil, ih]

/-- A load asks the loader for its path, and for nothing else. -/
theorem Attempt.requests_step (a : Attempt σ) : requests (a.step S).events = [a.request S] := by
  have ends := Host.load_ends S a.path a.before.host
  have same : (a.step S).events = ((Host.load S a.path).run a.before.host).events := rfl
  rw [same, request]
  generalize (Host.load S a.path).run a.before.host = step at ends ⊢
  cases ends with
  | refused refusal =>
    cases refusal with
    | unopened opening | unresolved opening | tableless opening | unsupported opening =>
      simp only [opening]
      rfl
  | attached opening =>
    simp only [opening]
    rfl
  | @entered _ d _ resolved _ _ opening _ _ registering =>
    have outcome := Registry.register_outcome (S.memory resolved) d a.before.host.registry
    rw [registering] at outcome
    have silent := requests_internal outcome.internal
    simp only [opening, requests, List.filter_cons, List.filter_append] at silent ⊢
    rw [silent]
    rfl

/-- Loads ask the loader for every path in order. -/
theorem requests_loads (paths : List Path) (c : Context σ) :
    requests ((paths.mapM (load S)).run c).events =
      (attempts S paths c).map (Attempt.request S) := by
  rw [mapM_attempts]
  generalize attempts S paths c = tried
  induction tried with
  | nil => rfl
  | cons a rest ih =>
    rw [List.flatMap_cons, requests_append, ih, Attempt.requests_step]
    rfl

/-- A context that ends asks the loader for nothing. -/
theorem requests_drop (c : Context σ) : requests ((drop S).run c).events = [] := by
  rw [← requests_deeds, (drop_tornDown c).deeds]
  simp only [requests, List.filter_eq_nil_iff, List.mem_append, List.mem_flatMap]
  rintro e ((⟨_, _, member⟩ | ⟨_, _, member⟩) | ⟨_, _, member⟩)
  · rw [Registry.mem_endHooks member]; nofun
  · rw [Registry.mem_endHooks member]; nofun
  · obtain ⟨_, _, rfl⟩ := List.mem_map.mp member
    nofun

end Context

namespace CommandLine

/-- The context in which a command starts to load: nothing is active and nothing is loaded. -/
def bareContext (S : Surroundings σ) (system : σ) : Context σ :=
  (Context.build S withoutSearchPath system).state

namespace Outcome

variable (o : Outcome) {e : Error}

@[simp] theorem output_out : o.output.out = o.printed := by
  rw [output]
  split <;> rfl

@[simp] theorem output_events : o.output.events = o.events := by
  rw [output]
  split <;> rfl

variable {o}

/-- A command that does not fail tells nothing. -/
theorem output_quiet (succeeds : o.failure = none) : o.output.status = 0 ∧ o.output.err = "" := by
  rw [output, succeeds]
  exact ⟨rfl, rfl⟩

theorem output_told (fails : o.failure = some e) :
    o.output.status = 1 ∧ o.output.err = s!"Error: {e.message}\n{Report.codes e}\n" := by
  rw [output, fails]
  exact ⟨rfl, rfl⟩

end Outcome

/-- A command begins with such a context and ends with its end. -/
theorem inContext_bare (body : Action (Context σ) (String × Option Error)) (system : σ) :
    inContext S withoutSearchPath body system =
      ⟨(body.run (bareContext S system)).value.1, (body.run (bareContext S system)).value.2,
        Event.notice (.contextCreated 0 0) :: (body.run (bareContext S system)).events ++
          ((Context.drop S).run (body.run (bareContext S system)).state).events⟩ := rfl

end CommandLine
end CodecHost
