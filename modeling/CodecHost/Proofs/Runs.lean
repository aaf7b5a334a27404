import CodecHost.Proofs.ContextMoves
import CodecHost.Run

/-! Runs of a context, from its build to its end. A callback adds no calls of its
own to a run, so that the moments between the calls of a callback are moments of a
run like any other. -/
namespace CodecHost

variable {σ : Type} {S : Surroundings σ} {settings : Settings} {calls more : List (Call σ)}
  {call : Call σ}

namespace Call

mutual

/-- The calls that a call comes down to when callbacks are left out. -/
def flat : Call σ → List (Call σ)
  | .withRegistry calls => flatAll calls
  | .init => [.init]
  | .deinit => [.deinit]
  | .load path => [.load path]
  | .unload d => [.unload d]
  | .loadDirectory directory buffer => [.loadDirectory directory buffer]
  | .unloadAll => [.unloadAll]
  | .elsewhere change => [.elsewhere change]

/-- The calls that a sequence of calls comes down to when callbacks are left out. -/
def flatAll : List (Call σ) → List (Call σ)
  | [] => []
  | call :: rest => flat call ++ flatAll rest

end

/-- The call hands nothing to a callback. -/
def Plain : Call σ → Prop
  | .withRegistry _ => False
  | _ => True

/-- The call is of a kind that only loads. -/
def Loads : Call σ → Prop
  | .init | .load _ | .loadDirectory _ _ => True
  | _ => False

mutual

theorem flat_plain (call : Call σ) : ∀ c ∈ flat call, Plain c := by
  cases call with
  | withRegistry calls => exact flatAll_plain calls
  | _ => simp [flat, Plain]

theorem flatAll_plain (calls : List (Call σ)) : ∀ c ∈ flatAll calls, Plain c := by
  cases calls with
  | nil => simp [flatAll]
  | cons call rest =>
    intro c member
    rcases List.mem_append.mp member with member | member
    · exact flat_plain call c member
    · exact flatAll_plain rest c member

end

theorem flatAll_append (calls more : List (Call σ)) :
    flatAll (calls ++ more) = flatAll calls ++ flatAll more := by
  induction calls with
  | nil => rfl
  | cons call rest ih => simp only [List.cons_append, flatAll, ih, List.append_assoc]

theorem flatAll_flatAll (calls : List (Call σ)) : flatAll (flatAll calls) = flatAll calls := by
  have plain := flatAll_plain calls
  generalize flatAll calls = flat at plain
  induction flat with
  | nil => rfl
  | cons call rest ih =>
    have single : flat call = [call] := by
      have first := plain call (by simp)
      cases call with
      | withRegistry calls => exact first.elim
      | _ => rfl
    rw [flatAll, single, ih fun c member => plain c (by simp [member]), List.singleton_append]

theorem performAll_append (calls more : List (Call σ)) :
    performAll S settings (calls ++ more) =
      performAll S settings calls >>= fun _ => performAll S settings more := by
  induction calls with
  | nil => rfl
  | cons call rest ih => simp only [List.cons_append, performAll, ih, bind_assoc]

theorem performAll_single (call : Call σ) :
    performAll S settings [call] = perform S settings call := by
  simp only [performAll]
  exact bind_pure _

mutual

/-- A call does what the calls do that it comes down to. -/
theorem performAll_flat (call : Call σ) :
    performAll S settings (flat call) = perform S settings call := by
  cases call with
  | withRegistry calls => exact performAll_flatAll calls
  | _ => exact performAll_single _

theorem performAll_flatAll (calls : List (Call σ)) :
    performAll S settings (flatAll calls) = performAll S settings calls := by
  cases calls with
  | nil => rfl
  | cons call rest =>
    rw [flatAll, performAll_append, performAll_flat call, performAll_flatAll rest, performAll]

end

end Call

namespace Run

variable (S : Surroundings σ) (settings : Settings) (system : σ) (calls : List (Call σ))

/-- The context after it was built on a system and the calls were made. A build
that fails leaves no context, and what is said of its runs is of no consequence. -/
def context : Context σ :=
  ((Call.performAll S settings calls).run (Context.build S settings system).state).state

/-- What has happened by then. -/
def past : List Event :=
  (Context.build S settings system).events ++
    ((Call.performAll S settings calls).run (Context.build S settings system).state).events

/-- What is left when the context is dropped after the calls. -/
def ended : Context σ := ((Context.drop S).run (context S settings system calls)).state

/-- Everything that happens from the build to the drop. -/
def trace : List Event :=
  past S settings system calls ++ ((Context.drop S).run (context S settings system calls)).events

/-- The system changes on its own in this way between the calls. -/
def Alters (calls : List (Call σ)) (change : σ → σ) : Prop :=
  Call.elsewhere change ∈ Call.flatAll calls

theorem context_flatAll :
    context S settings system (Call.flatAll calls) = context S settings system calls := by
  rw [context, context, Call.performAll_flatAll]

theorem context_append (more : List (Call σ)) :
    context S settings system (calls ++ more) =
      ((Call.performAll S settings more).run (context S settings system calls)).state := by
  rw [context, Call.performAll_append, Action.run_bind]
  rfl

theorem context_snoc (call : Call σ) :
    context S settings system (calls ++ [call]) =
      ((Call.perform S settings call).run (context S settings system calls)).state := by
  rw [context_append, Call.performAll_single]

/-- What unloading does in a run. -/
theorem context_unload (d : Descriptor) :
    (context S settings system (calls ++ [.unload d])).host =
      ((Host.unload S d).run (context S settings system calls).host).state := by
  rw [context_snoc]
  rfl

variable {S settings system calls}

variable {elsewhere : (σ → σ) → Prop}

/-- Loading calls take nothing away. -/
theorem perform_grows (loads : call.Loads) :
    Context.Grows S settings (Call.perform S settings call) := by
  cases call with
  | init => exact performs_bind Context.grows_init fun _ => performs_pure _
  | load path =>
    exact performs_bind (Context.grows_host (Host.loads_load path)) fun _ => performs_pure _
  | loadDirectory directory buffer =>
    exact performs_bind (Context.grows_host (Host.loads_loadDirectory directory buffer))
      fun _ => performs_pure _
  | _ => exact loads.elim

theorem perform_moving (plain : call.Plain)
    (alters : ∀ change, call = .elsewhere change → elsewhere change) :
    Context.Moving S settings elsewhere (Call.perform S settings call) := by
  cases call with
  | init | load | loadDirectory =>
    refine Context.Grows.moving (perform_grows ?_)
    trivial
  | deinit => exact Context.deinit_moving
  | unload d =>
    exact performs_bind (Context.moving_host (Host.unload_moving d)) fun _ => performs_pure _
  | unloadAll =>
    exact performs_bind (Context.moving_host Host.unloadAll_moving) fun _ => performs_pure _
  | withRegistry calls => exact plain.elim
  | elsewhere change => exact performs_single fun _ _ => .altered (alters change rfl)

theorem performAll_moving (plain : ∀ call ∈ calls, call.Plain)
    (alters : ∀ change, Call.elsewhere change ∈ calls → elsewhere change) :
    Context.Moving S settings elsewhere (Call.performAll S settings calls) := by
  induction calls with
  | nil => exact performs_pure _
  | cons call rest ih =>
    refine performs_bind ?_ fun _ => ?_
    · refine perform_moving (plain call (by simp)) fun change same => ?_
      exact alters change (by simp [same])
    · exact ih (fun c member => plain c (by simp [member]))
        (fun change member => alters change (by simp [member]))

variable (S settings system calls)

/-- A run is a trail of moves. -/
theorem moves : Trail (Context.Move S settings (Alters calls)) [] (Context.fresh system)
    (past S settings system calls) (context S settings system calls) := by
  have build : Context.Moving S settings (Alters calls) (Context.start S settings) :=
    Context.grows_start.moving
  have later : Context.Moving S settings (Alters calls)
      (Call.performAll S settings (Call.flatAll calls)) :=
    performAll_moving (Call.flatAll_plain calls) fun _ member => member
  rw [Call.performAll_flatAll] at later
  exact (build [] (Context.fresh system)).trans (later _ _)

/-- So is a run up to the drop. -/
theorem trace_moves : Trail (Context.Move S settings (Alters calls)) [] (Context.fresh system)
    (trace S settings system calls) (ended S settings system calls) :=
  (moves S settings system calls).trans (Context.drop_moving _ _)

end Run
end CodecHost
