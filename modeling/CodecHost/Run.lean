import CodecHost.Context

/-! A run is a sequence of calls on one context, between which the system may
change in any way. Callbacks make calls of their own. -/
namespace CodecHost

/-- A call that can change a context or the system it works on. -/
inductive Call (σ : Type) where
  | init
  | deinit
  | load (path : Path)
  | unload (d : Descriptor)
  | loadDirectory (directory : Path) (buffer : Option Scan.Buffer)
  | unloadAll
  /-- The calls that a callback makes while it holds a view of the registry. -/
  | withRegistry (calls : List (Call σ))
  /-- The system changes on its own. -/
  | elsewhere (change : σ → σ)

namespace Call

variable {σ : Type} (S : Surroundings σ) (settings : Settings)

/-- An answer that is of no interest to a run. -/
def discard {α : Type} (a : Action (Context σ) α) : Action (Context σ) Unit := do
  let _ ← a

/-- The system after a change of its own. -/
def alter (change : σ → σ) : Action (Context σ) Unit :=
  Action.modify fun c => { c with host := { c.host with system := change c.host.system } }

mutual

/-- What a call does. -/
def perform : Call σ → Action (Context σ) Unit
  | .init => discard (Context.init S settings)
  | .deinit => Context.deinit S
  | .load path => discard (Context.load S path)
  | .unload d => discard (Context.unload S d)
  | .loadDirectory directory buffer => discard (Context.loadDirectory S directory buffer)
  | .unloadAll => discard (Context.unloadAll S)
  | .withRegistry calls => Context.withRegistry fun _ => performAll calls
  | .elsewhere change => alter change

/-- What a sequence of calls does. -/
def performAll : List (Call σ) → Action (Context σ) Unit
  | [] => pure ()
  | call :: rest => do
    perform call
    performAll rest

end

end Call
end CodecHost
