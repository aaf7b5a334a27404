import CodecHost.Event

/-! An action reads and changes a state, answers a value and tells what happened
on the way. Events of later actions come behind those of earlier ones. -/
namespace CodecHost

/-- The outcome of an action. -/
structure Step (σ α : Type) where
  value : α
  state : σ
  events : List Event

def Action (σ α : Type) : Type := σ → Step σ α

namespace Action

variable {σ τ α β : Type}

/-- The outcome of the action in a state. -/
def run (a : Action σ α) (s : σ) : Step σ α := a s

protected def pure (x : α) : Action σ α := fun s => ⟨x, s, []⟩

protected def bind (a : Action σ α) (f : α → Action σ β) : Action σ β := fun s =>
  let first := a s
  let second := f first.value first.state
  ⟨second.value, second.state, first.events ++ second.events⟩

instance : Monad (Action σ) where
  pure := Action.pure
  bind := Action.bind

/-- The state itself. -/
def get : Action σ σ := fun s => ⟨s, s, []⟩

def modify (f : σ → σ) : Action σ Unit := fun s => ⟨(), f s, []⟩

def emit (events : List Event) : Action σ Unit := fun s => ⟨(), s, events⟩

def note (n : Notice) : Action σ Unit := emit [.notice n]

/-- An action on a part of the state. -/
def focus (view : τ → σ) (update : σ → τ → τ) (a : Action σ α) : Action τ α := fun t =>
  let step := a (view t)
  ⟨step.value, update step.state t, step.events⟩

@[simp] theorem run_pure (x : α) (s : σ) : (pure x : Action σ α).run s = ⟨x, s, []⟩ := rfl

@[simp] theorem run_bind (a : Action σ α) (f : α → Action σ β) (s : σ) :
    (a >>= f).run s =
      ⟨((f (a.run s).value).run (a.run s).state).value,
       ((f (a.run s).value).run (a.run s).state).state,
       (a.run s).events ++ ((f (a.run s).value).run (a.run s).state).events⟩ := rfl

@[simp] theorem run_get (s : σ) : (get : Action σ σ).run s = ⟨s, s, []⟩ := rfl

@[simp] theorem run_modify (f : σ → σ) (s : σ) : (modify f).run s = ⟨(), f s, []⟩ := rfl

@[simp] theorem run_emit (events : List Event) (s : σ) :
    (emit events : Action σ Unit).run s = ⟨(), s, events⟩ := rfl

@[simp] theorem run_note (n : Notice) (s : σ) :
    (note n : Action σ Unit).run s = ⟨(), s, [.notice n]⟩ := rfl

@[simp] theorem run_focus (view : τ → σ) (update : σ → τ → τ) (a : Action σ α) (t : τ) :
    (focus view update a).run t =
      ⟨(a.run (view t)).value, update (a.run (view t)).state t, (a.run (view t)).events⟩ := rfl

private theorem id_map_step (a : Action σ α) : id <$> a = a := by
  funext s
  show Step.mk (a s).value (a s).state ((a s).events ++ []) = a s
  rw [List.append_nil]

private theorem bind_assoc_step {γ : Type} (a : Action σ α) (f : α → Action σ β)
    (g : β → Action σ γ) : a >>= f >>= g = a >>= fun x => f x >>= g := by
  funext s
  simp only [bind, Action.bind, List.append_assoc]

instance : LawfulMonad (Action σ) :=
  LawfulMonad.mk' _ id_map_step (fun _ _ => rfl) bind_assoc_step

end Action
end CodecHost
