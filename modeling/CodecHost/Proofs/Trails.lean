import CodecHost.Action

/-! Steps that leave events behind, one after the other. What a step may do can
depend on what happened before it, so that a trail has a past. An action is
described by the steps it takes, and what every step keeps is kept by the action. -/
namespace CodecHost

variable {σ τ α β : Type}

/-- Steps one after the other, from a past and a state. -/
inductive Trail (R : List Event → σ → List Event → σ → Prop) :
    List Event → σ → List Event → σ → Prop where
  | done {past : List Event} {s : σ} : Trail R past s [] s
  | step {past events later : List Event} {s middle last : σ} (first : R past s events middle)
      (rest : Trail R (past ++ events) middle later last) :
      Trail R past s (events ++ later) last

namespace Trail

variable {R Q : List Event → σ → List Event → σ → Prop} {past events later : List Event}
  {s middle last : σ}

theorem single (only : R past s events last) : Trail R past s events last := by
  simpa using Trail.step only .done

theorem trans (first : Trail R past s events middle)
    (second : Trail R (past ++ events) middle later last) :
    Trail R past s (events ++ later) last := by
  induction first with
  | done => simpa using second
  | step first _ ih =>
    rw [List.append_assoc]
    exact .step first (ih (by simpa using second))

/-- Steps of one kind may be seen as steps of another, also of a larger state. -/
theorem lift {Q : List Event → τ → List Event → τ → Prop} (view : σ → τ)
    (each : ∀ {past s events last}, R past s events last → Q past (view s) events (view last))
    (trail : Trail R past s events last) : Trail Q past (view s) events (view last) := by
  induction trail with
  | done => exact .done
  | step first _ ih => exact .step (each first) ih

/-- What every step keeps is kept by a trail. -/
theorem preserve {I : List Event → σ → Prop}
    (each : ∀ {past s events last}, R past s events last → I past s → I (past ++ events) last)
    (trail : Trail R past s events last) (start : I past s) : I (past ++ events) last := by
  induction trail with
  | done => simpa using start
  | step first _ ih =>
    rw [← List.append_assoc]
    exact ih (each first start)

end Trail

/-- Whatever the action does, it does in steps of a given kind. -/
def Performs (R : List Event → σ → List Event → σ → Prop) (a : Action σ α) : Prop :=
  ∀ past s, Trail R past s (a.run s).events (a.run s).state

section Actions

variable {R : List Event → σ → List Event → σ → Prop} {a : Action σ α}

theorem performs_pure (x : α) : Performs R (pure x : Action σ α) := fun _ _ => .done

theorem performs_single (only : ∀ past s, R past s (a.run s).events (a.run s).state) :
    Performs R a := fun past s => .single (only past s)

theorem performs_bind {f : α → Action σ β} (first : Performs R a)
    (second : ∀ x, Performs R (f x)) : Performs R (a >>= f) :=
  fun past s => (first past s).trans (second _ _ _)

theorem performs_get_bind {f : σ → Action σ β} (next : ∀ s, Performs R (f s)) :
    Performs R (Action.get >>= f) := fun past s => next s past s

theorem Performs.imp {Q : List Event → σ → List Event → σ → Prop} (performs : Performs R a)
    (each : ∀ {past s events last}, R past s events last → Q past s events last) : Performs Q a :=
  fun past s => (performs past s).lift (fun s => s) each

/-- Steps on a part of the state are steps on the whole. -/
theorem Performs.focus {Q : List Event → τ → List Event → τ → Prop} {view : τ → σ}
    {update : σ → τ → τ} (performs : Performs R a) (same : ∀ t, update (view t) t = t)
    (each : ∀ {t past s events last}, R past s events last →
      Q past (update s t) events (update last t)) :
    Performs Q (Action.focus view update a) := by
  intro past t
  have lifted := (performs past (view t)).lift (fun s => update s t) each (Q := Q)
  rwa [same] at lifted

/-- From a past and a state as they are before, the action comes to an answer and a
state as they are after. -/
def Ensures (before : List Event → σ → Prop) (a : Action σ α)
    (after : α → List Event → σ → Prop) : Prop :=
  ∀ past s, before past s → after (a.run s).value (past ++ (a.run s).events) (a.run s).state

variable {before I : List Event → σ → Prop}

theorem ensures_pure {after : α → List Event → σ → Prop} {x : α}
    (holds : ∀ past s, before past s → after x past s) : Ensures before (pure x) after := by
  intro past s start
  simpa using holds past s start

theorem ensures_bind {f : α → Action σ β} {middle : α → List Event → σ → Prop}
    {after : β → List Event → σ → Prop} (first : Ensures before a middle)
    (second : ∀ x, Ensures (middle x) (f x) after) : Ensures before (a >>= f) after := by
  intro past s start
  rw [Action.run_bind, ← List.append_assoc]
  exact second _ _ _ (first past s start)

theorem ensures_get_bind {f : σ → Action σ β} {after : β → List Event → σ → Prop}
    (next : ∀ s, Ensures (fun past t => before past t ∧ t = s) (f s) after) :
    Ensures before (Action.get >>= f) after :=
  fun past s start => next s past s ⟨start, rfl⟩

/-- What every step keeps is kept by the action. -/
theorem Performs.ensures (performs : Performs R a)
    (each : ∀ {past s events last}, R past s events last → I past s → I (past ++ events) last) :
    Ensures I a fun _ => I :=
  fun past s start => (performs past s).preserve each start

end Actions
end CodecHost
