import CodecHost.Proofs.Ledger
import CodecHost.Registry
import Mathlib.Data.List.Basic

/-! What registering and unregistering can come to. A registry is seen here as the
function tables that are active, encoders before decoders; a table enters when its
init hook has run and leaves when its end hook has. -/
namespace CodecHost

variable {m : Memory} {d : Descriptor} {r : Registry}

/-- The host can work with the function table behind a descriptor. -/
def Memory.Accepts (m : Memory) (d : Descriptor) : Prop :=
  ∃ p, m.plugin? d = some p ∧ p.kind.supports (m.apiVersion p) = true

theorem Memory.accepts_iff {p : Plugin} (leads : m.plugin? d = some p) :
    m.Accepts d ↔ p.kind.supports (m.apiVersion p) = true := by
  simp [Accepts, leads]

instance (m : Memory) (d : Descriptor) : Decidable (m.Accepts d) :=
  match leads : m.plugin? d with
  | none => isFalse (by simp [Memory.Accepts, leads])
  | some _ => decidable_of_iff' _ (Memory.accepts_iff leads)

namespace Registry

/-- The function tables that are active. -/
def plugins (r : Registry) : List Plugin :=
  r.encoders.map .encoder ++ r.decoders.map .decoder

@[simp] theorem plugins_empty : empty.plugins = [] := rfl

@[simp] theorem mem_plugins_encoder {e : Encoder} : .encoder e ∈ r.plugins ↔ e ∈ r.encoders := by
  simp [plugins]

@[simp] theorem mem_plugins_decoder {d : Decoder} : .decoder d ∈ r.plugins ↔ d ∈ r.decoders := by
  simp [plugins]

theorem holds_iff {p : Plugin} : r.holds p = true ↔ p ∈ r.plugins := by
  cases p <;> simp [holds]

theorem isRegistered_iff :
    r.isRegistered m d = true ↔ ∃ p, m.plugin? d = some p ∧ p ∈ r.plugins := by
  unfold isRegistered
  cases m.plugin? d <;> simp [holds_iff]

theorem insertEncoder_perm (m : Memory) (e : Encoder) (encoders : List Encoder) :
    (insertEncoder m e encoders).Perm (e :: encoders) := by
  induction encoders with
  | nil => exact .refl _
  | cons first rest ih =>
    simp only [insertEncoder]
    split
    · exact .refl _
    · exact (ih.cons first).trans (.swap e first rest)

/-- The registry with one more function table, which stands in its place in the list of its
kind. -/
def place (m : Memory) (r : Registry) : Plugin → Registry
  | .encoder e => { r with encoders := insertEncoder m e r.encoders }
  | .decoder d => { r with decoders := r.decoders ++ [d] }

theorem plugins_place (p : Plugin) : (r.place m p).plugins.Perm (p :: r.plugins) := by
  cases p with
  | encoder e => exact ((insertEncoder_perm m e r.encoders).map Plugin.encoder).append_right _
  | decoder d =>
    rw [place, plugins, List.map_append, ← List.append_assoc]
    exact List.perm_append_singleton _ _

theorem plugins_erase_encoder (e : Encoder) :
    plugins { r with encoders := r.encoders.erase e } = r.plugins.erase (.encoder e) := by
  have injective : Function.Injective Plugin.encoder := fun _ _ same => Plugin.encoder.inj same
  by_cases active : e ∈ r.encoders
  · rw [plugins, plugins, List.erase_append_left _ (by simpa using active),
      List.map_erase injective]
  · rw [List.erase_of_not_mem active, List.erase_of_not_mem (by simpa using active)]

theorem plugins_erase_decoder (d : Decoder) :
    plugins { r with decoders := r.decoders.erase d } = r.plugins.erase (.decoder d) := by
  have injective : Function.Injective Plugin.decoder := fun _ _ same => Plugin.decoder.inj same
  rw [plugins, plugins, List.erase_append_right _ (by simp), List.map_erase injective]

theorem mem_initHooks {p : Plugin} {e : Event} (member : e ∈ initHooks m p) : e = .initHook p := by
  unfold initHooks at member
  split at member
  · exact List.mem_singleton.mp member
  · cases member

theorem mem_endHooks {p : Plugin} {e : Event} (member : e ∈ endHooks m p) : e = .endHook p := by
  unfold endHooks at member
  split at member
  · exact List.mem_singleton.mp member
  · cases member

/-- How registering a descriptor can end. -/
inductive Registering (m : Memory) (d : Descriptor) (r : Registry) :
    Step Registry (Except PluginError Unit) → Prop where
  /-- The host cannot work with the table, and nothing happens. -/
  | rejected (e : PluginError) (unfit : ¬ m.Accepts d) : Registering m d r ⟨.error e, r, []⟩
  /-- The table is active already and is left alone. -/
  | kept {p : Plugin} (n : Notice) (leads : m.plugin? d = some p) (fit : m.Accepts d)
      (active : p ∈ r.plugins) : Registering m d r ⟨.ok (), r, [.notice n]⟩
  /-- The table enters its list after its init hook has run. -/
  | added {p : Plugin} (n : Notice) (leads : m.plugin? d = some p) (fit : m.Accepts d)
      (idle : p ∉ r.plugins) :
      Registering m d r ⟨.ok (), r.place m p, initHooks m p ++ [.notice n]⟩

theorem registerEncoder_outcome {e : Encoder} (leads : m.plugin? d = some (.encoder e)) :
    Registering m d r ((registerEncoder m e).run r) := by
  unfold registerEncoder
  by_cases supported : Kind.encoder.supports (m.encoder e).apiVersion = true
  · have fit : m.Accepts d := (Memory.accepts_iff leads).mpr supported
    by_cases active : e ∈ r.encoders
    · simp only [supported, ↓reduceIte, Action.run_bind, Action.run_get, active,
        List.contains_eq_mem, decide_true, Action.run_note, Action.run_pure]
      exact .kept _ leads fit (by simpa using active)
    · simp only [supported, ↓reduceIte, Action.run_bind, Action.run_get, active, Bool.false_eq_true,
        List.contains_eq_mem, decide_false, Action.run_emit, Action.run_modify, Action.run_note,
        Action.run_pure, List.nil_append, List.append_nil]
      exact .added _ leads fit (by simpa using active)
  · simp only [supported, Bool.false_eq_true, ↓reduceIte, Action.run_pure]
    exact .rejected _ fun fit => supported ((Memory.accepts_iff leads).mp fit)

theorem registerDecoder_outcome {e : Decoder} (leads : m.plugin? d = some (.decoder e)) :
    Registering m d r ((registerDecoder m e).run r) := by
  unfold registerDecoder
  by_cases supported : Kind.decoder.supports (m.decoder e).apiVersion = true
  · have fit : m.Accepts d := (Memory.accepts_iff leads).mpr supported
    by_cases active : e ∈ r.decoders
    · simp only [supported, ↓reduceIte, Action.run_bind, Action.run_get, active,
        List.contains_eq_mem, decide_true, Action.run_note, Action.run_pure]
      exact .kept _ leads fit (by simpa using active)
    · simp only [supported, ↓reduceIte, Action.run_bind, Action.run_get, active, Bool.false_eq_true,
        List.contains_eq_mem, decide_false, Action.run_emit, Action.run_modify, Action.run_note,
        Action.run_pure, List.nil_append, List.append_nil]
      exact .added _ leads fit (by simpa using active)
  · simp only [supported, Bool.false_eq_true, ↓reduceIte, Action.run_pure]
    exact .rejected _ fun fit => supported ((Memory.accepts_iff leads).mp fit)

/-- Registering a descriptor ends in one of these ways. -/
theorem register_outcome (m : Memory) (d : Descriptor) (r : Registry) :
    Registering m d r ((register m d).run r) := by
  unfold register
  cases leads : m.plugin? d with
  | none =>
    refine .rejected _ ?_
    rintro ⟨p, found, _⟩
    rw [leads] at found
    cases found
  | some plugin =>
    cases plugin with
    | encoder e => exact registerEncoder_outcome leads
    | decoder e => exact registerDecoder_outcome leads

/-- How unregistering a descriptor can end. -/
inductive Unregistering (m : Memory) (d : Descriptor) (r : Registry) :
    Step Registry Bool → Prop where
  /-- There is no table, or it is not active. -/
  | absent (notices : List Notice) (idle : ∀ p, m.plugin? d = some p → p ∉ r.plugins) :
      Unregistering m d r ⟨false, r, notices.map .notice⟩
  /-- The table leaves its list after its end hook has run. -/
  | removed {p : Plugin} {next : Registry} (n : Notice) (leads : m.plugin? d = some p)
      (active : p ∈ r.plugins) (left : next.plugins = r.plugins.erase p) :
      Unregistering m d r ⟨true, next, endHooks m p ++ [.notice n]⟩

/-- Unregistering a descriptor ends in one of these ways. -/
theorem unregister_outcome (m : Memory) (d : Descriptor) (r : Registry) :
    Unregistering m d r ((unregister m d).run r) := by
  unfold unregister
  cases leads : m.plugin? d with
  | none => exact .absent [] (by simp [leads])
  | some plugin =>
    cases plugin with
    | encoder e =>
      unfold unregisterEncoder
      by_cases active : e ∈ r.encoders
      · simp only [Action.run_bind, Action.run_get, List.contains_eq_mem, active, decide_true,
          ↓reduceIte, Action.run_emit, Action.run_modify, Action.run_note, Action.run_pure,
          List.nil_append, List.append_nil]
        exact .removed _ leads (by simpa using active) (plugins_erase_encoder e)
      · simp only [Action.run_bind, Action.run_get, List.contains_eq_mem, active, decide_false,
          Bool.false_eq_true, ↓reduceIte, Action.run_note, Action.run_pure, List.nil_append,
          List.append_nil]
        exact .absent [_] (by simpa [leads] using active)
    | decoder e =>
      unfold unregisterDecoder
      by_cases active : e ∈ r.decoders
      · simp only [Action.run_bind, Action.run_get, List.contains_eq_mem, active, decide_true,
          ↓reduceIte, Action.run_emit, Action.run_modify, Action.run_note, Action.run_pure,
          List.nil_append, List.append_nil]
        exact .removed _ leads (by simpa using active) (plugins_erase_decoder e)
      · simp only [Action.run_bind, Action.run_get, List.contains_eq_mem, active, decide_false,
          Bool.false_eq_true, ↓reduceIte, Action.run_note, Action.run_pure, List.nil_append,
          List.append_nil]
        exact .absent [_] (by simpa [leads] using active)

theorem Registering.internal {step : Step Registry (Except PluginError Unit)}
    (registering : Registering m d r step) : ∀ e ∈ step.events, e.Internal := by
  cases registering with
  | rejected => simp
  | kept => simp [Event.Internal]
  | added =>
    intro e member
    rcases List.mem_append.mp member with member | member
    · rw [mem_initHooks member]
      trivial
    · rw [List.mem_singleton.mp member]
      trivial

theorem Unregistering.internal {step : Step Registry Bool}
    (unregistering : Unregistering m d r step) : ∀ e ∈ step.events, e.Internal := by
  cases unregistering with
  | absent => simp [Event.Internal]
  | removed =>
    intro e member
    rcases List.mem_append.mp member with member | member
    · rw [mem_endHooks member]
      trivial
    · rw [List.mem_singleton.mp member]
      trivial

/-- What registers is active afterwards, and nothing else has changed. -/
theorem Registering.plugins {next : Registry} {hooks : List Event}
    (registering : Registering m d r ⟨.ok (), next, hooks⟩) :
    m.Accepts d ∧ ∃ p, m.plugin? d = some p ∧ next.plugins.Perm (r.plugins.insert p) := by
  cases registering with
  | kept _ leads fit active => exact ⟨fit, _, leads, by rw [List.insert_of_mem active]⟩
  | added _ leads fit idle =>
    exact ⟨fit, _, leads, by rw [List.insert_of_not_mem idle]; exact plugins_place _⟩

/-- What unregisters is not active afterwards, and nothing else has changed. -/
theorem Unregistering.plugins {next : Registry} {was : Bool} {hooks : List Event}
    (unregistering : Unregistering m d r ⟨was, next, hooks⟩) :
    next.plugins = (m.plugin? d).elim r.plugins r.plugins.erase := by
  cases unregistering with
  | absent _ idle =>
    cases leads : m.plugin? d with
    | none => rfl
    | some p => exact (List.erase_of_not_mem (idle p leads)).symm
  | removed _ leads _ left => rw [leads, left, Option.elim_some]

/-- The hooks that run are those of the function table that enters. -/
theorem Registering.hook {step : Step Registry (Except PluginError Unit)} {e : Event} {p : Plugin}
    (registering : Registering m d r step) (member : e ∈ step.events) (hook : e.hook? = some p) :
    m.plugin? d = some p := by
  cases registering with
  | rejected => cases member
  | kept =>
    rw [List.mem_singleton.mp member] at hook
    cases hook
  | added _ leads =>
    rcases List.mem_append.mp member with member | member
    · rw [mem_initHooks member] at hook
      cases hook
      exact leads
    · rw [List.mem_singleton.mp member] at hook
      cases hook

/-- The hooks that run are those of the function table that leaves. -/
theorem Unregistering.hook {step : Step Registry Bool} {e : Event} {p : Plugin}
    (unregistering : Unregistering m d r step) (member : e ∈ step.events)
    (hook : e.hook? = some p) : m.plugin? d = some p := by
  cases unregistering with
  | absent =>
    obtain ⟨_, _, rfl⟩ := List.mem_map.mp member
    cases hook
  | removed _ leads =>
    rcases List.mem_append.mp member with member | member
    · rw [mem_endHooks member] at hook
      cases hook
      exact leads
    · rw [List.mem_singleton.mp member] at hook
      cases hook

/-- The end hooks that run when everything is unregistered at once. -/
def clearing (m : Memory) (r : Registry) : List Event :=
  (r.decoders.flatMap fun d => endHooks m (.decoder d)) ++
    r.encoders.flatMap fun e => endHooks m (.encoder e)

theorem mem_clearing {e : Event} (member : e ∈ r.clearing m) :
    ∃ p, p ∈ r.plugins ∧ e = .endHook p := by
  rcases List.mem_append.mp member with member | member
  · obtain ⟨d, active, member⟩ := List.mem_flatMap.mp member
    exact ⟨.decoder d, by simpa using active, mem_endHooks member⟩
  · obtain ⟨d, active, member⟩ := List.mem_flatMap.mp member
    exact ⟨.encoder d, by simpa using active, mem_endHooks member⟩

theorem unregisterAllDecoders_run :
    (unregisterAllDecoders m).run r =
      ⟨(), { r with decoders := [] }, r.decoders.flatMap fun d => endHooks m (.decoder d)⟩ := by
  simp [unregisterAllDecoders]

theorem unregisterAllEncoders_run :
    (unregisterAllEncoders m).run r =
      ⟨(), { r with encoders := [] }, r.encoders.flatMap fun e => endHooks m (.encoder e)⟩ := by
  simp [unregisterAllEncoders]

end Registry
end CodecHost
