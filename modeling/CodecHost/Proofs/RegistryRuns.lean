import CodecHost.Proofs.HookTurns
import CodecHost.Proofs.RegistryReads
import CodecHost.Proofs.Trails
import Mathlib.Data.List.Nodup

/-! Sequences of operations on a registry that stands alone, while memory stays as it
is. A function table may be handed in by itself. It is then treated as one that a
descriptor leads to, so that nothing has to be shown of it anew. -/
namespace CodecHost

variable {m : Memory} {d : Descriptor} {r next : Registry} {p q : Plugin}
  {past events : List Event}

/-- Where a function table lies. -/
def Plugin.address : Plugin → Address
  | encoder e => e.address
  | decoder d => d.address

/-- The memory in which every descriptor leads to one function table. -/
def Memory.leading (m : Memory) (p : Plugin) : Memory :=
  { m with info := fun _ => ⟨1, p.kind.tag, some p.address⟩ }

theorem Memory.plugin?_leading : (m.leading p).plugin? d = some p := by
  cases p <;> rfl

theorem Memory.agree_leading : m.Agree (m.leading p) q := by
  cases q <;> rfl

namespace Registry

/-- Empties the list of a kind. -/
def unregisterAll (m : Memory) : Kind → Action Registry Unit
  | .encoder => unregisterAllEncoders m
  | .decoder => unregisterAllDecoders m

theorem registerTable_outcome (m : Memory) (p : Plugin) (r : Registry) :
    Registering (m.leading p) ⟨0⟩ r ((registerTable m p).run r) := by
  have same : (registerTable (m.leading p) p).run r = (registerTable m p).run r :=
    registerTable_congr Memory.agree_leading fun _ _ => Memory.agree_leading
  rw [← same, ← register_eq (d := ⟨0⟩) Memory.plugin?_leading]
  exact register_outcome ..

theorem unregisterTable_outcome (m : Memory) (p : Plugin) (r : Registry) :
    Unregistering (m.leading p) ⟨0⟩ r ((unregisterTable m p).run r) := by
  have same : unregisterTable (m.leading p) p = unregisterTable m p :=
    unregisterTable_congr Memory.agree_leading
  rw [← same, ← unregister_eq (d := ⟨0⟩) Memory.plugin?_leading]
  exact unregister_outcome ..

theorem Registering.single {answer : Except PluginError Unit}
    (registering : Registering m d r ⟨answer, next, events⟩) (single : r.plugins.Nodup) :
    next.plugins.Nodup := by
  cases registering with
  | rejected | kept => exact single
  | added _ _ _ idle => exact (plugins_place _).nodup_iff.mpr (single.cons idle)

theorem Unregistering.single {was : Bool}
    (unregistering : Unregistering m d r ⟨was, next, events⟩) (single : r.plugins.Nodup) :
    next.plugins.Nodup := by
  cases unregistering with
  | absent => exact single
  | removed _ _ _ left => exact left ▸ single.erase _

/-- Something that can be done to a registry. -/
inductive Operation where
  | register (d : Descriptor)
  | registerTable (p : Plugin)
  | unregister (d : Descriptor)
  | unregisterTable (p : Plugin)
  | unregisterAll (kind : Kind)

/-- What an operation does and answers: whether it found what it was asked to remove,
or why it could not register. -/
def Operation.perform (m : Memory) : Operation → Action Registry (Except PluginError Bool)
  | register d => do
    let answer ← Registry.register m d
    pure (answer.map fun _ => true)
  | registerTable p => do
    let answer ← Registry.registerTable m p
    pure (answer.map fun _ => true)
  | unregister d => do
    let was ← Registry.unregister m d
    pure (.ok was)
  | unregisterTable p => do
    let was ← Registry.unregisterTable m p
    pure (.ok was)
  | unregisterAll kind => do
    Registry.unregisterAll m kind
    pure (.ok true)

/-- What a sequence of operations does. -/
def performAll (m : Memory) : List Operation → Action Registry Unit
  | [] => pure ()
  | operation :: rest => do
    let _ ← operation.perform m
    performAll m rest

/-- No table is active twice, and the hooks of one table took turns. -/
structure InTurn (p : Plugin) (past : List Event) (r : Registry) : Prop where
  single : r.plugins.Nodup
  toggled : Toggled p past (p ∈ r.plugins)

theorem inTurn_empty : InTurn p [] empty := ⟨List.nodup_nil, Toggled.nil.congr (by simp)⟩

theorem Registering.inTurn {answer : Except PluginError Unit}
    (registering : Registering m d r ⟨answer, next, events⟩) (hooked : m.hasInit p = true)
    (inTurn : InTurn p past r) : InTurn p (past ++ events) next :=
  ⟨registering.single inTurn.single, registering.toggled (fun _ => hooked) inTurn.toggled⟩

theorem Unregistering.inTurn {was : Bool}
    (unregistering : Unregistering m d r ⟨was, next, events⟩) (hooked : m.hasEnd p = true)
    (inTurn : InTurn p past r) : InTurn p (past ++ events) next :=
  ⟨unregistering.single inTurn.single,
    unregistering.toggled inTurn.single (fun _ => hooked) inTurn.toggled⟩

/-- Emptying one list leaves the other, and ends what was in it. -/
theorem inTurn_unregisterAll {kind : Kind} (hooked : m.hasEnd p = true) :
    Ensures (InTurn p) (unregisterAll m kind) fun _ => InTurn p := by
  intro past r inTurn
  cases kind with
  | encoder =>
    have single := encoders_nodup inTurn.single
    have toggled := toggled_ended single (m := m) (by simp +contextual [plugins])
      (fun _ => hooked) inTurn.toggled
    rw [List.flatMap_map] at toggled
    simp only [unregisterAll, unregisterAllEncoders_run]
    refine ⟨by simpa [plugins] using decoders_nodup inTurn.single, toggled.congr ?_⟩
    cases p <;> simp
  | decoder =>
    have single := decoders_nodup inTurn.single
    have toggled := toggled_ended single (m := m) (by simp +contextual [plugins])
      (fun _ => hooked) inTurn.toggled
    rw [List.flatMap_map] at toggled
    simp only [unregisterAll, unregisterAllDecoders_run]
    refine ⟨by simpa [plugins] using encoders_nodup inTurn.single, toggled.congr ?_⟩
    cases p <;> simp

/-- Every operation keeps the hooks in turn. -/
theorem inTurn_perform (operation : Operation) (starts : m.hasInit p = true)
    (stops : m.hasEnd p = true) : Ensures (InTurn p) (operation.perform m) fun _ => InTurn p := by
  cases operation with
  | register d =>
    refine ensures_bind ?_ fun _ => ensures_pure fun _ _ inTurn => inTurn
    exact fun _ r inTurn => (register_outcome m d r).inTurn starts inTurn
  | registerTable q =>
    refine ensures_bind ?_ fun _ => ensures_pure fun _ _ inTurn => inTurn
    exact fun _ r inTurn => (registerTable_outcome m q r).inTurn
      (Memory.agree_leading.hasInit.trans starts) inTurn
  | unregister d =>
    refine ensures_bind ?_ fun _ => ensures_pure fun _ _ inTurn => inTurn
    exact fun _ r inTurn => (unregister_outcome m d r).inTurn stops inTurn
  | unregisterTable q =>
    refine ensures_bind ?_ fun _ => ensures_pure fun _ _ inTurn => inTurn
    exact fun _ r inTurn => (unregisterTable_outcome m q r).inTurn
      (Memory.agree_leading.hasEnd.trans stops) inTurn
  | unregisterAll kind =>
    exact ensures_bind (inTurn_unregisterAll stops) fun _ => ensures_pure fun _ _ inTurn => inTurn

/-- So does every sequence of operations. -/
theorem inTurn_performAll (operations : List Operation) (starts : m.hasInit p = true)
    (stops : m.hasEnd p = true) :
    Ensures (InTurn p) (performAll m operations) fun _ => InTurn p := by
  induction operations with
  | nil => exact ensures_pure fun _ _ inTurn => inTurn
  | cons operation rest ih =>
    exact ensures_bind (inTurn_perform operation starts stops) fun _ => ih

end Registry
end CodecHost
