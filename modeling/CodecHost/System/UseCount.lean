import CodecHost.System.Machine

/-! A module whose hooks run can count how often it is initialized. The count
starts at zero each time the module is mapped, and is read off the events of a
run. -/
namespace CodecHost.UseCount

/-- A module at some point of a run: the references on it, and how many more times
it was initialized than ended since it was mapped. -/
structure State where
  references : Nat
  count : Int

/-- The event concerns the module's own function table. -/
def isOwn (id : ModuleId) : Plugin → Bool
  | .encoder e => e.address = id.value
  | .decoder d => d.address = id.value

def step (id : ModuleId) (s : State) : Event → State
  | .opened handle =>
    if handle.id ≠ id then s
    else if s.references = 0 then ⟨1, 0⟩
    else { s with references := s.references + 1 }
  | .closed handle => if handle.id ≠ id then s else { s with references := s.references - 1 }
  | .initHook plugin => if isOwn id plugin then { s with count := s.count + 1 } else s
  | .endHook plugin => if isOwn id plugin then { s with count := s.count - 1 } else s
  | _ => s

/-- The count of a module after the given events. -/
def after (id : ModuleId) (events : List Event) : Int := (events.foldl (step id) ⟨0, 0⟩).count

/-- What asking a module for its count gives. -/
inductive Answer where
  | notMapped
  /-- The module keeps no count. -/
  | uncounted
  | counted (count : Int)
  deriving DecidableEq

/-- Asks the module that a path leads to. The events are those of the run so far. -/
def ask (m : Machine) (events : List Event) (path : Path) : Answer :=
  match Machine.loaderName path with
  | .error _ => .notMapped
  | .ok name =>
    match m.moduleOf name with
    | .error _ => .notMapped
    | .ok i =>
      match m.mapping? i, m.object? i with
      | some _, some object => if object.countsUse then .counted (after ⟨i⟩ events) else .uncounted
      | _, _ => .notMapped

end CodecHost.UseCount
