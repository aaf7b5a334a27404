import CodecHost.Proofs.HandleConservation

/-! What may be assumed of the system that a context works on. An assumption is a
property of the system's state that may depend on what has happened so far; it has
to hold at the start, and nothing that happens may end it. -/
namespace CodecHost

open Ledger

variable {σ : Type} {S : Surroundings σ} {settings : Settings} {P : List Event → σ → Prop}
  {past events : List Event} {held kept : List Handle}

/-- Neither the loader nor what the host does by itself ends a property. The loader is
only asked for the descriptor behind a reference that it gave, and it is only given
back what is open. -/
structure Surroundings.Keeps (S : Surroundings σ) (P : List Event → σ → Prop) : Prop where
  opening : ∀ {past path s handle next}, P past s → S.openModule path s = (.ok handle, next) →
    P (past ++ [.opened handle]) next
  failing : ∀ {past path s diagnostic next}, P past s →
    S.openModule path s = (.error diagnostic, next) → P (past ++ [.openFailed path diagnostic]) next
  resolving : ∀ {past handle s answer next}, P past s → .opened handle ∈ past →
    S.resolve handle s = (answer, next) → P (past ++ [.resolved handle answer]) next
  closing : ∀ {past handle s}, P past s → closes (· = handle) past < opens (· = handle) past →
    P (past ++ [.closed handle]) (S.close handle s)
  hosting : ∀ {past s e}, P past s → e.Internal → P (past ++ [e]) s

/-- While a reference is open, what is behind the descriptor that it led to stays
what it was. Without an open reference nothing is known: the memory may be gone, or
another module may be there. -/
def Surroundings.Steady (S : Surroundings σ) (P : List Event → σ → Prop)
    (table : List Event → Descriptor → Option Plugin) : Prop :=
  ∀ past s, P past s → ∀ earlier h d, OpenSince earlier past h d →
    (S.memory s).plugin? d = table earlier d

namespace Surroundings.Keeps

theorem internal {s : σ} (keeps : S.Keeps P) (holds : P past s)
    (internal : ∀ e ∈ events, e.Internal) : P (past ++ events) s := by
  induction events generalizing past with
  | nil => simpa using holds
  | cons e rest ih =>
    rw [List.append_cons]
    have next := keeps.hosting holds (internal e (by simp))
    exact ih next fun f later => internal f (by simp [later])

theorem closeAll {s : σ} (keeps : S.Keeps P) (books : Balanced past (kept ++ held))
    (holds : P past s) : P (past ++ kept.map .closed) (Host.closeAll S kept s) := by
  induction kept generalizing past s with
  | nil =>
    rw [List.map_nil, List.append_nil]
    exact holds
  | cons handle rest ih =>
    rw [List.map_cons, List.append_cons]
    exact ih books.closed (keeps.closing holds (books.is_open List.mem_cons_self))

end Surroundings.Keeps

namespace Host

variable {host last : Host σ}

theorem Loading.keeps (keeps : S.Keeps P) (loading : Loading S host events last)
    (accounted : host.Accounted past) (holds : P past host.system) :
    P (past ++ events) last.system := by
  cases loading with
  | noted n => exact keeps.hosting holds trivial
  | unopened opening => exact keeps.failing holds opening
  | attached opening => exact keeps.opening holds opening
  | @refused path handle answer _ _ opening _ resolving =>
    have opened : Balanced (past ++ [.opened handle]) (handle :: host.modules.handles) :=
      accounted.books.opened
    have resolved : Balanced (past ++ [.opened handle] ++ [.resolved handle answer]) _ :=
      opened.quiet (by simp [Event.Quiet])
    rw [List.append_cons, List.append_cons]
    exact keeps.closing (keeps.resolving (keeps.opening holds opening) (by simp) resolving)
      (resolved.is_open List.mem_cons_self)
  | entered opening _ resolving registering =>
    rw [List.append_cons, List.append_cons]
    exact keeps.internal (keeps.resolving (keeps.opening holds opening) (by simp) resolving)
      registering.internal

theorem Move.keeps (keeps : S.Keeps P) (move : Move S host events last)
    (accounted : host.Accounted past) (holds : P past host.system) :
    P (past ++ events) last.system := by
  cases move with
  | loading loading => exact loading.keeps keeps accounted holds
  | unloading unloading =>
    cases unloading with
    | @released record before after kept handle found _ _ handles =>
      have noted : Balanced (past ++ [.notice (.released record.id kept.length)]) _ :=
        accounted.books.quiet (by simp [Event.Quiet])
      have listed : handle ∈ host.modules.handles :=
        List.mem_flatMap.mpr ⟨record, by simp [found], by simp [handles]⟩
      rw [List.append_cons]
      exact keeps.closing (keeps.hosting holds trivial) (noted.is_open listed)
    | @removed record before after handle _ _ hooks found _ _ handles unregistering =>
      have internal : ∀ e ∈ hooks ++ [.notice (.unloaded record.id)], e.Internal := by
        intro e member
        rcases List.mem_append.mp member with member | member
        · exact unregistering.internal e member
        · rw [List.mem_singleton.mp member]
          trivial
      have listed : handle ∈ host.modules.handles :=
        List.mem_flatMap.mpr ⟨record, by simp [found], by simp [handles]⟩
      have books := accounted.books.quiet fun e inside => (internal e inside).quiet
      rw [← List.append_assoc]
      exact keeps.closing (keeps.internal holds internal) (books.is_open listed)
  | @forced record rest _ _ hooks found unregistering =>
    have books := accounted.books.quiet fun e inside => (unregistering.internal e inside).quiet
    have split : host.modules.handles.Perm (record.handles ++ ModuleTable.handles ⟨rest⟩) := by
      rw [ModuleTable.handles, found]
      exact ModuleTable.handles_middle [] record rest
    rw [← List.append_assoc]
    exact keeps.closeAll (books.perm split) (keeps.internal holds unregistering.internal)

end Host

namespace Run

variable {system : σ} {calls : List (Call σ)}

/-- The system has a property from the start, and neither loading nor what happens
elsewhere between the calls ends it. -/
structure Within (S : Surroundings σ) (system : σ) (calls : List (Call σ))
    (P : List Event → σ → Prop) : Prop where
  start : P [] system
  loading : S.Keeps P
  elsewhere : ∀ change, Alters calls change → ∀ past s, P past s → P past (change s)

namespace Within

variable {more : List (Call σ)}

/-- What holds within a run holds within its beginning. -/
theorem start_of (within : Within S system (calls ++ more) P) : Within S system calls P :=
  ⟨within.start, within.loading, fun change alters => within.elsewhere change (by
    rw [Alters, Call.flatAll_append]
    exact List.mem_append_left _ alters)⟩

theorem flatAll (within : Within S system calls P) : Within S system (Call.flatAll calls) P :=
  ⟨within.start, within.loading, fun change alters =>
    within.elsewhere change (by rwa [Alters, Call.flatAll_flatAll] at alters)⟩

end Within

end Run
end CodecHost
