import CodecHost.Proofs.HookSafety

/-! A function table is in place when the built-ins brought it or when a reference is
open that led to it. What is active is in place, and so is what a module leads to that
was opened a moment ago, before anything is known of its use. -/
namespace CodecHost

open Ledger

variable {σ : Type} {S : Surroundings σ} {settings : Settings} {P : List Event → σ → Prop}
  {table : List Event → Descriptor → Option Plugin} {past events : List Event} {p : Plugin}

/-- The function table is that of a built-in, or of a module that is open. -/
def Settings.InPlace (settings : Settings) (S : Surroundings σ) (P : List Event → σ → Prop)
    (table : List Event → Descriptor → Option Plugin) (past : List Event) (p : Plugin) : Prop :=
  settings.Brought S P past p ∨ Mapped table past p

namespace Host

variable {host : Host σ}

/-- What stays open while more is opened stays in place. -/
theorem Anchored.tables_in_place (anchored : host.Anchored P past) (steady : S.Steady P table)
    {held : List Handle} (books : Balanced (past ++ events) held)
    (inside : ∀ h ∈ host.modules.handles, h ∈ held) (orderly : OpensFirst events)
    (listed : p ∈ host.tables S) : Mapped table (past ++ events) p := by
  obtain ⟨record, there, leads⟩ := List.mem_filterMap.mp listed
  obtain ⟨earlier, h, member, since, reads⟩ := anchored.steady steady there
  have held : h ∈ host.modules.handles := List.mem_flatMap.mpr ⟨record, there, member⟩
  exact ⟨earlier, h, record.descriptor, reads.symm.trans leads,
    since.append books (inside h held) orderly⟩

/-- What is active is in place. -/
theorem Guarded.in_place (guarded : host.Guarded settings S P table past)
    (steady : S.Steady P table) (active : p ∈ host.registry.plugins) :
    settings.InPlace S P table past p := by
  refine (guarded.known p active).imp_right fun listed => ?_
  have books : Balanced (past ++ []) host.modules.handles := by simpa using guarded.books
  simpa using guarded.toAnchored.tables_in_place steady books (fun _ held => held)
    (opensFirst_quiet (by simp)) listed

section Opened

variable {path : Path} {handle : Handle} {d : Descriptor} {system resolved : σ}

/-- What has happened once a module was opened and asked for its descriptor. -/
def answered (past : List Event) (handle : Handle) (d : Descriptor) : List Event :=
  past ++ [.opened handle] ++ [.resolved handle (.ok d)]

theorem Anchored.answered_books (anchored : host.Anchored P past) :
    Balanced (answered past handle d) (handle :: host.modules.handles) :=
  anchored.books.opened.quiet (by simp [Event.Quiet])

/-- A module that was opened and has answered is open since it answered. -/
theorem Anchored.answered_since (anchored : host.Anchored P past) :
    OpenSince (past ++ [.opened handle]) (answered past handle d) handle d :=
  OpenSince.resolved anchored.answered_books List.mem_cons_self

theorem Anchored.answered_holds (anchored : host.Anchored P past) (keeps : S.Keeps P)
    (opening : S.openModule path host.system = (.ok handle, system))
    (resolving : S.resolve handle system = (.ok d, resolved)) :
    P (answered past handle d) resolved :=
  keeps.resolving (keeps.opening anchored.holds opening) (by simp) resolving

/-- The table that the answer leads to is in place. -/
theorem Anchored.answer_in_place (anchored : host.Anchored P past) (keeps : S.Keeps P)
    (steady : S.Steady P table) (opening : S.openModule path host.system = (.ok handle, system))
    (resolving : S.resolve handle system = (.ok d, resolved))
    (leads : (S.memory resolved).plugin? d = some p) : Mapped table (answered past handle d) p := by
  have since : OpenSince (past ++ [.opened handle]) (answered past handle d) handle d :=
    anchored.answered_since
  have reads := steady _ _ (anchored.answered_holds keeps opening resolving) _ _ _ since
  exact ⟨_, handle, d, reads.symm.trans leads, since⟩

/-- What was active before is in place still. -/
theorem Guarded.answered_in_place (guarded : host.Guarded settings S P table past)
    (steady : S.Steady P table) (active : p ∈ host.registry.plugins) :
    settings.InPlace S P table (answered past handle d) p := by
  have books : Balanced (answered past handle d) (handle :: host.modules.handles) :=
    guarded.toAnchored.answered_books
  have orderly : OpensFirst [.opened handle, .resolved handle (.ok d)] :=
    ⟨_, [], (List.append_nil _).symm, by simp [Event.closed?], by simp⟩
  rw [answered, List.append_assoc] at books ⊢
  refine (guarded.known p active).imp .append fun listed => ?_
  exact guarded.toAnchored.tables_in_place steady books (fun _ held => List.mem_cons_of_mem _ held)
    orderly listed

end Opened

end Host
end CodecHost
