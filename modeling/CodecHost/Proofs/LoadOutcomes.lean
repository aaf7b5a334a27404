import CodecHost.Host
import CodecHost.Proofs.RegistryOutcomes

/-! Every way in which a load can end. A module that is already in the table gives another
reference, and a new one enters when it resolves and registers. In all other cases the load
fails: the reference, if there is one, is closed again, and what is active and loaded stays
as it was. -/
namespace CodecHost

variable {σ α : Type} {S : Surroundings σ} {m : Memory} {d : Descriptor} {r : Registry}
  {p : Plugin}

namespace Registry

/-- A version that the host does not know is refused before anything is done. -/
theorem register_unsupported (leads : m.plugin? d = some p)
    (unsupported : p.kind.supports (m.apiVersion p) = false) :
    (register m d).run r = ⟨.error (.unsupportedVersion (m.name p) (m.apiVersion p)), r, []⟩ := by
  cases p with
  | encoder e =>
    have version : Kind.encoder.supports (m.encoder e).apiVersion = false := unsupported
    simp only [register, leads, registerEncoder, version, Bool.false_eq_true, ↓reduceIte,
      Action.run_pure]
    rfl
  | decoder e =>
    have version : Kind.decoder.supports (m.decoder e).apiVersion = false := unsupported
    simp only [register, leads, registerDecoder, version, Bool.false_eq_true, ↓reduceIte,
      Action.run_pure]
    rfl

/-- A version that the host knows is registered. -/
theorem register_supported (leads : m.plugin? d = some p)
    (supported : p.kind.supports (m.apiVersion p) = true) :
    ∃ next hooks, (register m d).run r = ⟨.ok (), next, hooks⟩ := by
  have outcome := register_outcome m d r
  generalize (register m d).run r = step at outcome
  cases outcome with
  | rejected _ unfit => exact absurd ((Memory.accepts_iff leads).mpr supported) unfit
  | kept => exact ⟨_, _, rfl⟩
  | added => exact ⟨_, _, rfl⟩

end Registry

namespace Host

/-- How a load can fail: with which error, what happened, and how that left the system. -/
inductive Refusal (S : Surroundings σ) (path : Path) (host : Host σ) :
    PluginError → List Event → σ → Prop where
  /-- The module does not open. -/
  | unopened {diagnostic : String} {system : σ}
      (opening : S.openModule path host.system = (.error diagnostic, system)) :
      Refusal S path host (.loadFailure path (.reported diagnostic))
        [.openFailed path diagnostic] system
  /-- The module is new and exports no descriptor. -/
  | unresolved {handle : Handle} {diagnostic : String} {system resolved : σ}
      (opening : S.openModule path host.system = (.ok handle, system))
      (new : host.modules.record? handle.id = none)
      (resolving : S.resolve handle system = (.error diagnostic, resolved)) :
      Refusal S path host (.loadFailure handle.path (.reported diagnostic))
        [.opened handle, .resolved handle (.error diagnostic), .closed handle]
        (S.close handle resolved)
  /-- The module is new, and its descriptor leads to no function table. -/
  | tableless {handle : Handle} {d : Descriptor} {system resolved : σ}
      (opening : S.openModule path host.system = (.ok handle, system))
      (new : host.modules.record? handle.id = none)
      (resolving : S.resolve handle system = (.ok d, resolved))
      (bare : (S.memory resolved).plugin? d = none) :
      Refusal S path host
        (.loadFailure path
          (.noFunctionTable ((S.memory (S.close handle resolved)).info d).version))
        [.opened handle, .resolved handle (.ok d), .closed handle] (S.close handle resolved)
  /-- The module is new, and its function table is of a version that the host does not know. -/
  | unsupported {handle : Handle} {d : Descriptor} {p : Plugin} {system resolved : σ}
      (opening : S.openModule path host.system = (.ok handle, system))
      (new : host.modules.record? handle.id = none)
      (resolving : S.resolve handle system = (.ok d, resolved))
      (leads : (S.memory resolved).plugin? d = some p)
      (version : p.kind.supports ((S.memory resolved).apiVersion p) = false) :
      Refusal S path host
        (.unsupportedVersion ((S.memory resolved).name p) ((S.memory resolved).apiVersion p))
        [.opened handle, .resolved handle (.ok d), .closed handle] (S.close handle resolved)

/-- How a load can end. -/
inductive Loaded (S : Surroundings σ) (path : Path) (host : Host σ) :
    Step (Host σ) (Except PluginError Descriptor) → Prop where
  | refused {e : PluginError} {events : List Event} {system : σ}
      (refusal : Refusal S path host e events system) :
      Loaded S path host ⟨.error e, { host with system }, events⟩
  /-- A module that has a record gives another reference. Nobody asks what it exports now. -/
  | attached {handle : Handle} {record : Record} {system : σ}
      (opening : S.openModule path host.system = (.ok handle, system))
      (tracked : host.modules.record? handle.id = some record) :
      Loaded S path host
        ⟨.ok record.descriptor, { host with modules := host.modules.attach handle, system },
          [.opened handle, .notice (.attached handle.id path (record.openCount + 1))]⟩
  /-- A new module is registered and gets a record. -/
  | entered {handle : Handle} {d : Descriptor} {system resolved : σ} {registry : Registry}
      {hooks : List Event}
      (opening : S.openModule path host.system = (.ok handle, system))
      (new : host.modules.record? handle.id = none)
      (resolving : S.resolve handle system = (.ok d, resolved))
      (registering : (Registry.register (S.memory resolved) d).run host.registry =
        ⟨.ok (), registry, hooks⟩) :
      Loaded S path host
        ⟨.ok d, ⟨registry, host.modules.insert d handle, resolved⟩,
          .opened handle :: .resolved handle (.ok d) :: (hooks ++
            [.notice (.loaded ((S.memory resolved).info d).kind? path handle.id)])⟩

variable {host : Host σ} {path : Path} {e : PluginError} {events : List Event} {system : σ}

theorem readMemory_run : (readMemory S).run host = ⟨S.memory host.system, host, []⟩ := rfl

theorem onRegistry_run (f : Memory → Action Registry α) :
    (onRegistry S f).run host =
      ⟨((f (S.memory host.system)).run host.registry).value,
        { host with registry := ((f (S.memory host.system)).run host.registry).state },
        ((f (S.memory host.system)).run host.registry).events⟩ := rfl

theorem modifyModules_run (f : ModuleTable → ModuleTable) :
    (modifyModules f : Action (Host σ) Unit).run host =
      ⟨(), { host with modules := f host.modules }, []⟩ := rfl

theorem release_run (handle : Handle) :
    (release S handle).run host =
      ⟨(), { host with system := S.close handle host.system }, [.closed handle]⟩ := rfl

theorem acquire_failed {path : Path} {diagnostic : String} {system : σ}
    (opening : S.openModule path host.system = (.error diagnostic, system)) :
    (acquire S path).run host =
      ⟨.error (.loadFailure path (.reported diagnostic)), { host with system },
        [.openFailed path diagnostic]⟩ := by
  simp only [acquire, Action.run, opening]

theorem acquire_opened {path : Path} {handle : Handle} {system : σ}
    (opening : S.openModule path host.system = (.ok handle, system)) :
    (acquire S path).run host = ⟨.ok handle, { host with system }, [.opened handle]⟩ := by
  simp only [acquire, Action.run, opening]

theorem resolve_failed (host : Host σ) {handle : Handle} {diagnostic : String} {system : σ}
    (resolving : S.resolve handle host.system = (.error diagnostic, system)) :
    (resolve S handle).run host =
      ⟨.error (.loadFailure handle.path (.reported diagnostic)), { host with system },
        [.resolved handle (.error diagnostic)]⟩ := by
  simp only [resolve, Action.run, resolving]

theorem resolve_found (host : Host σ) {handle : Handle} {d : Descriptor} {system : σ}
    (resolving : S.resolve handle host.system = (.ok d, system)) :
    (resolve S handle).run host = ⟨.ok d, { host with system }, [.resolved handle (.ok d)]⟩ := by
  simp only [resolve, Action.run, resolving]

/-- A module that was opened a moment ago is refused or entered. -/
theorem accept_ends {handle : Handle}
    (opening : S.openModule path host.system = (.ok handle, system))
    (new : host.modules.record? handle.id = none) :
    Loaded S path host
      ⟨((accept S path handle).run { host with system }).value,
        ((accept S path handle).run { host with system }).state,
        .opened handle :: ((accept S path handle).run { host with system }).events⟩ := by
  unfold accept
  cases resolving : S.resolve handle system with
  | mk answer resolved =>
    cases answer with
    | error diagnostic =>
      simp only [Action.run_bind, resolve_failed { host with system } resolving, release_run,
        Action.run_pure]
      exact .refused (.unresolved opening new resolving)
    | ok d =>
      simp only [Action.run_bind, resolve_found { host with system } resolving, readMemory_run]
      rcases Option.eq_none_or_eq_some ((S.memory resolved).plugin? d) with leads | ⟨p, leads⟩
      · simp only [leads, Option.isNone_none, ↓reduceIte, Action.run_bind, release_run,
          readMemory_run, Action.run_pure]
        exact .refused (.tableless opening new resolving leads)
      · simp only [leads, Option.isNone_some, Bool.false_eq_true, ↓reduceIte, Action.run_bind,
          onRegistry_run]
        cases version : p.kind.supports ((S.memory resolved).apiVersion p) with
        | false =>
          simp only [Registry.register_unsupported leads version, Action.run_bind, release_run,
            Action.run_pure]
          exact .refused (.unsupported opening new resolving leads version)
        | true =>
          obtain ⟨registry, hooks, registering⟩ :=
            Registry.register_supported (r := host.registry) leads version
          simp only [registering, Action.run_bind, readMemory_run, Action.run_note,
            modifyModules_run, Action.run_pure, List.nil_append, List.append_nil]
          exact .entered opening new resolving registering

/-- Every load ends in one of these ways. -/
theorem load_ends (S : Surroundings σ) (path : Path) (host : Host σ) :
    Loaded S path host ((load S path).run host) := by
  unfold load
  cases opening : S.openModule path host.system with
  | mk answer system =>
    cases answer with
    | error diagnostic =>
      simp only [Action.run_bind, acquire_failed opening, Action.run_pure, List.append_nil]
      exact .refused (.unopened opening)
    | ok handle =>
      simp only [Action.run_bind, acquire_opened opening, Action.run_get]
      cases tracked : host.modules.record? handle.id with
      | none => exact accept_ends opening tracked
      | some record =>
        simp only [Action.run_bind, modifyModules_run, Action.run_note, Action.run_pure]
        exact .attached opening tracked

/-- A load that fails is refused, and nothing but the system has changed. -/
theorem load_refused (failed : ((load S path).run host).value = .error e) :
    ∃ system, Refusal S path host e ((load S path).run host).events system ∧
      ((load S path).run host).state = { host with system } := by
  have ends := load_ends S path host
  generalize (load S path).run host = step at ends failed ⊢
  cases ends with
  | refused refusal =>
    cases failed
    exact ⟨_, refusal, rfl⟩
  | attached => cases failed
  | entered => cases failed

/-- A refused module was not opened, or it was opened, asked and closed again. -/
theorem Refusal.reference (refusal : Refusal S path host e events system) :
    (∃ diagnostic, events = [.openFailed path diagnostic]) ∨
      ∃ handle answer, events = [.opened handle, .resolved handle answer, .closed handle] := by
  cases refusal with
  | unopened => exact .inl ⟨_, rfl⟩
  | unresolved => exact .inr ⟨_, _, rfl⟩
  | tableless => exact .inr ⟨_, _, rfl⟩
  | unsupported => exact .inr ⟨_, _, rfl⟩

theorem Refusal.hookless (refusal : Refusal S path host e events system) :
    ∀ event ∈ events, event.hook? = none := by
  rcases refusal.reference with ⟨_, rfl⟩ | ⟨_, _, rfl⟩ <;> simp [Event.hook?]

end Host
end CodecHost
