import CodecHost.Proofs.CatalogWorlds
import CodecHost.Proofs.LoadOutcomes

/-! What a load that fails leaves behind: nothing that a later load could notice. -/
namespace CodecHost.Host

variable {σ : Type} {S : Surroundings σ} {host : Host σ} {path : Path} {e : PluginError}

/-- **A load that fails changes nothing.** It fails in one of four ways, and then the active
plugins and the loaded modules are what they were, no hook has run, and either the module did
not open, or it was opened and the same reference was closed again. Any later load does what
it would have done on the host before, in whatever state it finds the system. -/
theorem failed_load_changes_nothing (failed : ((load S path).run host).value = .error e) :
    (∃ system, Refusal S path host e ((load S path).run host).events system) ∧
    ((load S path).run host).state.registry = host.registry ∧
    ((load S path).run host).state.modules = host.modules ∧
    (∀ event ∈ ((load S path).run host).events, event.hook? = none) ∧
    ((∃ diagnostic, ((load S path).run host).events = [.openFailed path diagnostic]) ∨
      ∃ handle answer, ((load S path).run host).events =
        [.opened handle, .resolved handle answer, .closed handle]) ∧
    ∀ later system, (load S later).run { ((load S path).run host).state with system } =
      (load S later).run { host with system } := by
  obtain ⟨system, refusal, state⟩ := load_refused failed
  rw [state]
  exact ⟨⟨system, refusal⟩, rfl, rfl, refusal.hookless, refusal.reference, fun _ _ => rfl⟩

/-- A module with an encoder, and one with an encoder of a version that is still to come. -/
def newcomer : Catalog :=
  .ofModules
    { Memory.ofEncoders id with
      encoder := fun e => ⟨if e = ⟨0⟩ then 1 else 4, 0, none, 0, none, true, true⟩ }
    [.working 97 1 0, .working 98 2 1]

/-- The first module is loaded. -/
def firstLoaded : Host Catalog :=
  ((load Catalog.surroundings ⟨[97]⟩).run (.fresh newcomer)).state

/-- The second one is refused, which the next load of the first one does not notice. -/
theorem newcomer_refused :
    ((load Catalog.surroundings ⟨[98]⟩).run firstLoaded).value =
        .error (.unsupportedVersion "<unnamed encoder>" 4) ∧
      ((load Catalog.surroundings ⟨[98]⟩).run firstLoaded).state.registry = ⟨[⟨0⟩], []⟩ ∧
      (load Catalog.surroundings ⟨[97]⟩).run
          { ((load Catalog.surroundings ⟨[98]⟩).run firstLoaded).state with
            system := firstLoaded.system } =
        (load Catalog.surroundings ⟨[97]⟩).run firstLoaded := by
  have failed : ((load Catalog.surroundings ⟨[98]⟩).run firstLoaded).value =
      .error (.unsupportedVersion "<unnamed encoder>" 4) := by decide
  obtain ⟨_, registry, _, _, _, later⟩ := failed_load_changes_nothing failed
  exact ⟨failed, registry, later ⟨[97]⟩ firstLoaded.system⟩

end CodecHost.Host
