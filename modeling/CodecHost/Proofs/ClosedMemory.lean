import CodecHost.Proofs.RegistryReads
import CodecHost.Proofs.TablesInPlace

/-! What the host reads of modules, it reads while they are open. Two systems are
compared that differ in their memory alone, and there only outside of what is in place:
at the descriptors and function tables of modules that are closed. Whatever is loaded,
unloaded or scanned comes out the same on both, but for one number. The version that is
reported for a module without a function table is read after the module was closed. -/
namespace CodecHost

variable {σ τ α β γ : Type} {S : Surroundings σ} {settings : Settings} {P : List Event → σ → Prop}
  {table : List Event → Descriptor → Option Plugin} {past : List Event} {memory : σ → Memory}

/-- The fault without the version that it reports. -/
def LoadFault.unversioned : LoadFault → LoadFault
  | .noFunctionTable _ => .noFunctionTable 0
  | fault => fault

/-- The failure without the version that it reports of a module without a table. -/
def PluginError.unversioned : PluginError → PluginError
  | .loadFailure path fault => .loadFailure path fault.unversioned
  | e => e

/-- The event without the version that a scan reports of a module without a table. -/
def Event.unversioned : Event → Event
  | .notice (.skipped path e) => .notice (.skipped path e.unversioned)
  | e => e

/-- Two outcomes are the same but for the versions that scans report of modules without a
table. Of the answers `part` is compared. -/
structure Step.Alike (part : α → β) (a b : Step τ α) : Prop where
  value : part a.value = part b.value
  state : a.state = b.state
  events : a.events.map Event.unversioned = b.events.map Event.unversioned

theorem Step.Alike.of_eq {part : α → β} {a b : Step τ α} (same : a = b) : Step.Alike part a b :=
  ⟨same ▸ rfl, same ▸ rfl, same ▸ rfl⟩

theorem Step.Alike.bind {part : β → γ} {a b : Action τ α} {f g : α → Action τ β} {t : τ}
    (first : Step.Alike id (a.run t) (b.run t))
    (second : Step.Alike part ((f (b.run t).value).run (b.run t).state)
      ((g (b.run t).value).run (b.run t).state)) :
    Step.Alike part ((a >>= f).run t) ((b >>= g).run t) := by
  have value : (a.run t).value = (b.run t).value := first.value
  rw [Action.run_bind, Action.run_bind, value, first.state]
  refine ⟨second.value, second.state, ?_⟩
  rw [List.map_append, List.map_append, first.events, second.events]

/-- The same surroundings with other memory. -/
def Surroundings.withMemory (S : Surroundings σ) (memory : σ → Memory) : Surroundings σ :=
  { S with memory }

@[simp] theorem Surroundings.memory_withMemory : (S.withMemory memory).memory = memory := rfl

/-- Other memory holds the same where the host may read: at a descriptor that an open
module led to, and at function tables that are in place. -/
structure Surroundings.AgreesInPlace (S : Surroundings σ) (settings : Settings)
    (P : List Event → σ → Prop) (table : List Event → Descriptor → Option Plugin)
    (memory : σ → Memory) : Prop where
  info : ∀ past s, P past s → ∀ earlier h d, OpenSince earlier past h d →
    (memory s).info d = (S.memory s).info d
  tables : ∀ past s, P past s → ∀ p, settings.InPlace S P table past p →
    (S.memory s).Agree (memory s) p

namespace Host

variable {host : Host σ}

/-- A module that was opened a moment ago registers as it does with the other memory. -/
theorem register_in_place (keeps : S.Keeps P) (steady : S.Steady P table)
    (agrees : S.AgreesInPlace settings P table memory)
    (guarded : host.Guarded settings S P table past) {path : Path} {handle : Handle}
    {d : Descriptor} {system resolved : σ}
    (opening : S.openModule path host.system = (.ok handle, system))
    (resolving : S.resolve handle system = (.ok d, resolved)) :
    (memory resolved).info d = (S.memory resolved).info d ∧
      (Registry.register (memory resolved) d).run host.registry =
        (Registry.register (S.memory resolved) d).run host.registry := by
  have holds := guarded.toAnchored.answered_holds keeps opening resolving
  have info : (memory resolved).info d = (S.memory resolved).info d :=
    agrees.info _ _ holds _ _ _ guarded.toAnchored.answered_since
  refine ⟨info, Registry.register_congr info (fun p leads => ?_) fun q active => ?_⟩
  · have mapped := guarded.toAnchored.answer_in_place keeps steady opening resolving leads
    exact agrees.tables _ _ holds p (.inr mapped)
  · exact agrees.tables _ _ holds q (guarded.answered_in_place steady active)

/-- The module of a record unregisters as it does with the other memory. -/
theorem unregister_in_place (steady : S.Steady P table)
    (agrees : S.AgreesInPlace settings P table memory)
    (guarded : host.Guarded settings S P table past) {record : Record}
    (there : record ∈ host.modules.records) :
    Registry.unregister (memory host.system) record.descriptor =
      Registry.unregister (S.memory host.system) record.descriptor := by
  obtain ⟨earlier, h, _, since, _⟩ := guarded.toAnchored.steady steady there
  refine Registry.unregister_congr (agrees.info _ _ guarded.holds _ _ _ since) fun p leads => ?_
  have mapped : Mapped table (past ++ []) p :=
    guarded.toAnchored.mapped steady there leads (by simp)
  rw [List.append_nil] at mapped
  exact agrees.tables _ _ guarded.holds p (.inr mapped)

theorem accept_alike (keeps : S.Keeps P) (steady : S.Steady P table)
    (agrees : S.AgreesInPlace settings P table memory)
    (guarded : host.Guarded settings S P table past) (path : Path) {asked : Path}
    {handle : Handle} {system : σ}
    (opening : S.openModule asked host.system = (.ok handle, system)) :
    Step.Alike (Except.mapError PluginError.unversioned)
      ((accept (S.withMemory memory) path handle).run { host with system })
      ((accept S path handle).run { host with system }) := by
  unfold accept
  cases resolving : S.resolve handle system with
  | mk answer resolved =>
    have elsewhere : (S.withMemory memory).resolve handle system = (answer, resolved) := resolving
    cases answer with
    | error diagnostic =>
      simp only [Action.run_bind, resolve_failed { host with system } resolving,
        resolve_failed { host with system } elsewhere, release_run, Action.run_pure]
      exact .of_eq rfl
    | ok d =>
      obtain ⟨info, registers⟩ :=
        register_in_place keeps steady agrees guarded opening resolving
      have leads : (memory resolved).plugin? d = (S.memory resolved).plugin? d :=
        congrArg Info.plugin? info
      simp only [Action.run_bind, resolve_found { host with system } resolving,
        resolve_found { host with system } elsewhere, readMemory_run,
        Surroundings.memory_withMemory, leads]
      by_cases bare : ((S.memory resolved).plugin? d).isNone = true
      · -- The one read after the module was closed: what it finds goes into the version.
        simp only [bare, ↓reduceIte, Action.run_bind, release_run, readMemory_run, Action.run_pure]
        exact ⟨rfl, rfl, rfl⟩
      · simp only [bare, Bool.false_eq_true, ↓reduceIte, Action.run_bind, onRegistry_run,
          Surroundings.memory_withMemory, registers]
        generalize (Registry.register (S.memory resolved) d).run host.registry = step
        obtain ⟨value, registry, hooks⟩ := step
        cases value with
        | error e =>
          simp only [Action.run_bind, release_run, Action.run_pure]
          exact .of_eq rfl
        | ok _ =>
          simp only [Action.run_bind, readMemory_run, Surroundings.memory_withMemory, info,
            Action.run_note, modifyModules_run, Action.run_pure]
          exact .of_eq rfl

/-- Loading comes out the same, but for the version of a module without a table. -/
theorem load_alike (keeps : S.Keeps P) (steady : S.Steady P table)
    (agrees : S.AgreesInPlace settings P table memory)
    (guarded : host.Guarded settings S P table past) (path : Path) :
    Step.Alike (Except.mapError PluginError.unversioned)
      ((load (S.withMemory memory) path).run host) ((load S path).run host) := by
  unfold load
  cases opening : S.openModule path host.system with
  | mk answer system =>
    have elsewhere : (S.withMemory memory).openModule path host.system = (answer, system) := opening
    cases answer with
    | error diagnostic =>
      simp only [Action.run_bind, acquire_failed opening, acquire_failed elsewhere,
        Action.run_pure]
      exact .of_eq rfl
    | ok handle =>
      simp only [Action.run_bind, acquire_opened opening, acquire_opened elsewhere,
        Action.run_get]
      cases tracked : host.modules.record? handle.id with
      | some record => exact .of_eq rfl
      | none =>
        have alike := accept_alike keeps steady agrees guarded path opening
        exact ⟨alike.value, alike.state, by simpa using alike.events⟩

/-- The version that loading reports of a module without a table is what memory says of it
after it was closed. -/
theorem load_reports {path asked : Path} {version : Int32}
    (reported : ((load S asked).run host).value =
      .error (.loadFailure path (.noFunctionTable version))) :
    ∃ handle d, ((load S asked).run host).events =
        [.opened handle, .resolved handle (.ok d), .closed handle] ∧
      version = ((S.memory ((load S asked).run host).state.system).info d).version := by
  obtain ⟨system, refusal, state⟩ := load_refused reported
  rw [state]
  generalize ((load S asked).run host).events = events at refusal ⊢
  cases refusal with
  | tableless => exact ⟨_, _, rfl, rfl⟩

/-- Unloading comes out the same. -/
theorem unload_withMemory (steady : S.Steady P table)
    (agrees : S.AgreesInPlace settings P table memory)
    (guarded : host.Guarded settings S P table past) (d : Descriptor) :
    (unload (S.withMemory memory) d).run host = (unload S d).run host := by
  unfold unload
  simp only [Action.run_bind, Action.run_get]
  cases found : host.modules.records.findIdx? (·.descriptor = d) with
  | none => rfl
  | some index =>
    cases there : host.modules.records[index]? with
    | none => simp only [there, Action.run_pure]
    | some record =>
      obtain ⟨_, _, split, _, exports, _⟩ := found_split found there
      have listed : record ∈ host.modules.records := by simp [split]
      have unregisters := unregister_in_place steady agrees guarded listed
      rw [exports] at unregisters
      cases newest : record.handles.getLast? with
      | none => simp only [there, newest, Action.run_pure]
      | some handle =>
        by_cases last : record.handles.dropLast.isEmpty = true
        · simp only [there, newest, last, ↓reduceIte, Action.run_bind, modifyModules_run,
            onRegistry_run, Surroundings.memory_withMemory, unregisters, Action.run_note,
            release_run, Action.run_pure]
          rfl
        · simp only [there, newest, last, Bool.false_eq_true, ↓reduceIte, Action.run_bind,
            modifyModules_run, Action.run_note, release_run, Action.run_pure]
          rfl

theorem unloadRecords_withMemory (keeps : S.Keeps P) (steady : S.Steady P table)
    (agrees : S.AgreesInPlace settings P table memory) {records : List Record}
    {registry : Registry} {system : σ}
    (guarded : Guarded settings S P table past ⟨registry, ⟨records⟩, system⟩) :
    (unloadRecords (S.withMemory memory) records).run ⟨registry, .empty, system⟩ =
      (unloadRecords S records).run ⟨registry, .empty, system⟩ := by
  induction records generalizing past registry system with
  | nil => rfl
  | cons record rest ih =>
    have listed : record ∈ (⟨record :: rest⟩ : ModuleTable).records := List.mem_cons_self
    have unregisters := unregister_in_place steady agrees guarded listed
    have closes : closeAll (S.withMemory memory) = closeAll S := rfl
    simp only [unloadRecords, Action.run_bind, onRegistry_run, Surroundings.memory_withMemory,
      unregisters, releaseAll_run, closes, Action.run_note, Action.run_pure]
    have outcome := Registry.unregister_outcome (S.memory system) record.descriptor registry
    generalize (Registry.unregister (S.memory system) record.descriptor).run registry = step
      at outcome ⊢
    obtain ⟨was, left, hooks⟩ := step
    have forced : Move S ⟨registry, ⟨record :: rest⟩, system⟩ _ _ := .forced rfl outcome
    have later := forced.guarded keeps steady guarded
    rw [ih later]

/-- Emptying the table comes out the same. -/
theorem unloadAll_withMemory (keeps : S.Keeps P) (steady : S.Steady P table)
    (agrees : S.AgreesInPlace settings P table memory)
    (guarded : host.Guarded settings S P table past) :
    (unloadAll (S.withMemory memory)).run host = (unloadAll S).run host := by
  have whole : Guarded settings S P table past
      ⟨host.registry, ⟨host.modules.records⟩, host.system⟩ := guarded
  have same := unloadRecords_withMemory keeps steady agrees whole
  simp only [unloadAll, Action.run_bind, Action.run_get, modifyModules_run, same]

/-- One entry of a directory comes out the same. -/
theorem visit_alike (keeps : S.Keeps P) (steady : S.Steady P table)
    (agrees : S.AgreesInPlace settings P table memory)
    (guarded : host.Guarded settings S P table past) (directory : Path) (p : Scan.Progress)
    (entry : DirEntry) :
    Step.Alike id ((Scan.visit directory (load (S.withMemory memory)) p entry).run host)
      ((Scan.visit directory (load S) p entry).run host) := by
  cases entry with
  | unreadable cause =>
    simp only [Scan.visit]
    exact .of_eq rfl
  | named name kind =>
    cases kind with
    | error cause =>
      simp only [Scan.visit]
      exact .of_eq rfl
    | ok kind =>
      simp only [Scan.visit]
      split
      · obtain ⟨value, state, events⟩ :=
          load_alike keeps steady agrees guarded (directory.join name)
        simp only [Action.run_bind]
        generalize (load (S.withMemory memory) (directory.join name)).run host = a
          at value state events ⊢
        generalize (load S (directory.join name)).run host = b at value state events ⊢
        obtain ⟨found, after, told⟩ := a
        obtain ⟨found', after', told'⟩ := b
        cases found with
        | ok d =>
          cases found' with
          | ok d' =>
            cases value
            exact ⟨rfl, state, by simpa using events⟩
          | error e' => cases value
        | error e =>
          cases found' with
          | ok d' => cases value
          | error e' =>
            have same : e.unversioned = e'.unversioned := Except.error.inj value
            refine ⟨rfl, state, ?_⟩
            simp only [Action.run_bind, Action.run_note, Action.run_pure, List.append_nil,
              List.map_append, List.map_cons, List.map_nil, Event.unversioned, same]
            rw [events]
      · exact .of_eq rfl

/-- So do the entries of a directory one after the other. -/
theorem visitAll_alike (keeps : S.Keeps P) (steady : S.Steady P table)
    (agrees : S.AgreesInPlace settings P table memory)
    (guarded : host.Guarded settings S P table past) (directory : Path) (p : Scan.Progress)
    (entries : List DirEntry) :
    Step.Alike id ((Scan.visitAll directory (load (S.withMemory memory)) p entries).run host)
      ((Scan.visitAll directory (load S) p entries).run host) := by
  induction entries generalizing past host p with
  | nil =>
    simp only [Scan.visitAll]
    exact .of_eq rfl
  | cons entry rest ih =>
    have first := visit_alike keeps steady agrees guarded directory p entry
    have kept := (loads_visit directory p entry).guarded keeps steady past host guarded
    exact first.bind (ih kept ((Scan.visit directory (load S) p entry).run host).value)

/-- Scanning a directory comes out the same, but for the versions that its notices report. -/
theorem loadDirectory_alike (keeps : S.Keeps P) (steady : S.Steady P table)
    (agrees : S.AgreesInPlace settings P table memory)
    (guarded : host.Guarded settings S P table past) (directory : Path)
    (buffer : Option Scan.Buffer) :
    Step.Alike id ((loadDirectory (S.withMemory memory) directory buffer).run host)
      ((loadDirectory S directory buffer).run host) := by
  refine Step.Alike.bind (.of_eq rfl) ?_
  have same : (S.withMemory memory).listing = S.listing := rfl
  simp only [Action.run_get, same, Scan.scan]
  cases S.listing host.system directory with
  | error cause => exact .of_eq rfl
  | ok entries =>
    have visited := visitAll_alike keeps steady agrees guarded directory ⟨0, buffer⟩ entries
    exact visited.bind (.of_eq rfl)

end Host

namespace Run

variable {system : σ} {calls : List (Call σ)}

/-- **Memory is read while modules are open, but for one number.** In every reachable
context, memory that differs where no module is open changes no answer, no state and no
event of loading, unloading, emptying the table and scanning, but for the version that is
reported of a module without a function table. That is the version which memory holds
after the module was closed. -/
theorem closed_memory_unread (within : Within S system calls P) (steady : S.Steady P table)
    (agrees : S.AgreesInPlace settings P table memory) :
    let host := (context S settings system calls).host
    (∀ path, Step.Alike (Except.mapError PluginError.unversioned)
      ((Host.load (S.withMemory memory) path).run host) ((Host.load S path).run host)) ∧
    (∀ d, (Host.unload (S.withMemory memory) d).run host = (Host.unload S d).run host) ∧
    (Host.unloadAll (S.withMemory memory)).run host = (Host.unloadAll S).run host ∧
    (∀ directory buffer, Step.Alike id
      ((Host.loadDirectory (S.withMemory memory) directory buffer).run host)
      ((Host.loadDirectory S directory buffer).run host)) ∧
    ∀ path asked version, ((Host.load S asked).run host).value =
        .error (.loadFailure path (.noFunctionTable version)) →
      ∃ handle d, ((Host.load S asked).run host).events =
          [.opened handle, .resolved handle (.ok d), .closed handle] ∧
        version = ((S.memory ((Host.load S asked).run host).state.system).info d).version := by
  have keeps := within.loading
  have guarded := guarded settings within steady
  exact ⟨Host.load_alike keeps steady agrees guarded, Host.unload_withMemory steady agrees guarded,
    Host.unloadAll_withMemory keeps steady agrees guarded,
    Host.loadDirectory_alike keeps steady agrees guarded, fun _ _ _ => Host.load_reports⟩

end Run

namespace Catalog

/-- Memory with nothing in it. -/
def blank : Memory where
  info _ := ⟨0, 0, none⟩
  encoder _ := ⟨0, 0, none, 0, none, false, false⟩
  decoder _ := ⟨0, none, fun _ => 0, false, false⟩

/-- What is read when memory goes blank as soon as nothing is open. -/
def fading (c : Catalog) : Memory := if c.references.isEmpty then blank else c.memory

variable {m : Memory} {suits : ModuleId → Descriptor → Prop} {c : Catalog}

theorem fading_eq (some : c.references ≠ []) : c.fading = c.memory := by
  simp [fading, some]

/-- While a reference is open, memory does not fade. -/
theorem fading_open {earlier : List Event} {h : Handle} {d : Descriptor}
    (tallied : Tallied m suits past c) (since : OpenSince earlier past h d) :
    c.fading = c.memory := by
  obtain ⟨entry, there, _⟩ := tallied.listed h since.is_open
  exact fading_eq (List.ne_nil_of_mem there)

/-- Without built-ins, memory that fades differs only where nothing is in place. -/
theorem agrees_fading (m : Memory) (suits : ModuleId → Descriptor → Prop)
    (none : settings.builtins = none) :
    surroundings.AgreesInPlace settings (Tallied m suits) (fun _ => m.plugin?) fading where
  info past c tallied earlier h d since := by
    rw [fading_open tallied since]
    rfl
  tables past c tallied p place := by
    rcases place with ⟨b, _, _, _, _, routine, _⟩ | ⟨_, _, _, _, since⟩
    · rw [none] at routine
      cases routine
    · rw [fading_open tallied since]
      cases p <;> rfl

/-- One module that works, and one whose plugin is of an unknown kind. -/
def mixed : Catalog :=
  .ofModules
    { Memory.ofEncoders id with
      info := fun d => if d = ⟨0⟩ then ⟨1, Kind.encoder.tag, some 0⟩ else ⟨42, 7, none⟩ }
    [.working 97 1 0, .working 98 2 1]

end Catalog

namespace Run

/-- No plugins come with the program. -/
def withoutBuiltins : Settings := ⟨none, .fixed [], ⟨[112]⟩⟩

/-- The module that works has been loaded. -/
def loadedFirst : Context Catalog :=
  context Catalog.surroundings withoutBuiltins .mixed [.load ⟨[97]⟩]

/-- It is unloaded in the same way when its memory fades, although that is another then. -/
theorem unload_survives_fading :
    (Host.unload (Catalog.surroundings.withMemory Catalog.fading) ⟨0⟩).run loadedFirst.host =
        (Host.unload Catalog.surroundings ⟨0⟩).run loadedFirst.host ∧
      (((Host.unload Catalog.surroundings ⟨0⟩).run loadedFirst.host).state.system.fading.info
        ⟨0⟩).table = none := by
  have within : Within Catalog.surroundings .mixed [.load ⟨[97]⟩]
      (Catalog.Tallied Catalog.mixed.memory fun _ _ => True) :=
    ⟨.start (by simp), Catalog.keeps_tallied _ _, by simp [Alters, Call.flatAll, Call.flat]⟩
  have steady : Catalog.surroundings.Steady
      (Catalog.Tallied Catalog.mixed.memory fun _ _ => True)
      fun _ => Catalog.mixed.memory.plugin? := fun past c tallied =>
    Catalog.steady_faithful _ _ past c tallied.toFaithful
  have agrees : Catalog.surroundings.AgreesInPlace withoutBuiltins
      (Catalog.Tallied Catalog.mixed.memory fun _ _ => True)
      (fun _ => Catalog.mixed.memory.plugin?) Catalog.fading := Catalog.agrees_fading _ _ rfl
  obtain ⟨_, unload, _⟩ := closed_memory_unread within steady agrees
  exact ⟨unload ⟨0⟩, rfl⟩

/-- The version of the other module is another one when memory fades with it, although
nothing differs while a module is open. -/
theorem version_fades :
    ((Host.load Catalog.surroundings ⟨[98]⟩).run (.fresh .mixed)).value =
        .error (.loadFailure ⟨[98]⟩ (.noFunctionTable 42)) ∧
      ((Host.load (Catalog.surroundings.withMemory Catalog.fading) ⟨[98]⟩).run
          (.fresh .mixed)).value = .error (.loadFailure ⟨[98]⟩ (.noFunctionTable 0)) ∧
      ∀ c : Catalog, c.references ≠ [] → c.fading = Catalog.surroundings.memory c :=
  ⟨rfl, rfl, fun _ => Catalog.fading_eq⟩

end Run
end CodecHost
