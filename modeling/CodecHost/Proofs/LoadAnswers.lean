import CodecHost.Proofs.Holdings
import CodecHost.Proofs.ScanLoads

/-! What the loads behind a call answer. A scan and an init load modules without
handing all the answers on; here they load them one by one and answer with what each
load answered. They do the same and leave the same behind, so that the answers are those
that the scan and the init worked on. -/
namespace CodecHost

open Ledger

variable {σ : Type} (S : Surroundings σ) (settings : Settings)

namespace Host

/-- Loads modules one by one, whatever becomes of each. -/
def loadEach : List Path → Action (Host σ) (List (Except PluginError Descriptor))
  | [] => pure []
  | path :: rest => do
    let answer ← load S path
    let others ← loadEach rest
    pure (answer :: others)

/-- Loads the modules of a directory one by one. -/
def scanEach (directory : Path) : Action (Host σ) (List (Except PluginError Descriptor)) := do
  let host ← Action.get
  match S.listing host.system directory with
  | .error _ => pure []
  | .ok entries => loadEach S (entries.filterMap (Scan.candidate? directory))

/-- Loads the modules of several directories one by one, up to the first directory that
cannot be opened. -/
def searchEach : List Path → Action (Host σ) (List (Except PluginError Descriptor))
  | [] => pure []
  | directory :: rest => do
    let host ← Action.get
    match S.listing host.system directory with
    | .error _ => pure []
    | .ok entries => do
      let first ← loadEach S (entries.filterMap (Scan.candidate? directory))
      let others ← searchEach rest
      pure (first ++ others)

end Host

namespace Context

/-- Loads the modules of the search path one by one. -/
def searchPathEach : Action (Context σ) (List (Except PluginError Descriptor)) := do
  let c ← Action.get
  onHost (Host.searchEach S
    (settings.source.orDefault (S.lookup c.host.system) settings.defaultDirectory))

/-- One more client, which loads the modules of the search path one by one, if it is
the one to load them. -/
def initEach : Action (Context σ) (List (Except PluginError Descriptor)) := do
  Action.modify fun c => { c with initCount := c.initCount + 1 }
  let c ← Action.get
  if c.initCount = 1 then
    if c.builtinsRegistered then searchPathEach S settings
    else
      match ← activateBuiltins S settings with
      | .error _ => pure []
      | .ok () => searchPathEach S settings
  else pure []

end Context

variable {S settings}

namespace Host

theorem loadEach_eq_mapM (paths : List Path) : loadEach S paths = paths.mapM (load S) := by
  induction paths with
  | nil => rfl
  | cons path rest ih => rw [loadEach, ih, List.mapM_cons]

theorem scanEach_listed {directory : Path} {host : Host σ} {entries : List DirEntry}
    (lists : S.listing host.system directory = .ok entries) :
    (scanEach S directory).run host =
      (loadEach S (entries.filterMap (Scan.candidate? directory))).run host := by
  simp only [scanEach, Action.run_bind, Action.run_get, lists, List.nil_append]

/-- A scan of a directory that can be opened answers how many of the loads succeed and records
what they answer. -/
theorem loadDirectory_records {directory : Path} {host : Host σ} {entries : List DirEntry}
    (lists : S.listing host.system directory = .ok entries) (buffer : Option Scan.Buffer) :
    let ds := loaded ((scanEach S directory).run host).value
    ((loadDirectory S directory buffer).run host).value =
      (.ok ds.length, (ds.foldl Scan.Progress.record ⟨0, buffer⟩).close) := by
  obtain ⟨_, value, _⟩ := Scan.scan_each directory entries buffer (load S) host
  rw [scanEach_listed lists, loadEach_eq_mapM]
  simpa only [loadDirectory, Action.run_bind, Action.run_get, lists, List.nil_append] using value

/-- A scan does what the loads of the modules do one by one. -/
theorem loadDirectory_each (directory : Path) (buffer : Option Scan.Buffer) (host : Host σ) :
    ((loadDirectory S directory buffer).run host).SameDeeds ((scanEach S directory).run host) := by
  simp only [loadDirectory, scanEach, Action.run_bind, Action.run_get, List.nil_append]
  cases S.listing host.system directory with
  | error cause => exact ⟨rfl, rfl⟩
  | ok entries =>
    obtain ⟨same, _⟩ := Scan.scan_each directory entries buffer (load S) host
    rw [← loadEach_eq_mapM] at same
    exact ⟨same.state, same.deeds⟩

end Host

namespace Context

theorem loadDirectories_each (directories : List Path) (c : Context σ) :
    ((loadDirectories S directories).run c).SameDeeds
      ((onHost (Host.searchEach S directories)).run c) := by
  induction directories generalizing c with
  | nil => exact ⟨rfl, rfl⟩
  | cons directory rest ih =>
    simp only [loadDirectories, Host.searchEach, Host.loadDirectory, onHost_run, Action.run_bind,
      Action.run_get]
    cases S.listing c.host.system directory with
    | error cause => exact ⟨rfl, rfl⟩
    | ok entries =>
      obtain ⟨⟨state, same⟩, value, _⟩ :=
        Scan.scan_each directory entries none (Host.load S) c.host
      rw [← Host.loadEach_eq_mapM] at state same value
      obtain ⟨later, more⟩ := ih { c with host :=
        ((Host.loadEach S (entries.filterMap (Scan.candidate? directory))).run c.host).state }
      simp only [Action.run_bind, Action.run_note, Action.run_pure, value, state]
      refine ⟨later, ?_⟩
      simp only [deeds_append, deeds_notice, List.append_nil, List.nil_append, same, more,
        onHost_run]

/-- A client that comes does the same when the modules of the search path are loaded one by
one. -/
theorem init_each (c : Context σ) :
    ((init S settings).run c).SameDeeds ((initEach S settings).run c) := by
  have searched : ∀ c : Context σ, ((loadSearchPath S settings).run c).SameDeeds
      ((searchPathEach S settings).run c) := fun c => loadDirectories_each _ c
  simp only [init, initEach, Action.run_bind, Action.run_modify, Action.run_get, Action.run_note]
  by_cases first : c.initCount + 1 = 1
  · simp only [first, ↓reduceIte]
    cases c.builtinsRegistered with
    | true =>
      obtain ⟨state, deeds⟩ := searched { c with initCount := 1, builtinsRegistered := true }
      exact ⟨state, deeds⟩
    | false =>
      simp only [Bool.false_eq_true, ↓reduceIte, Action.run_bind]
      generalize (activateBuiltins S settings).run _ = step
      obtain ⟨answer, next, events⟩ := step
      cases answer with
      | error e => exact ⟨rfl, by rw [deeds_append, deeds_append]; rfl⟩
      | ok _ =>
        obtain ⟨state, deeds⟩ := searched next
        refine ⟨state, ?_⟩
        simp only [deeds_append, deeds_notice, List.nil_append, deeds]
  · simp only [first, ↓reduceIte, Action.run_pure]
    exact ⟨rfl, rfl⟩

end Context

/-! Every load that succeeds adds a reference of the descriptor that it answers with. -/

namespace Host

theorem loadEach_holdings (paths : List Path) (host : Host σ) :
    ((loadEach S paths).run host).state.modules.holdings.Perm
      (loaded ((loadEach S paths).run host).value ++ host.modules.holdings) := by
  induction paths generalizing host with
  | nil => exact .refl _
  | cons path rest ih =>
    have first := load_holdings (S := S) path host
    simp only [loadEach, Action.run_bind, Action.run_pure, loaded, List.filterMap_cons] at ih ⊢
    refine (ih _).trans ((first.append_left _).trans ?_)
    cases ((load S path).run host).value with
    | error e => exact .refl _
    | ok d => exact List.perm_middle

theorem searchEach_holdings (directories : List Path) (host : Host σ) :
    ((searchEach S directories).run host).state.modules.holdings.Perm
      (loaded ((searchEach S directories).run host).value ++ host.modules.holdings) := by
  induction directories generalizing host with
  | nil => exact .refl _
  | cons directory rest ih =>
    simp only [searchEach, Action.run_bind, Action.run_get]
    cases S.listing host.system directory with
    | error cause => exact .refl _
    | ok entries =>
      have first := loadEach_holdings (S := S)
        (entries.filterMap (Scan.candidate? directory)) host
      simp only [Action.run_bind, Action.run_pure, loaded_append]
      refine (ih _).trans ((first.append_left _).trans ?_)
      rw [← List.append_assoc]
      exact List.perm_append_comm.append_right _

/-- A scan adds the references that its loads add. -/
theorem scanEach_holdings (directory : Path) (host : Host σ) :
    ((scanEach S directory).run host).state.modules.holdings.Perm
      (loaded ((scanEach S directory).run host).value ++ host.modules.holdings) := by
  simp only [scanEach, Action.run_bind, Action.run_get]
  cases S.listing host.system directory with
  | error cause => exact .refl _
  | ok entries => exact loadEach_holdings _ host

end Host

namespace Context

/-- Built-ins that register touch the registry and nothing else of the host. -/
theorem registerEach_confined (round : List (Option Descriptor)) (host : Host σ) :
    ∃ registry, ((registerEach S round).run host).state = { host with registry } := by
  induction round generalizing host with
  | nil => exact ⟨host.registry, rfl⟩
  | cons entry rest ih =>
    cases entry with
    | none => exact ⟨host.registry, rfl⟩
    | some d =>
      simp only [registerEach, Action.run_bind, Host.onRegistry_run]
      cases ((Registry.register (S.memory host.system) d).run host.registry).value with
      | error e => exact ⟨_, rfl⟩
      | ok _ => exact ih _

theorem activateBuiltins_confined (S : Surroundings σ) (settings : Settings) (c : Context σ) :
    ∃ registry, ((activateBuiltins S settings).run c).state.host = { c.host with registry } := by
  have registered : ∃ registry,
      ((registerBuiltins S settings).run c).state.host = { c.host with registry } := by
    unfold registerBuiltins
    cases settings.builtins with
    | none => exact ⟨c.host.registry, rfl⟩
    | some b => exact registerEach_confined _ c.host
  simp only [activateBuiltins, Action.run_bind]
  cases ((registerBuiltins S settings).run c).value <;> exact registered

/-- The built-ins are no modules. -/
theorem activateBuiltins_modules (S : Surroundings σ) (settings : Settings) (c : Context σ) :
    ((activateBuiltins S settings).run c).state.modules = c.modules := by
  obtain ⟨registry, confined⟩ := activateBuiltins_confined S settings c
  rw [modules, confined]
  rfl

/-- A client that comes adds the references that the loads of the search path add. -/
theorem initEach_holdings (S : Surroundings σ) (settings : Settings) (c : Context σ) :
    ((initEach S settings).run c).state.modules.holdings.Perm
      (loaded ((initEach S settings).run c).value ++ c.modules.holdings) := by
  have searched : ∀ c : Context σ, ((searchPathEach S settings).run c).state.modules.holdings.Perm
      (loaded ((searchPathEach S settings).run c).value ++ c.modules.holdings) :=
    fun c => Host.searchEach_holdings _ c.host
  simp only [initEach, Action.run_bind, Action.run_modify, Action.run_get]
  by_cases first : c.initCount + 1 = 1
  · simp only [first, ↓reduceIte]
    cases c.builtinsRegistered with
    | true => exact searched _
    | false =>
      have modules := activateBuiltins_modules S settings
        { c with initCount := 1, builtinsRegistered := false }
      simp only [Bool.false_eq_true, ↓reduceIte, Action.run_bind]
      generalize (activateBuiltins S settings).run _ = step at modules ⊢
      obtain ⟨answer, next, events⟩ := step
      have same : next.modules = c.modules := modules
      cases answer with
      | error e => exact same ▸ .refl _
      | ok _ => exact same ▸ searched next
  · simp only [first, ↓reduceIte, Action.run_pure]
    exact .refl _

end Context
end CodecHost
