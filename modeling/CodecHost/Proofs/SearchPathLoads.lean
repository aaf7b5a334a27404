import CodecHost.Proofs.BuiltinActivation
import CodecHost.Proofs.BulkLoads

/-! What the first client brings in. The built-ins come back if they were away, and then the
directories of the search path are loaded in their order, each as by a call of its own. The first
directory that cannot be opened ends that: the client is told, and what was brought in by then
stays. Modules that do not load end nothing. -/
namespace CodecHost

open Ledger

variable {σ α β : Type} {S : Surroundings σ} {settings : Settings}

/-- The directory can be opened at this moment. -/
def Surroundings.Opens (S : Surroundings σ) (s : σ) (directory : Path) : Prop :=
  ∃ entries, S.listing s directory = .ok entries

/-- Opening and closing modules does not change what directories list. -/
structure Surroundings.ListsSteadily (S : Surroundings σ) : Prop where
  opening : ∀ path s, S.listing (S.openModule path s).2 = S.listing s
  resolving : ∀ handle s, S.listing (S.resolve handle s).2 = S.listing s
  closing : ∀ handle s, S.listing (S.close handle s) = S.listing s

namespace Context

/-- The directories to search: those that are configured, or else the default one. -/
def searchPath (S : Surroundings σ) (settings : Settings) (c : Context σ) : List Path :=
  let configured := settings.source.directories (S.lookup c.host.system)
  if configured = [] then [settings.defaultDirectory] else configured

/-- Loads directories one after the other, whatever becomes of each. -/
def loadInTurn (S : Surroundings σ) :
    List Path → Action (Context σ) (List (Except PluginError Nat × Option Scan.Buffer)) :=
  List.mapM fun directory => loadDirectory S directory none

/-- Each of the directories can be opened when those before it have been loaded. -/
def OpenInTurn (S : Surroundings σ) (c : Context σ) (directories : List Path) : Prop :=
  ∀ earlier directory later, directories = earlier ++ directory :: later →
    S.Opens ((loadInTurn S earlier).run c).state.host.system directory

/-- What is answered when some directories are left: the first of them cannot be opened. -/
def Stops (S : Surroundings σ) (c : Context σ) : List Path → Except PluginError Unit → Prop
  | [], answer => answer = .ok ()
  | directory :: _, answer =>
    ∃ cause, S.listing c.host.system directory = .error cause ∧
      answer = .error (.unreadableDirectory directory cause)

variable {c : Context σ} {directory : Path} {directories rest : List Path}

theorem loadInTurn_cons (directory : Path) (rest : List Path) (c : Context σ) :
    ((loadInTurn S (directory :: rest)).run c).state =
        ((loadInTurn S rest).run ((loadDirectory S directory none).run c).state).state ∧
      ((loadInTurn S (directory :: rest)).run c).events =
        ((loadDirectory S directory none).run c).events ++
          ((loadInTurn S rest).run ((loadDirectory S directory none).run c).state).events := by
  simp only [loadInTurn, List.mapM_cons, Action.run_bind, Action.run_pure, List.append_nil,
    and_self]

theorem openInTurn_cons :
    OpenInTurn S c (directory :: rest) ↔ S.Opens c.host.system directory ∧
      OpenInTurn S ((loadDirectory S directory none).run c).state rest := by
  constructor
  · intro opens
    refine ⟨opens [] directory rest rfl, ?_⟩
    intro earlier next later split
    have there := opens (directory :: earlier) next later (by rw [split, List.cons_append])
    rwa [(loadInTurn_cons directory earlier c).1] at there
  · rintro ⟨first, others⟩ earlier next later split
    cases earlier with
    | nil =>
      cases split
      exact first
    | cons head earlier =>
      cases split
      rw [(loadInTurn_cons directory earlier c).1]
      exact others earlier next later rfl

theorem openInTurn_nil : OpenInTurn S c [] := by
  intro earlier directory later split
  cases earlier <;> cases split

/-- A directory that can be opened is loaded and answers a number. -/
theorem loadDirectory_answers (opens : S.Opens c.host.system directory) :
    ∃ count buffer, ((loadDirectory S directory none).run c).value = (.ok count, buffer) := by
  obtain ⟨_, listing⟩ := opens
  exact ⟨_, _, (loadDirectory_loads none listing).2⟩

/-- The first directory cannot be opened. -/
theorem loadDirectories_unreadable {cause : IoError}
    (listing : S.listing c.host.system directory = .error cause) :
    (loadDirectories S (directory :: rest)).run c =
      ⟨.error (.unreadableDirectory directory cause), c, []⟩ := by
  have unread := loadDirectory_unreadable none listing
  rw [loadDirectory] at unread
  simp only [loadDirectories, Action.run_bind, unread, Action.run_pure, List.append_nil]

/-- The first directory is loaded, and then the others. -/
theorem loadDirectories_loaded (opens : S.Opens c.host.system directory) (rest : List Path) :
    ∃ count,
      (loadDirectories S (directory :: rest)).run c =
        let first := (loadDirectory S directory none).run c
        let others := (loadDirectories S rest).run first.state
        ⟨others.value, others.state,
          first.events ++ .notice (.directoryLoaded count directory) :: others.events⟩ := by
  obtain ⟨count, buffer, value⟩ := loadDirectory_answers opens
  refine ⟨count, ?_⟩
  rw [loadDirectory] at value ⊢
  simp only [loadDirectories, Action.run_bind, value, Action.run_note, List.singleton_append]

/-- Directories are loaded in turn, up to the first that cannot be opened. -/
theorem loadDirectories_ends (directories : List Path) (c : Context σ) :
    ∃ front back, directories = front ++ back ∧ OpenInTurn S c front ∧
      ((loadDirectories S directories).run c).SameDeeds ((loadInTurn S front).run c) ∧
      Stops S ((loadInTurn S front).run c).state back
        ((loadDirectories S directories).run c).value := by
  -- Whether a directory can be opened is a question to the system that the loads before it left,
  -- so that the induction is over the directories that are left, from any context.
  induction directories generalizing c with
  | nil => exact ⟨[], [], rfl, openInTurn_nil, ⟨rfl, rfl⟩, rfl⟩
  | cons directory rest ih =>
    cases listing : S.listing c.host.system directory with
    | error cause =>
      rw [loadDirectories_unreadable listing]
      exact ⟨[], directory :: rest, rfl, openInTurn_nil, ⟨rfl, rfl⟩, cause, listing, rfl⟩
    | ok entries =>
      have opens : S.Opens c.host.system directory := ⟨entries, listing⟩
      obtain ⟨count, run⟩ := loadDirectories_loaded opens rest
      obtain ⟨front, back, split, others, ⟨state, same⟩, stops⟩ :=
        ih ((loadDirectory S directory none).run c).state
      obtain ⟨loadedState, loadedEvents⟩ := loadInTurn_cons (S := S) directory front c
      refine ⟨directory :: front, back, by rw [split, List.cons_append],
        openInTurn_cons.mpr ⟨opens, others⟩, ⟨?_, ?_⟩, ?_⟩
      · rw [run, loadedState]
        exact state
      · rw [run, loadedEvents, deeds_append, deeds_append, ← same]
        rfl
      · rw [run, loadedState]
        exact stops

/-! The number of clients makes no difference to what is loaded. -/

/-- The action does the same whatever the number of clients is, and leaves the number as it
was. -/
def Countless (a : Action (Context σ) α) : Prop :=
  ∀ c n, a.run { c with initCount := n } =
    ⟨(a.run c).value, { (a.run c).state with initCount := n }, (a.run c).events⟩

theorem countless_pure (x : α) : Countless (pure x : Action (Context σ) α) := fun _ _ => rfl

theorem countless_bind {a : Action (Context σ) α} {f : α → Action (Context σ) β}
    (first : Countless a) (second : ∀ x, Countless (f x)) : Countless (a >>= f) := by
  intro c n
  rw [Action.run_bind, Action.run_bind, first c n, second _ _ n]

theorem countless_host (a : Action (Host σ) α) : Countless (onHost a) := fun _ _ => rfl

theorem countless_loadDirectories (directories : List Path) :
    Countless (loadDirectories S directories) := by
  induction directories with
  | nil => exact countless_pure _
  | cons directory rest ih =>
    refine countless_bind (countless_host _) fun answer => ?_
    obtain ⟨count, buffer⟩ := answer
    cases count with
    | error e => exact countless_pure _
    | ok count => exact countless_bind (fun _ _ => rfl) fun _ => ih

theorem countless_registerBuiltins : Countless (registerBuiltins S settings) := by
  unfold registerBuiltins
  cases settings.builtins with
  | none => exact countless_pure _
  | some b => exact fun _ _ => rfl

theorem countless_activateBuiltins : Countless (activateBuiltins S settings) := by
  refine countless_bind countless_registerBuiltins fun answer => ?_
  cases answer with
  | error e => exact countless_pure _
  | ok _ => exact fun _ _ => rfl

theorem countless_restore : Countless (restore S settings) := by
  intro c n
  rcases Bool.eq_false_or_eq_true c.builtinsRegistered with active | active
  · rw [restore_idle active, restore_idle (c := { c with initCount := n }) active]
  · rw [restore_away active, restore_away (c := { c with initCount := n }) active,
      countless_activateBuiltins c n]

/-- Bringing the built-ins back leaves the rest of the world alone. -/
theorem restore_system (c : Context σ) :
    ((restore S settings).run c).state.host.system = c.host.system := by
  rcases Bool.eq_false_or_eq_true c.builtinsRegistered with active | active
  · rw [restore_idle active]
  · obtain ⟨registry, confined⟩ := activateBuiltins_confined S settings c
    rw [restore_away active, confined]

theorem searchPath_congr {other : Context σ} (same : other.host.system = c.host.system) :
    searchPath S settings other = searchPath S settings c := by
  rw [searchPath, searchPath, same]

theorem loadSearchPath_run (c : Context σ) :
    (loadSearchPath S settings).run c =
      (loadDirectories S (searchPath S settings c)).run c := by
  have path : settings.source.orDefault (S.lookup c.host.system) settings.defaultDirectory =
      searchPath S settings c := by
    unfold PathSource.orDefault searchPath
    cases settings.source.directories (S.lookup c.host.system) <;> rfl
  simp only [loadSearchPath, Action.run_bind, Action.run_get, path, List.nil_append]

/-- When the built-ins are there, or come when asked, the first client does what loading the
directories of the search path does when the built-ins are back, and is counted. -/
theorem init_first (first : c.initCount = 0)
    (there : c.builtinsRegistered = true ∨ c.answer S settings = .ok ()) :
    (init S settings).run c =
      let restored := (restore S settings).run c
      let search := (loadDirectories S (searchPath S settings c)).run restored.state
      ⟨search.value, { search.state with initCount := 1 },
        .notice (.initCounted 1) :: (restored.events ++ search.events)⟩ := by
  have searched := countless_loadDirectories (S := S) (searchPath S settings c)
    ((restore S settings).run c).state 1
  have path : searchPath S settings { ((restore S settings).run c).state with initCount := 1 } =
      searchPath S settings c := searchPath_congr (restore_system c)
  rw [init_searches first there, countless_restore c 1]
  simp only [loadSearchPath_run, path, searched]

/-- A client that is not the first is counted, and that is all. -/
theorem init_counted (clients : c.initCount ≠ 0) :
    (init S settings).run c =
      ⟨.ok (), { c with initCount := c.initCount + 1 },
        [.notice (.initCounted (c.initCount + 1))]⟩ := by
  simp only [init, Action.run_bind, Action.run_modify, Action.run_get, Action.run_note,
    Nat.add_eq_right, clients, ↓reduceIte, Action.run_pure, List.nil_append, List.append_nil]

/-- The built-ins are there when the client has come. -/
theorem init_active (first : c.initCount = 0)
    (there : c.builtinsRegistered = true ∨ c.answer S settings = .ok ()) :
    ((init S settings).run c).state.builtinsRegistered = true := by
  obtain ⟨_, coming⟩ := init_outcome S settings c
  generalize ((init S settings).run c).value = value at coming
  cases coming with
  | counted clients => exact absurd first clients
  | kept _ _ still => exact still
  | restored _ _ _ back => exact back
  | failed _ away fails =>
    rcases there with there | succeeds
    · rw [away] at there
      cases there
    · rw [fails] at succeeds
      cases succeeds

/-- The directories that are left can be opened if nothing was answered, and not otherwise. -/
theorem stops_iff {front back : List Path} {answer : Except PluginError Unit}
    (opens : OpenInTurn S c front)
    (stops : Stops S ((loadInTurn S front).run c).state back answer) :
    answer = .ok () ↔ OpenInTurn S c (front ++ back) := by
  cases back with
  | nil =>
    rw [List.append_nil]
    exact ⟨fun _ => opens, fun _ => stops⟩
  | cons directory rest =>
    obtain ⟨cause, listing, failed⟩ := stops
    rw [failed]
    constructor
    · intro succeeded
      cases succeeded
    · intro all
      obtain ⟨entries, opened⟩ := all front directory rest rfl
      rw [listing] at opened
      cases opened

end Context

/-! Where loading does not change what directories list, a directory can be opened in its turn if
it can be opened before. -/

namespace Surroundings.ListsSteadily

variable {path : Path} {handle : Handle} {s next : σ}

theorem opened {answer : Except String Handle} (steady : S.ListsSteadily)
    (opening : S.openModule path s = (answer, next)) : S.listing next = S.listing s := by
  rw [← steady.opening path s, opening]

theorem resolved {answer : Except String Descriptor} (steady : S.ListsSteadily)
    (resolving : S.resolve handle s = (answer, next)) : S.listing next = S.listing s := by
  rw [← steady.resolving handle s, resolving]

end Surroundings.ListsSteadily

/-- Modules of a catalog come and go without a change to its directories. -/
theorem Catalog.lists_steadily : surroundings.ListsSteadily where
  opening path s := by
    simp only [surroundings, openModule]
    split
    · rfl
    · split <;> rfl
  resolving _ _ := rfl
  closing _ _ := rfl

namespace Host

variable {host last : Host σ} {events : List Event}

theorem Loading.listing (steady : S.ListsSteadily) (loading : Loading S host events last) :
    S.listing last.system = S.listing host.system := by
  cases loading with
  | noted => rfl
  | unopened opening => exact steady.opened opening
  | attached opening => exact steady.opened opening
  | refused opening new resolving =>
    exact (steady.closing _ _).trans ((steady.resolved resolving).trans (steady.opened opening))
  | entered opening new resolving =>
    exact (steady.resolved resolving).trans (steady.opened opening)

end Host

namespace Context

variable {c : Context σ} {directory : Path} {directories : List Path}

theorem loadDirectory_listing (steady : S.ListsSteadily) (directory : Path) (c : Context σ) :
    S.listing ((loadDirectory S directory none).run c).state.host.system =
      S.listing c.host.system := by
  have kept := (Host.loads_loadDirectory (S := S) directory none).ensures
    (I := fun _ host => S.listing host.system = S.listing c.host.system)
    fun loading before => (loading.listing steady).trans before
  exact kept [] c.host rfl

theorem openInTurn_iff (steady : S.ListsSteadily) :
    OpenInTurn S c directories ↔ ∀ directory ∈ directories, S.Opens c.host.system directory := by
  induction directories generalizing c with
  | nil => simp [openInTurn_nil]
  | cons directory rest ih =>
    rw [openInTurn_cons, ih, List.forall_mem_cons]
    simp only [Surroundings.Opens, loadDirectory_listing steady]

/-- The first of the directories that cannot be opened is answered. -/
theorem loadDirectories_first_unreadable (steady : S.ListsSteadily) {front rest : List Path}
    {cause : IoError} (opens : ∀ earlier ∈ front, S.Opens c.host.system earlier)
    (listing : S.listing c.host.system directory = .error cause) :
    ((loadDirectories S (front ++ directory :: rest)).run c).value =
      .error (.unreadableDirectory directory cause) := by
  induction front generalizing c with
  | nil => rw [List.nil_append, loadDirectories_unreadable listing]
  | cons first others ih =>
    obtain ⟨opened, later⟩ := List.forall_mem_cons.mp opens
    obtain ⟨count, run⟩ := loadDirectories_loaded opened (others ++ directory :: rest)
    rw [List.cons_append, run]
    apply ih
    · simpa only [Surroundings.Opens, loadDirectory_listing steady] using later
    · rw [loadDirectory_listing steady]
      exact listing

/-- **The first client brings in the search path.** Whatever a context holds, if it has no client
and its built-ins are there, or come when asked, a client that comes does what bringing the
built-ins back and then loading the first directories of the search path does, each by a call of
its own, in their order and once each. It answers well if these are all the directories, and this
is so if each directory can be opened in its turn; otherwise it answers that the next one cannot
be opened. Modules that do not load make no difference to that. Where loading does not change
what directories list, the directory in question is the first that cannot be opened when the client
comes. A client that finds others is counted, and that is all. -/
theorem init_loads_search_path (S : Surroundings σ) (settings : Settings) (c : Context σ) :
    (c.initCount = 0 → c.builtinsRegistered = true ∨ c.answer S settings = .ok () →
      let path := searchPath S settings c
      let came := (init S settings).run c
      let restored := (restore S settings).run c
      (∃ front back, path = front ++ back ∧ OpenInTurn S restored.state front ∧
        let loads := (loadInTurn S front).run restored.state
        came.state = { loads.state with initCount := 1 } ∧
          came.state.builtinsRegistered = true ∧
          deeds came.events = deeds restored.events ++ deeds loads.events ∧
          Stops S loads.state back came.value) ∧
      (came.value = .ok () ↔ OpenInTurn S restored.state path) ∧
      (S.ListsSteadily →
        (came.value = .ok () ↔ ∀ directory ∈ path, S.Opens c.host.system directory) ∧
        ∀ front directory back cause, path = front ++ directory :: back →
          (∀ earlier ∈ front, S.Opens c.host.system earlier) →
          S.listing c.host.system directory = .error cause →
          came.value = .error (.unreadableDirectory directory cause))) ∧
    (c.initCount ≠ 0 →
      (init S settings).run c =
        ⟨.ok (), { c with initCount := c.initCount + 1 },
          [.notice (.initCounted (c.initCount + 1))]⟩) := by
  refine ⟨?_, init_counted⟩
  intro first there path came restored
  have run : came = _ := init_first first there
  obtain ⟨front, back, split, opens, ⟨state, same⟩, stops⟩ :=
    loadDirectories_ends (S := S) path restored.state
  have value : came.value = ((loadDirectories S path).run restored.state).value := by rw [run]
  rw [← value] at stops
  have answers : came.value = .ok () ↔ OpenInTurn S restored.state path := by
    rw [split]
    exact stops_iff opens stops
  have system : restored.state.host.system = c.host.system := restore_system c
  refine ⟨⟨front, back, split, opens, ?_, init_active first there, ?_, stops⟩, answers, ?_⟩
  · rw [run, ← state]
  · rw [run, ← same, ← deeds_append]
    rfl
  · intro steady
    refine ⟨?_, ?_⟩
    · rw [answers, openInTurn_iff steady, system]
    · intro before directory after cause split opened listing
      rw [value, split]
      rw [← system] at opened listing
      exact loadDirectories_first_unreadable steady opened listing

/-- A built-in encoder, and a search path whose second directory is not there. -/
def gappyPath : Settings :=
  ⟨some (.ofRounds [[some ⟨5⟩]]), .fixed [⟨[112]⟩, ⟨[113]⟩, ⟨[112]⟩], ⟨[113]⟩⟩

/-- A client has come and left again, and the first directory was made after that. -/
def abandoned : Context Catalog :=
  Run.context Catalog.surroundings gappyPath (.ofModules (.ofEncoders id) [])
    [.init, .deinit, .elsewhere fun _ => mixedCatalog]

/-- Another client comes. The built-ins are brought back and the first directory is loaded. The
second one ends the search, but the client is counted. -/
theorem gap_ends_search :
    ((init Catalog.surroundings gappyPath).run abandoned).value =
        .error (.unreadableDirectory ⟨[113]⟩ .notFound) ∧
      ((init Catalog.surroundings gappyPath).run abandoned).state.initCount = 1 ∧
      ((init Catalog.surroundings gappyPath).run abandoned).state.builtinsRegistered = true ∧
      ((init Catalog.surroundings gappyPath).run abandoned).state.registry.encoders =
        [⟨5⟩, ⟨0⟩] := by
  have first : abandoned.initCount = 0 := by decide +kernel
  have comes : abandoned.answer Catalog.surroundings gappyPath = .ok () := by decide +kernel
  obtain ⟨⟨front, back, _, _, state, active, _, _⟩, _, steadily⟩ :=
    (init_loads_search_path Catalog.surroundings gappyPath abandoned).1 first (.inr comes)
  obtain ⟨_, unreadable⟩ := steadily Catalog.lists_steadily
  refine ⟨?_, ?_, active, ?_⟩
  · apply unreadable [⟨[112]⟩] ⟨[113]⟩ [⟨[112]⟩] .notFound rfl
    · intro earlier member
      rw [List.mem_singleton.mp member]
      exact ⟨mixedShelf, rfl⟩
    · rfl
  · rw [state]
  · decide +kernel

end Context
end CodecHost
