import CodecHost.Proofs.LoadOutcomes
import CodecHost.Proofs.TableContents
import CodecHost.Proofs.Trails

/-! Everything that loading and unloading can do, as moves. A move starts and ends
with every open reference in the table; what happens in between is told by its
events. Each operation of a host is a trail of moves, so that a property which
every move keeps is kept by all of them. -/
namespace CodecHost.Host

variable {σ α β : Type} {S : Surroundings σ}

/-- The system after references were given back one after the other. -/
def closeAll (S : Surroundings σ) (handles : List Handle) (system : σ) : σ :=
  handles.foldl (fun s handle => S.close handle s) system

/-- A move that takes nothing away. -/
inductive Loading (S : Surroundings σ) : Host σ → List Event → Host σ → Prop where
  /-- Something goes to the log. -/
  | noted {host : Host σ} (n : Notice) : Loading S host [.notice n] host
  /-- A module does not open. -/
  | unopened {host : Host σ} {path : Path} {diagnostic : String} {system : σ}
      (opening : S.openModule path host.system = (.error diagnostic, system)) :
      Loading S host [.openFailed path diagnostic] { host with system }
  /-- A module that has a record gives another reference. -/
  | attached {host : Host σ} {path : Path} {handle : Handle} {record : Record} {system : σ}
      (opening : S.openModule path host.system = (.ok handle, system))
      (tracked : host.modules.record? handle.id = some record) :
      Loading S host [.opened handle] { host with modules := host.modules.attach handle, system }
  /-- A new module is of no use and is closed again. -/
  | refused {host : Host σ} {path : Path} {handle : Handle} {answer : Except String Descriptor}
      {system resolved : σ}
      (opening : S.openModule path host.system = (.ok handle, system))
      (new : host.modules.record? handle.id = none)
      (resolving : S.resolve handle system = (answer, resolved))
      (unfit : ∀ d, answer = .ok d → ¬ (S.memory resolved).Accepts d) :
      Loading S host [.opened handle, .resolved handle answer, .closed handle]
        { host with system := S.close handle resolved }
  /-- A new module is registered and gets a record. -/
  | entered {host : Host σ} {path : Path} {handle : Handle} {d : Descriptor}
      {system resolved : σ} {registry : Registry} {hooks : List Event}
      (opening : S.openModule path host.system = (.ok handle, system))
      (new : host.modules.record? handle.id = none)
      (resolving : S.resolve handle system = (.ok d, resolved))
      (registering : Registry.Registering (S.memory resolved) d host.registry
        ⟨.ok (), registry, hooks⟩) :
      Loading S host (.opened handle :: .resolved handle (.ok d) :: hooks)
        ⟨registry, host.modules.insert d handle, resolved⟩

/-- A move that gives back one reference on the module that exports a descriptor. -/
inductive Unloading (S : Surroundings σ) (d : Descriptor) :
    Host σ → List Event → Host σ → Prop where
  /-- The record gives back its newest reference and keeps others. -/
  | released {host : Host σ} {record : Record} {before after : List Record}
      {kept : List Handle} {handle : Handle}
      (found : host.modules.records = before ++ record :: after)
      (exports : record.descriptor = d) (first : ∀ r ∈ before, r.descriptor ≠ d)
      (handles : record.handles = kept ++ [handle]) (others : kept ≠ []) :
      Unloading S d host [.notice (.released record.id kept.length), .closed handle]
        { host with
          modules := ⟨before ++ { record with handles := kept } :: after⟩
          system := S.close handle host.system }
  /-- The record gives back its only reference and goes. -/
  | removed {host : Host σ} {record : Record} {before after : List Record} {handle : Handle}
      {was : Bool} {registry : Registry} {hooks : List Event}
      (found : host.modules.records = before ++ record :: after)
      (exports : record.descriptor = d) (first : ∀ r ∈ before, r.descriptor ≠ d)
      (handles : record.handles = [handle])
      (unregistering : Registry.Unregistering (S.memory host.system) d host.registry
        ⟨was, registry, hooks⟩) :
      Unloading S d host (hooks ++ [.notice (.unloaded record.id)] ++ [.closed handle])
        ⟨registry, ⟨ModuleTable.swapRemove host.modules.records before.length⟩,
          S.close handle host.system⟩

/-- One move of a host. -/
inductive Move (S : Surroundings σ) : Host σ → List Event → Host σ → Prop where
  | loading {host last : Host σ} {events : List Event} (loading : Loading S host events last) :
      Move S host events last
  | unloading {host last : Host σ} {events : List Event} {d : Descriptor}
      (unloading : Unloading S d host events last) : Move S host events last
  /-- The first record gives back all its references and goes. -/
  | forced {host : Host σ} {record : Record} {rest : List Record}
      {was : Bool} {registry : Registry} {hooks : List Event}
      (found : host.modules.records = record :: rest)
      (unregistering : Registry.Unregistering (S.memory host.system) record.descriptor
        host.registry ⟨was, registry, hooks⟩) :
      Move S host (hooks ++ record.handles.map .closed)
        ⟨registry, ⟨rest⟩, closeAll S record.handles host.system⟩

variable {host middle last : Host σ} {past events later : List Event}

/-- The action loads and does nothing else. -/
def Loads (S : Surroundings σ) (a : Action (Host σ) α) : Prop := Performs (fun _ => Loading S) a

/-- The action loads and unloads. -/
def Moving (S : Surroundings σ) (a : Action (Host σ) α) : Prop := Performs (fun _ => Move S) a

theorem Loads.moving {a : Action (Host σ) α} (loads : Loads S a) : Moving S a := loads.imp .loading

theorem loads_note (n : Notice) : Loads S (Action.note n : Action (Host σ) Unit) :=
  performs_single fun _ _ => .noted n

/-! Loading. -/

/-- A module that is refused was not opened, or it was of no use. -/
theorem Refusal.loading {path : Path} {e : PluginError} {system : σ}
    (refusal : Refusal S path host e events system) :
    Loading S host events { host with system } := by
  cases refusal with
  | unopened opening => exact .unopened opening
  | unresolved opening new resolving => exact .refused opening new resolving nofun
  | tableless opening new resolving bare =>
    refine .refused opening new resolving ?_
    rintro _ ⟨⟩ ⟨p, leads, _⟩
    simp [leads] at bare
  | unsupported opening new resolving leads version =>
    refine .refused opening new resolving ?_
    rintro _ ⟨⟩ fit
    simp [(Memory.accepts_iff leads).mp fit] at version

theorem loads_load (path : Path) : Loads S (load S path) := by
  intro past host
  have ends := load_ends S path host
  generalize (load S path).run host = step at ends ⊢
  cases ends with
  | refused refusal => exact .single refusal.loading
  | attached opening tracked =>
    exact .step (R := fun _ => Loading S) (.attached opening tracked) (.single (.noted _))
  | @entered handle d system resolved registry hooks opening new resolving registering =>
    have outcome := Registry.register_outcome (S.memory resolved) d host.registry
    rw [registering] at outcome
    exact .step (R := fun _ => Loading S) (.entered opening new resolving outcome)
      (.single (.noted _))

/-! Unloading. -/

theorem releaseAll_run (handles : List Handle) (host : Host σ) :
    (releaseAll S handles).run host =
      ⟨(), { host with system := closeAll S handles host.system }, handles.map .closed⟩ := by
  induction handles generalizing host with
  | nil => rfl
  | cons handle rest ih =>
    simp only [releaseAll, Action.run_bind, release_run, ih]
    rfl

/-- The record that unloading finds is the first one with the descriptor. -/
theorem found_split {records : List Record} {record : Record} {d : Descriptor} {index : Nat}
    (found : records.findIdx? (·.descriptor = d) = some index)
    (there : records[index]? = some record) :
    ∃ before after, records = before ++ record :: after ∧ before.length = index ∧
      record.descriptor = d ∧ ∀ r ∈ before, r.descriptor ≠ d := by
  obtain ⟨bound, matched, earlier⟩ := List.findIdx?_eq_some_iff_getElem.mp found
  obtain ⟨_, same⟩ := List.getElem?_eq_some_iff.mp there
  subst same
  refine ⟨records.take index, records.drop (index + 1), ?_, ?_, by simpa using matched, ?_⟩
  · rw [List.getElem_cons_drop, List.take_append_drop]
  · exact List.length_take_of_le (Nat.le_of_lt bound)
  · intro r member
    obtain ⟨i, small, rfl⟩ := List.mem_iff_getElem.mp member
    have inside : i < index := by
      rw [List.length_take] at small
      omega
    rw [List.getElem_take]
    simpa using earlier i inside

/-- Unloading gives back a reference of the first record with the descriptor, and
without such a record it does nothing. -/
theorem unload_outcome (d : Descriptor) (host : Host σ) :
    ((unload S d).run host = ⟨.error .notLoaded, host, []⟩ ∧
      ∀ record, host.modules.find? d = some record → record.handles = []) ∨
    (((unload S d).run host).value = .ok () ∧
      Unloading S d host ((unload S d).run host).events ((unload S d).run host).state) := by
  unfold unload
  simp only [Action.run_bind, Action.run_get, List.nil_append]
  cases found : host.modules.records.findIdx? (·.descriptor = d) with
  | none =>
    refine .inl ⟨rfl, fun record there => ?_⟩
    have missing := List.findIdx?_eq_none_iff.mp found record (List.mem_of_find?_eq_some there)
    have exports := List.find?_some there
    rw [missing] at exports
    cases exports
  | some index =>
    obtain ⟨record, there⟩ : ∃ record, host.modules.records[index]? = some record :=
      ⟨_, List.getElem?_eq_getElem (List.findIdx?_eq_some_iff_getElem.mp found).1⟩
    obtain ⟨before, after, split, rfl, exports, first⟩ := found_split found there
    simp only [there]
    cases newest : record.handles.getLast? with
    | none =>
      refine .inl ⟨rfl, fun other found => ?_⟩
      cases found.symm.trans (ModuleTable.find?_split split exports first)
      exact List.getLast?_eq_none_iff.mp newest
    | some handle =>
      obtain ⟨kept, handles⟩ := List.getLast?_eq_some_iff.mp newest
      simp only [handles, List.dropLast_concat]
      right
      cases kept with
      | nil =>
        simp only [List.isEmpty_nil, ↓reduceIte, Action.run_bind, modifyModules_run,
          onRegistry_run, Action.run_note, release_run, Action.run_pure, List.nil_append,
          List.append_nil]
        have outcome := Registry.unregister_outcome (S.memory host.system) d host.registry
        generalize (Registry.unregister (S.memory host.system) d).run host.registry = step
          at outcome ⊢
        obtain ⟨was, registry, hooks⟩ := step
        refine ⟨trivial, ?_⟩
        simpa only [List.append_assoc] using
          Unloading.removed split exports first handles outcome
      | cons oldest rest =>
        simp only [List.isEmpty_cons, Bool.false_eq_true, ↓reduceIte, Action.run_bind,
          modifyModules_run, Action.run_note, release_run, Action.run_pure, List.nil_append,
          List.append_nil]
        have placed : host.modules.records.set before.length
            { record with handles := oldest :: rest } =
              before ++ { record with handles := oldest :: rest } :: after := by
          rw [split, List.set_append_right _ _ (Nat.le_refl _), Nat.sub_self, List.set_cons_zero]
        rw [placed]
        exact ⟨trivial, .released split exports first handles (List.cons_ne_nil _ _)⟩

theorem unload_moving (d : Descriptor) : Moving S (unload S d) := by
  intro past host
  rcases unload_outcome d host with ⟨idle, _⟩ | ⟨_, unloading⟩
  · rw [idle]
    exact .done
  · exact .single (.unloading unloading)

theorem unloadRecords_trail (records : List Record) (registry : Registry) (system : σ) :
    Trail (fun _ => Move S) past ⟨registry, ⟨records⟩, system⟩
      ((unloadRecords S records).run ⟨registry, .empty, system⟩).events
      ((unloadRecords S records).run ⟨registry, .empty, system⟩).state := by
  induction records generalizing past registry system with
  | nil => exact .done
  | cons record rest ih =>
    simp only [unloadRecords, Action.run_bind, onRegistry_run, releaseAll_run, Action.run_note,
      Action.run_pure, List.append_nil]
    have outcome := Registry.unregister_outcome (S.memory system) record.descriptor registry
    generalize (Registry.unregister (S.memory system) record.descriptor).run registry = step
      at outcome ⊢
    obtain ⟨was, left, hooks⟩ := step
    have forced : Move S ⟨registry, ⟨record :: rest⟩, system⟩ _ _ := .forced rfl outcome
    simpa only [List.append_assoc] using
      Trail.step forced (.step (.loading (.noted (.forceUnloaded record.id record.openCount)))
        (ih left (closeAll S record.handles system)))

theorem unloadAll_moving : Moving S (unloadAll S) :=
  fun _ host => unloadRecords_trail host.modules.records host.registry host.system

theorem unloadRecords_modules (records : List Record) (host : Host σ) :
    ((unloadRecords S records).run host).state.modules = host.modules := by
  induction records generalizing host with
  | nil => rfl
  | cons record rest ih =>
    simp only [unloadRecords, Action.run_bind, onRegistry_run, releaseAll_run, Action.run_note,
      Action.run_pure, ih]

/-- Nothing is left in the table. -/
theorem unloadAll_modules (host : Host σ) :
    ((unloadAll S).run host).state.modules = .empty :=
  unloadRecords_modules _ _

/-- A registry in which nothing is active stays so. -/
theorem unloadRecords_idle (records : List Record) (host : Host σ)
    (idle : host.registry = .empty) :
    ((unloadRecords S records).run host).state.registry = .empty := by
  induction records generalizing host with
  | nil => exact idle
  | cons record rest ih =>
    simp only [unloadRecords, Action.run_bind, onRegistry_run, releaseAll_run, Action.run_note,
      Action.run_pure]
    apply ih
    have outcome := Registry.unregister_outcome (S.memory host.system) record.descriptor
      host.registry
    generalize (Registry.unregister (S.memory host.system) record.descriptor).run
      host.registry = step at outcome ⊢
    cases outcome with
    | absent => exact idle
    | removed _ _ active => simp [idle] at active

/-! Scanning. -/

theorem loads_visit (directory : Path) (p : Scan.Progress) (entry : DirEntry) :
    Loads S (Scan.visit directory (load S) p entry) := by
  cases entry with
  | unreadable cause => exact performs_bind (loads_note _) fun _ => performs_pure _
  | named name kind =>
    cases kind with
    | error cause => exact performs_bind (loads_note _) fun _ => performs_pure _
    | ok kind =>
      simp only [Scan.visit]
      split
      · refine performs_bind (loads_load _) fun answer => ?_
        cases answer with
        | ok d => exact performs_pure _
        | error e => exact performs_bind (loads_note _) fun _ => performs_pure _
      · exact performs_pure _

theorem loads_visitAll (directory : Path) (p : Scan.Progress) (entries : List DirEntry) :
    Loads S (Scan.visitAll directory (load S) p entries) := by
  induction entries generalizing p with
  | nil => exact performs_pure _
  | cons entry rest ih => exact performs_bind (loads_visit directory p entry) ih

theorem loads_loadDirectory (directory : Path) (buffer : Option Scan.Buffer) :
    Loads S (loadDirectory S directory buffer) := by
  refine performs_get_bind fun host => ?_
  unfold Scan.scan
  cases S.listing host.system directory with
  | error cause => exact performs_pure _
  | ok entries =>
    refine performs_bind (loads_visitAll directory _ entries) fun p => ?_
    refine performs_bind (fun _ host => ?_) fun _ =>
      performs_bind (loads_note _) fun _ => performs_pure _
    simp only [Action.run_emit, Scan.Progress.overflow]
    cases p.buffer with
    | none => exact .done
    | some slots =>
      simp only
      split
      · exact .single (.noted _)
      · exact .done

end CodecHost.Host
