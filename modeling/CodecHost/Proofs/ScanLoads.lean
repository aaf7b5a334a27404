import CodecHost.Proofs.Ledger
import CodecHost.Scan

/-! A scan and the loads in it. Whatever the function is that loads a module, a scan calls it
for the candidates of the directory, one after the other, and does nothing else. It counts the
loads that succeed, records what they answer, and notes each one that fails. -/
namespace CodecHost

open Ledger

variable {σ : Type}

/-- Two steps do the same and leave the same behind, whatever they answer and whatever goes
to the log. -/
structure Step.SameDeeds {α β : Type} (step : Step σ α) (other : Step σ β) : Prop where
  state : step.state = other.state
  deeds : deeds step.events = deeds other.events

/-- The descriptors of the loads that succeeded. -/
def loaded (answers : List (Except PluginError Descriptor)) : List Descriptor :=
  answers.filterMap Except.toOption

theorem loaded_append (first others : List (Except PluginError Descriptor)) :
    loaded (first ++ others) = loaded first ++ loaded others := List.filterMap_append

/-- The paths whose loads failed, each with what its load answered. -/
def failed (paths : List Path) (answers : List (Except PluginError Descriptor)) :
    List (Path × PluginError) :=
  (paths.zip answers).filterMap fun
    | (path, .error e) => some (path, e)
    | (_, .ok _) => none

/-- The load that a log entry says was skipped, and why. -/
def Notice.skip? : Notice → Option (Path × PluginError)
  | skipped path e => some (path, e)
  | _ => none

/-- The loads that the log says were skipped. -/
def skips (events : List Event) : List (Path × PluginError) :=
  (events.filterMap Event.notice?).filterMap Notice.skip?

@[simp] theorem skips_append (before after : List Event) :
    skips (before ++ after) = skips before ++ skips after := by
  simp only [skips, List.filterMap_append]

theorem skips_notices (notices : List Notice) :
    skips (notices.map .notice) = notices.filterMap Notice.skip? := by
  rw [skips, List.filterMap_map]
  exact congrArg _ (List.filterMap_some ..)

namespace Scan

variable {directory : Path} {load : Path → Action σ (Except PluginError Descriptor)}

/-- The path of the module that an entry may be. -/
def candidate? (directory : Path) : DirEntry → Option Path
  | .named name (.ok kind) =>
    if kind.mayBeModule && isModuleName name then some (directory.join name) else none
  | _ => none

/-- Descriptors that are recorded are counted. -/
theorem recorded_loaded (ds : List Descriptor) (p : Progress) :
    (ds.foldl Progress.record p).loaded = p.loaded + ds.length := by
  induction ds generalizing p with
  | nil => rfl
  | cons d rest ih =>
    have one : (p.record d).loaded = p.loaded + 1 := rfl
    rw [List.foldl_cons, ih, one, List.length_cons]
    omega

/-- What becomes of one entry. -/
inductive Visited (directory : Path) (load : Path → Action σ (Except PluginError Descriptor))
    (p : Progress) (s : σ) : DirEntry → Step σ Progress → Prop where
  /-- An entry that is no candidate is passed over, at most with a notice. -/
  | passed {entry : DirEntry} (notices : List Notice) (no : candidate? directory entry = none)
      (unskipped : notices.filterMap Notice.skip? = []) :
      Visited directory load p s entry ⟨p, s, notices.map .notice⟩
  /-- A candidate loads and is recorded. -/
  | loaded {entry : DirEntry} {path : Path} {d : Descriptor} {next : σ} {events : List Event}
      (may : candidate? directory entry = some path)
      (loading : (load path).run s = ⟨.ok d, next, events⟩) :
      Visited directory load p s entry ⟨p.record d, next, events⟩
  /-- A candidate does not load, which is noted. -/
  | skipped {entry : DirEntry} {path : Path} {e : PluginError} {next : σ} {events : List Event}
      (may : candidate? directory entry = some path)
      (loading : (load path).run s = ⟨.error e, next, events⟩) :
      Visited directory load p s entry ⟨p, next, events ++ [.notice (.skipped path e)]⟩

theorem visit_ends (directory : Path) (load : Path → Action σ (Except PluginError Descriptor))
    (p : Progress) (entry : DirEntry) (s : σ) :
    Visited directory load p s entry ((visit directory load p entry).run s) := by
  cases entry with
  | unreadable cause => exact .passed [_] rfl rfl
  | named name kind =>
    cases kind with
    | error cause => exact .passed [_] rfl rfl
    | ok kind =>
      simp only [visit]
      split
      · next fits =>
        have may : candidate? directory (.named name (.ok kind)) = some (directory.join name) := by
          simp only [candidate?, fits, ↓reduceIte]
        simp only [Action.run_bind]
        cases loading : (load (directory.join name)).run s with
        | mk answer next events =>
          cases answer with
          | ok d =>
            simp only [Action.run_pure, List.append_nil]
            exact .loaded may loading
          | error e => exact .skipped may loading
      · next unfit => exact .passed [] (by simp only [candidate?, unfit]; rfl) rfl

/-- What a scan does with its entries, it does by loading the candidates one by one. -/
theorem visitAll_each (directory : Path)
    (load : Path → Action σ (Except PluginError Descriptor)) (p : Progress)
    (entries : List DirEntry) (s : σ) :
    ((visitAll directory load p entries).run s).SameDeeds
        (((entries.filterMap (candidate? directory)).mapM load).run s) ∧
      ((visitAll directory load p entries).run s).value =
        (loaded (((entries.filterMap (candidate? directory)).mapM load).run s).value).foldl
          Progress.record p := by
  induction entries generalizing p s with
  | nil => exact ⟨⟨rfl, rfl⟩, rfl⟩
  | cons entry rest ih =>
    have ends := visit_ends directory load p entry s
    simp only [visitAll, Action.run_bind]
    generalize (visit directory load p entry).run s = step at ends ⊢
    cases ends with
    | passed notices no =>
      obtain ⟨⟨state, same⟩, recorded⟩ := ih p s
      rw [List.filterMap_cons_none no]
      exact ⟨⟨state, by rw [deeds_append, deeds_notices, List.nil_append, same]⟩, recorded⟩
    | loaded may loading =>
      rw [List.filterMap_cons_some may]
      simp only [List.mapM_cons, Action.run_bind, loading, Action.run_pure, List.append_nil]
      obtain ⟨⟨state, same⟩, recorded⟩ := ih (p.record _) _
      exact ⟨⟨state, by rw [deeds_append, deeds_append, same]⟩, recorded⟩
    | skipped may loading =>
      rw [List.filterMap_cons_some may]
      simp only [List.mapM_cons, Action.run_bind, loading, Action.run_pure, List.append_nil]
      obtain ⟨⟨state, same⟩, recorded⟩ := ih p _
      refine ⟨⟨state, ?_⟩, recorded⟩
      simp only [deeds_append, deeds_notice, List.append_nil, same]

/-- A load that fails is noted once, besides what it notes itself. -/
theorem visitAll_skips (directory : Path)
    (load : Path → Action σ (Except PluginError Descriptor)) (p : Progress)
    (entries : List DirEntry) (s : σ) :
    (skips ((visitAll directory load p entries).run s).events).Perm
      (skips (((entries.filterMap (candidate? directory)).mapM load).run s).events ++
        failed (entries.filterMap (candidate? directory))
          (((entries.filterMap (candidate? directory)).mapM load).run s).value) := by
  induction entries generalizing p s with
  | nil => exact .refl _
  | cons entry rest ih =>
    have ends := visit_ends directory load p entry s
    simp only [visitAll, Action.run_bind]
    generalize (visit directory load p entry).run s = step at ends ⊢
    cases ends with
    | passed notices no unskipped =>
      rw [List.filterMap_cons_none no, skips_append, skips_notices, unskipped]
      exact ih p s
    | loaded may loading =>
      rw [List.filterMap_cons_some may]
      simp only [List.mapM_cons, Action.run_bind, loading, Action.run_pure, List.append_nil,
        skips_append, List.append_assoc]
      exact (ih _ _).append_left _
    | skipped may loading =>
      rw [List.filterMap_cons_some may]
      simp only [List.mapM_cons, Action.run_bind, loading, Action.run_pure, List.append_nil,
        skips_append, List.append_assoc]
      -- The scan notes a failure before the next load, while here it stands behind all loads.
      refine .append_left _ (.trans (.cons _ (ih _ _)) ?_)
      exact List.perm_middle.symm

/-- A buffer that overflows is noted as that and nothing else. -/
theorem overflow_notices (directory : Path) (p : Progress) :
    ∃ notices : List Notice, p.overflow directory = notices.map .notice ∧
      notices.filterMap Notice.skip? = [] := by
  unfold Progress.overflow
  split
  · split
    · exact ⟨[_], rfl, rfl⟩
    · exact ⟨[], rfl, rfl⟩
  · exact ⟨[], rfl, rfl⟩

theorem deeds_overflow (directory : Path) (p : Progress) : deeds (p.overflow directory) = [] := by
  obtain ⟨notices, all, _⟩ := overflow_notices directory p
  rw [all, deeds_notices]

theorem skips_overflow (directory : Path) (p : Progress) : skips (p.overflow directory) = [] := by
  obtain ⟨notices, all, unskipped⟩ := overflow_notices directory p
  rw [all, skips_notices, unskipped]

/-- A scan does what loading the candidates one by one does. It counts the loads that succeed,
records what they answer, and notes each one that fails. -/
theorem scan_each (directory : Path) (entries : List DirEntry) (buffer : Option Buffer)
    (load : Path → Action σ (Except PluginError Descriptor)) (s : σ) :
    let paths := entries.filterMap (candidate? directory)
    let loads := (paths.mapM load).run s
    let scanned := (scan directory (.ok entries) buffer load).run s
    scanned.SameDeeds loads ∧
      scanned.value = (.ok (loaded loads.value).length,
        ((loaded loads.value).foldl Progress.record ⟨0, buffer⟩).close) ∧
      (skips scanned.events).Perm (skips loads.events ++ failed paths loads.value) := by
  intro paths loads scanned
  obtain ⟨⟨state, same⟩, recorded⟩ := visitAll_each directory load ⟨0, buffer⟩ entries s
  have skipped := visitAll_skips directory load ⟨0, buffer⟩ entries s
  simp only [scanned, scan, Action.run_bind, Action.run_emit, Action.run_note, Action.run_pure]
  refine ⟨⟨state, ?_⟩, ?_, ?_⟩
  · simp only [deeds_append, deeds_overflow, deeds_notice, List.append_nil, same, loads, paths]
  · rw [recorded, recorded_loaded, Nat.zero_add]
  · have scanned_quiet : ∀ count, skips [.notice (.scanned count directory)] = [] := fun _ => rfl
    simp only [List.append_nil, skips_append, skips_overflow, scanned_quiet]
    exact skipped

/-- A load function that keeps a list of the paths it is called with. -/
def tracked (load : Path → Action σ (Except PluginError Descriptor)) (path : Path) :
    Action (σ × List Path) (Except PluginError Descriptor) := do
  Action.modify fun (s, calls) => (s, calls ++ [path])
  Action.focus Prod.fst (fun s t => (s, t.2)) (load path)

theorem mapM_tracked (paths : List Path) (s : σ) (calls : List Path) :
    (paths.mapM (tracked load)).run (s, calls) =
      ⟨((paths.mapM load).run s).value, (((paths.mapM load).run s).state, calls ++ paths),
        ((paths.mapM load).run s).events⟩ := by
  induction paths generalizing s calls with
  | nil => simp
  | cons path rest ih =>
    simp only [List.mapM_cons, tracked, Action.run_bind, Action.run_modify, Action.run_focus,
      Action.run_pure, ih, List.append_assoc, List.singleton_append, List.nil_append]

/-- A scan calls the load function for the candidates and for nothing else, once for each and
in their order. -/
theorem scan_tracked (directory : Path) (entries : List DirEntry) (buffer : Option Buffer)
    (load : Path → Action σ (Except PluginError Descriptor)) (s : σ) :
    ((scan directory (.ok entries) buffer (tracked load)).run (s, [])).state =
      (((entries.filterMap (candidate? directory)).mapM load).run s |>.state,
        entries.filterMap (candidate? directory)) := by
  obtain ⟨⟨state, _⟩, _⟩ := scan_each directory entries buffer (tracked load) (s, [])
  rw [state, mapM_tracked, List.nil_append]

end Scan
end CodecHost
