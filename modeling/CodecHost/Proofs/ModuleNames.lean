import CodecHost.Proofs.ScanLoads
import CodecHost.Proofs.TextBytes

/-! Which entries of a directory a scan takes for modules. The kind of an entry and the bytes of
its name say whether it is one: it is a file or a link, and its name ends in the module suffix
and is longer. A scan also asks that the name is text. A module whose name is not is passed over,
and nothing says so. -/
namespace CodecHost

/-- A name that ends in the module suffix and is longer. -/
def EndsAsModule (name : Bytes) : Prop :=
  (Utf8.encode moduleSuffix).length < name.length ∧ Utf8.encode moduleSuffix <:+ name

instance : DecidablePred EndsAsModule := fun _ => inferInstanceAs (Decidable (_ ∧ _))

theorem isModuleName_iff {name : Bytes} : isModuleName name ↔ name.IsText ∧ EndsAsModule name := by
  simp only [isModuleName, Bool.and_eq_true, decide_eq_true_eq, List.isSuffixOf_iff_suffix,
    Bytes.isText_iff, EndsAsModule, and_assoc]

namespace DirEntry

/-- The path of the module that an entry is, by its kind and the end of its name. -/
def module? (directory : Path) : DirEntry → Option Path
  | .named name (.ok kind) =>
    if (kind = .file ∨ kind = .symlink) ∧ EndsAsModule name then some (directory.join name)
    else none
  | _ => none

/-- No name that is not text. -/
def Legible : DirEntry → Prop
  | .named name _ => name.IsText
  | .unreadable _ => True

instance : DecidablePred Legible
  | .named name _ => inferInstanceAs (Decidable name.IsText)
  | .unreadable _ => inferInstanceAs (Decidable True)

/-- A module whose name is not text. -/
def PassedOver (directory : Path) (entry : DirEntry) : Prop :=
  (entry.module? directory).isSome ∧ ¬entry.Legible

instance (directory : Path) : DecidablePred (PassedOver directory) :=
  fun _ => inferInstanceAs (Decidable (_ ∧ _))

end DirEntry

namespace Scan

variable {σ : Type} {directory : Path} {entry : DirEntry}

/-- A scan takes an entry for a module if it is one and its name is text. -/
theorem candidate?_legible (directory : Path) (entry : DirEntry) :
    candidate? directory entry = if entry.Legible then entry.module? directory else none := by
  cases entry with
  | unreadable cause => rfl
  | named name kind =>
    cases kind with
    | error cause => simp only [candidate?, DirEntry.module?, ite_self]
    | ok kind =>
      have kinds : kind.mayBeModule ↔ kind = .file ∨ kind = .symlink := by
        cases kind <;> simp [FileKind.mayBeModule]
      simp only [candidate?, DirEntry.module?, DirEntry.Legible, Bool.and_eq_true,
        isModuleName_iff, kinds]
      by_cases text : name.IsText
      · simp only [text, true_and, ↓reduceIte]
      · simp only [text, false_and, and_false, ↓reduceIte]

/-- The candidates are the modules among the entries whose names are text. -/
theorem candidates_legible (directory : Path) (entries : List DirEntry) :
    entries.filterMap (candidate? directory) =
      (entries.filter (DirEntry.Legible ·)).filterMap (DirEntry.module? directory) := by
  rw [List.filterMap_filter]
  apply List.filterMap_congr
  intro entry _
  rw [candidate?_legible]
  simp only [decide_eq_true_eq]

theorem candidates_length_le (directory : Path) (entries : List DirEntry) :
    (entries.filterMap (candidate? directory)).length ≤
      (entries.filterMap (DirEntry.module? directory)).length := by
  rw [candidates_legible]
  exact (List.filter_sublist.filterMap _).length_le

/-- No module is missing among the candidates if the names of all modules are text, and not
otherwise. -/
theorem candidates_complete_iff (directory : Path) (entries : List DirEntry) :
    entries.filterMap (candidate? directory) = entries.filterMap (DirEntry.module? directory) ↔
      ∀ entry ∈ entries, ¬entry.PassedOver directory := by
  induction entries with
  | nil => simp
  | cons entry rest ih =>
    rw [List.forall_mem_cons, ← ih]
    cases module : entry.module? directory with
    | none =>
      have unlike : ¬entry.PassedOver directory := by simp [DirEntry.PassedOver, module]
      have no : candidate? directory entry = none := by
        rw [candidate?_legible, module, ite_self]
      rw [List.filterMap_cons_none no, List.filterMap_cons_none module]
      exact (and_iff_right unlike).symm
    | some path =>
      by_cases legible : entry.Legible
      · have unlike : ¬entry.PassedOver directory := fun passed => passed.2 legible
        have same : candidate? directory entry = some path := by
          rw [candidate?_legible, if_pos legible, module]
        rw [List.filterMap_cons_some same, List.filterMap_cons_some module,
          List.cons_inj_right]
        exact (and_iff_right unlike).symm
      · have passed : entry.PassedOver directory := ⟨by rw [module]; rfl, legible⟩
        have no : candidate? directory entry = none := by
          rw [candidate?_legible, if_neg legible]
        rw [List.filterMap_cons_none no, List.filterMap_cons_some module]
        constructor
        · -- One path fewer at the front is never made up for behind.
          intro same
          have shorter := candidates_length_le directory rest
          rw [same, List.length_cons] at shorter
          omega
        · intro ⟨unlike, _⟩
          exact absurd passed unlike

/-- A module that is no candidate is visited without a word. -/
theorem visit_passedOver (load : Path → Action σ (Except PluginError Descriptor)) (p : Progress)
    (passed : entry.PassedOver directory) : visit directory load p entry = pure p := by
  obtain ⟨module, illegible⟩ := passed
  cases entry with
  | unreadable cause => exact absurd trivial illegible
  | named name kind =>
    cases kind with
    | error cause => cases module
    | ok kind =>
      have unfit : ¬(kind.mayBeModule && isModuleName name) := by
        rw [Bool.and_eq_true, isModuleName_iff]
        intro ⟨_, text, _⟩
        exact illegible text
      rw [visit, if_neg unfit]

/-- A scan does what it does without the modules that it passes over. -/
theorem visitAll_others (directory : Path)
    (load : Path → Action σ (Except PluginError Descriptor)) (p : Progress)
    (entries : List DirEntry) :
    visitAll directory load p entries =
      visitAll directory load p (entries.filter (¬·.PassedOver directory)) := by
  induction entries generalizing p with
  | nil => rfl
  | cons entry rest ih =>
    by_cases passed : entry.PassedOver directory
    · rw [List.filter_cons_of_neg (by simpa using passed), visitAll,
        visit_passedOver load p passed, pure_bind, ih]
    · rw [List.filter_cons_of_pos (by simpa using passed), visitAll, visitAll]
      congr 1
      funext next
      exact ih next

/-- **Which modules a scan loads.** Whatever bytes the names in a directory are, a scan calls the
load function for the modules whose names are text, once for each and in their order, and for
nothing else. These are all the modules if the names of all of them are text, and otherwise they
are not: a module whose name is not text is passed over, and the scan then is, in what it answers,
does, leaves behind and writes to the log, the one of a directory without that module. -/
theorem legible_modules_called (directory : Path) (entries : List DirEntry)
    (buffer : Option Buffer) (load : Path → Action σ (Except PluginError Descriptor)) (s : σ) :
    let calls := ((scan directory (.ok entries) buffer (tracked load)).run (s, [])).state.2
    calls = (entries.filter (DirEntry.Legible ·)).filterMap (DirEntry.module? directory) ∧
      (calls = entries.filterMap (DirEntry.module? directory) ↔
        ∀ entry ∈ entries, ¬entry.PassedOver directory) ∧
      scan directory (.ok entries) buffer load =
        scan directory (.ok (entries.filter (¬·.PassedOver directory))) buffer load := by
  intro calls
  have called : calls = entries.filterMap (candidate? directory) :=
    congrArg Prod.snd (scan_tracked directory entries buffer load s)
  refine ⟨?_, ?_, ?_⟩
  · rw [called, candidates_legible]
  · rw [called, candidates_complete_iff]
  · rw [scan, visitAll_others]
    rfl

/-- Of two files whose names end in the suffix, one name has a byte that is in no text. A scan
loads the other file, notes that it does not load, and neither loads the first nor notes it. -/
theorem illegible_module_passed_over :
    let shelf : Path := ⟨[0x64]⟩
    let entries : List DirEntry :=
      [.named [0xFF, 0x2E, 0x73, 0x6F] (.ok .file), .named [0x62, 0x2E, 0x73, 0x6F] (.ok .file)]
    let load : Path → Action Unit (Except PluginError Descriptor) :=
      fun _ => pure (.error .notLoaded)
    entries.filterMap (DirEntry.module? shelf) =
        [⟨[0x64, 0x2F, 0xFF, 0x2E, 0x73, 0x6F]⟩, ⟨[0x64, 0x2F, 0x62, 0x2E, 0x73, 0x6F]⟩] ∧
      ((scan shelf (.ok entries) none (tracked load)).run ((), [])).state.2 =
        [⟨[0x64, 0x2F, 0x62, 0x2E, 0x73, 0x6F]⟩] ∧
      ((scan shelf (.ok entries) none load).run ()).events =
        [.notice (.skipped ⟨[0x64, 0x2F, 0x62, 0x2E, 0x73, 0x6F]⟩ .notLoaded),
          .notice (.scanned 0 shelf)] := by
  intro shelf entries load
  have broken : isModuleName [0xFF, 0x2E, 0x73, 0x6F] = false := by decide +kernel
  have plain : isModuleName [0x62, 0x2E, 0x73, 0x6F] = true := by decide +kernel
  refine ⟨by decide +kernel, by decide +kernel, ?_⟩
  simp only [entries, scan, visitAll, visit, broken, plain, Bool.and_false, Bool.and_true,
    Bool.false_eq_true, ↓reduceIte]
  rfl

end Scan
end CodecHost
