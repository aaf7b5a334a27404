import CodecHost.Config.Reading
import CodecHost.Proofs.FileNames
import CodecHost.Proofs.LetterCase

/-! Which files are read as configurations, and what comes of reading them. The extension in the
path says so, whatever is in the file and whether or not it is there, and the file is opened only
if the extension is one that a format goes by. -/
namespace CodecHost

variable {p : Path} {format : ConfigFormat} {ext : Bytes} {t : String} {small : List Char}

namespace ConfigFormat

/-- The extensions of the files in a format. -/
def extensions : ConfigFormat → List String
  | json => ["json"]
  | yaml => ["yaml", "yml"]
  | toml => ["toml"]

/-- The bytes are an extension of the format, each letter in upper or lower case. -/
def Spelled (format : ConfigFormat) (ext : Bytes) : Prop :=
  ∃ word ∈ format.extensions, ext.map Bytes.lower = Utf8.encode word

theorem ofExtension?_eq_some_iff {word : String} :
    ofExtension? word = some format ↔ word ∈ format.extensions := by
  constructor
  · intro known
    unfold ofExtension? at known
    split at known <;> cases known <;> decide
  · intro known
    cases format with
    | json =>
      obtain rfl := List.mem_singleton.mp known
      rfl
    | yaml =>
      obtain rfl | rfl : word = "yaml" ∨ word = "yml" := by simpa [extensions] using known
      · rfl
      · rfl
    | toml =>
      obtain rfl := List.mem_singleton.mp known
      rfl

theorem extensions_plain : ∀ word ∈ format.extensions, ∀ d ∈ word.toList, LowerCase.Plain d := by
  have all : format.extensions.all (·.toList.all (LowerCase.Plain ·)) = true := by
    cases format <;> decide +kernel
  simpa only [List.all_eq_true, decide_eq_true_eq] using all

theorem Spelled.low (spelled : format.Spelled ext) : ∀ b ∈ ext, b.toNat < 0x80 := by
  obtain ⟨word, known, same⟩ := spelled
  exact LowerCase.low_of_spelled (extensions_plain word known) same

/-- A lower case of a text is an extension of the format if the bytes of the text spell one. -/
theorem ofExtension?_lowers (lowers : LowerCase.Lowers t.toList small) :
    ofExtension? (String.ofList small) = some format ↔ format.Spelled (Utf8.encode t) := by
  rw [ofExtension?_eq_some_iff]
  constructor
  · intro known
    have plain := extensions_plain _ known
    exact ⟨_, known, (lowers.word_iff plain).mp String.toList_ofList.symm⟩
  · rintro ⟨word, known, same⟩
    rw [(lowers.word_iff (extensions_plain word known)).mpr same, String.ofList_toList]
    exact known

theorem ofPath?_eq_some_iff :
    ofPath? p = some format ↔ ∃ ext, p.HasExtension ext ∧ format.Spelled ext := by
  simp only [ofPath?, Option.bind_eq_bind, Option.bind_eq_some_iff, Path.extension?_eq_some_iff,
    Utf8.decode?_eq_some_iff]
  have text : ∀ t, ofExtension? (LowerCase.text t) = some format ↔
      format.Spelled (Utf8.encode t) := fun t => ofExtension?_lowers (LowerCase.lowers_flatMap _)
  constructor
  · rintro ⟨ext, stands, t, rfl, known⟩
    exact ⟨_, stands, (text t).mp known⟩
  · rintro ⟨ext, stands, spelled⟩
    obtain ⟨cs, _, rfl⟩ := LowerCase.low_bytes spelled.low
    exact ⟨_, stands, _, rfl, (text _).mpr spelled⟩

theorem ofPath?_of_extension (stands : p.HasExtension ext) :
    ofPath? p = some format ↔ format.Spelled ext := by
  rw [ofPath?_eq_some_iff]
  constructor
  · rintro ⟨other, again, spelled⟩
    rwa [stands.unique again]
  · intro spelled
    exact ⟨ext, stands, spelled⟩

end ConfigFormat

namespace Config

variable {read : Path → Except IoError Bytes} {q : Path} {cause : IoError}

theorem readText_eq_ok_iff : readText read p = .ok t ↔ read p = .ok (Utf8.encode t) := by
  rw [readText]
  cases read p with
  | error cause => simp
  | ok bytes =>
    simp only [Except.ok.injEq]
    rw [eq_comm (a := bytes), ← Utf8.decode?_eq_some_iff]
    cases Utf8.decode? bytes <;> simp

theorem readText_eq_error_iff :
    readText read p = .error cause ↔
      read p = .error cause ∨ cause = .notText ∧ ∃ bytes, read p = .ok bytes ∧ ¬bytes.IsText := by
  rw [readText]
  cases read p with
  | error cause => simp
  | ok bytes =>
    simp only [reduceCtorEq, false_or, Except.ok.injEq, exists_eq_left', Bytes.isText_iff]
    cases Utf8.decode? bytes <;> simp [eq_comm]

/-- A text that is read is not refused for its path or for the file. -/
theorem parse_error {e : ConfigError} (failed : parse format t = .error e) :
    e = .malformed format.extension "" := by
  rw [parse] at failed
  split at failed
  · cases failed
  · exact (Except.error.inj failed).symm

theorem load_unsupported (unknown : ConfigFormat.ofPath? p = none) :
    load read p = .error (.unsupportedFormat p) := by
  rw [load, unknown]

theorem load_unreadable (known : ConfigFormat.ofPath? p = some format)
    (failed : readText read p = .error cause) : load read p = .error (.unreadable p cause) := by
  rw [load, known]
  simp only [failed]

theorem load_text (known : ConfigFormat.ofPath? p = some format)
    (text : readText read p = .ok t) : load read p = parse format t := by
  rw [load, known]
  simp only [text]

theorem load_unsupported_iff :
    load read p = .error (.unsupportedFormat q) ↔ q = p ∧ ConfigFormat.ofPath? p = none := by
  cases known : ConfigFormat.ofPath? p with
  | none => simp [load_unsupported known, eq_comm]
  | some format =>
    simp only [reduceCtorEq, and_false, iff_false]
    cases text : readText read p with
    | error cause => simp [load_unreadable known text]
    | ok t =>
      rw [load_text known text]
      intro failed
      cases parse_error failed

theorem load_unreadable_iff :
    load read p = .error (.unreadable q cause) ↔
      q = p ∧ ConfigFormat.ofPath? p ≠ none ∧ readText read p = .error cause := by
  cases known : ConfigFormat.ofPath? p with
  | none => simp [load_unsupported known]
  | some format =>
    cases text : readText read p with
    | error cause => simp [load_unreadable known text, eq_comm]
    | ok t =>
      simp only [reduceCtorEq, and_false, iff_false]
      rw [load_text known text]
      intro failed
      cases parse_error failed

/-- **Which files are read, and what comes of it.** The format is known by the path alone. It is
known if the last component, once slashes and `/.` behind it are dropped, is not `..` and ends in a
dot and one of the extensions of the format, each letter in upper or lower case, with something in
front of the dot. An extension with a byte past ASCII is none of them, whatever its lower case is,
and it makes no difference which small form a capital sigma takes. A path without a format is
refused, whether or not there is a file. With a format, the file is reported as unreadable if
reading it fails or gives what is not text, and otherwise the answer is what the whole text says in
that format. -/
theorem picked_by_extension (read : Path → Except IoError Bytes) (p : Path) :
    (∀ format, ConfigFormat.ofPath? p = some format ↔
      ∃ ext, p.HasExtension ext ∧ format.Spelled ext) ∧
    (∀ ext, p.HasExtension ext → (∃ b ∈ ext, 0x80 ≤ b) → ConfigFormat.ofPath? p = none) ∧
    (∀ t small, p.HasExtension (Utf8.encode t) → LowerCase.Lowers t.toList small →
      ConfigFormat.ofExtension? (String.ofList small) = ConfigFormat.ofPath? p) ∧
    (∀ q, load read p = .error (.unsupportedFormat q) ↔ q = p ∧ ConfigFormat.ofPath? p = none) ∧
    (∀ q cause, load read p = .error (.unreadable q cause) ↔
      q = p ∧ ConfigFormat.ofPath? p ≠ none ∧
        (read p = .error cause ∨
          cause = .notText ∧ ∃ bytes, read p = .ok bytes ∧ ¬bytes.IsText)) ∧
    ∀ format t, ConfigFormat.ofPath? p = some format → read p = .ok (Utf8.encode t) →
      load read p = parse format t := by
  refine ⟨fun _ => ConfigFormat.ofPath?_eq_some_iff, ?_, ?_, fun _ => load_unsupported_iff, ?_, ?_⟩
  · rintro ext stands ⟨b, inside, past⟩
    by_contra known
    obtain ⟨format, known⟩ := Option.ne_none_iff_exists'.mp known
    have low := ((ConfigFormat.ofPath?_of_extension stands).mp known).low b inside
    exact absurd (UInt8.le_iff_toNat_le.mp past) (Nat.not_le.mpr low)
  · intro t small stands lowers
    apply Option.ext
    intro format
    rw [ConfigFormat.ofExtension?_lowers lowers, ConfigFormat.ofPath?_of_extension stands]
  · intro q cause
    rw [load_unreadable_iff, readText_eq_error_iff]
  · intro format t known text
    exact load_text known (readText_eq_ok_iff.mpr text)

/-- A name that begins with a dot is read as YAML for its extension in mixed case, although `/./`
stands behind it, and no file is there. In the other name a long s stands for the s of an extension,
which is not among its lower case, so that the file is not looked for. -/
theorem mixed_case_picked :
    let mixed : Path := ⟨[0x64, 0x2F, 0x2E, 0x61, 0x2E, 0x59, 0x4D, 0x6C, 0x2F, 0x2E, 0x2F]⟩
    let long : Path := ⟨[0x61, 0x2E, 0x6A, 0xC5, 0xBF, 0x6F, 0x6E]⟩
    ConfigFormat.ofPath? mixed = some .yaml ∧
      load (fun _ => .error .notFound) mixed = .error (.unreadable mixed .notFound) ∧
      load (fun _ => .ok [0xFF]) mixed = .error (.unreadable mixed .notText) ∧
      load (fun _ => .ok []) mixed = parse .yaml "" ∧
      load (fun _ => .error .notFound) long = .error (.unsupportedFormat long) := by
  intro mixed long
  have stands : mixed.HasExtension [0x59, 0x4D, 0x6C] :=
    Path.extension?_eq_some_iff.mp (by decide +kernel)
  have odd : long.HasExtension [0x6A, 0xC5, 0xBF, 0x6F, 0x6E] :=
    Path.extension?_eq_some_iff.mp (by decide +kernel)
  obtain ⟨picks, _, _, _, absent, _⟩ := picked_by_extension (fun _ => .error .notFound) mixed
  obtain ⟨_, _, _, _, broken, _⟩ := picked_by_extension (fun _ => .ok [0xFF]) mixed
  obtain ⟨_, _, _, _, _, whole⟩ := picked_by_extension (fun _ => .ok []) mixed
  obtain ⟨_, past, _, refused, _, _⟩ := picked_by_extension (fun _ => .error .notFound) long
  have yaml : ConfigFormat.ofPath? mixed = some .yaml :=
    (picks .yaml).mpr ⟨_, stands, "yml", by decide, by decide +kernel⟩
  have known : ConfigFormat.ofPath? mixed ≠ none := by simp [yaml]
  refine ⟨yaml, ?_, ?_, ?_, ?_⟩
  · exact (absent mixed .notFound).mpr ⟨rfl, known, .inl rfl⟩
  · exact (broken mixed .notText).mpr ⟨rfl, known, .inr ⟨rfl, [0xFF], rfl, by decide +kernel⟩⟩
  · exact whole .yaml "" yaml (by decide +kernel)
  · exact (refused long).mpr ⟨rfl, past _ odd ⟨0xC5, by decide, by decide⟩⟩

end Config
end CodecHost
