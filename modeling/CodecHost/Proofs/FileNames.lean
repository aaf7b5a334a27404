import CodecHost.Path
import Mathlib.Data.List.TakeWhile

/-! What a path says about the file at its end. Slashes and `/.` behind the last component say
nothing, so that it is found however many of them there are. The extension of a name stands behind
its last dot, if there is something in front of that dot. -/
namespace CodecHost.Path

/-- The byte in front of an extension. A component of this byte alone says nothing, and one of two
climbs to the parent directory. -/
def dot : UInt8 := 0x2E

/-- Bytes that say nothing at the end of a path: slashes and `/.`, as many as there are. -/
inductive Trailing : Bytes → Prop where
  | none : Trailing []
  | slash {rest : Bytes} : Trailing rest → Trailing (separator :: rest)
  | slashDot {rest : Bytes} : Trailing rest → Trailing (separator :: dot :: rest)

/-- The bytes of a path, taken apart: what stands up to a slash, one component behind it, and bytes
that say nothing. -/
structure Apart (bytes front name tail : Bytes) : Prop where
  whole : bytes = front ++ (name ++ tail)
  begins : front = [] ∨ front.getLast? = some separator
  free : separator ∉ name
  trailing : Trailing tail

/-- The component says where the path leads. -/
def Telling (name : Bytes) : Prop := name ≠ [] ∧ name ≠ [dot]

instance : DecidablePred Telling := fun _ => inferInstanceAs (Decidable (_ ∧ _))

/-- The last component of the path is `name`, once slashes and `/.` at its end are dropped. -/
def EndsIn (p : Path) (name : Bytes) : Prop :=
  Telling name ∧ ∃ front tail, Apart p.bytes front name tail

/-- The last component of the path is not `..`, and `ext` stands in it behind a dot that is its last
and that has something in front. -/
def HasExtension (p : Path) (ext : Bytes) : Prop :=
  dot ∉ ext ∧ ∃ stem, stem ≠ [] ∧ p.EndsIn (stem ++ dot :: ext) ∧ stem ++ dot :: ext ≠ [dot, dot]

variable {p : Path} {bytes front name tail ext : Bytes}

/-! ### Components -/

theorem components_append (front back : Bytes) :
    components ⟨front ++ separator :: back⟩ = components ⟨front⟩ ++ components ⟨back⟩ := by
  simp only [components, Bytes.splitOn_append, List.filter_append]

/-- Without a slash there is one component, if it says anything. -/
theorem components_free (free : separator ∉ name) :
    components ⟨name⟩ = if Telling name then [name] else [] := by
  simp only [components, Bytes.splitOn_free free, List.filter_cons, List.filter_nil,
    decide_eq_true_eq]
  rfl

theorem components_nil : components ⟨[]⟩ = [] := rfl

theorem components_dot : components ⟨[dot]⟩ = [] := by decide

theorem components_trailing (front : Bytes) (trailing : Trailing tail) :
    components ⟨front ++ tail⟩ = components ⟨front⟩ := by
  -- What is in front changes on the way: behind a slash it is nothing, or the dot.
  induction trailing generalizing front with
  | none => rw [List.append_nil]
  | slash rest ih =>
    have nothing := ih []
    rw [List.nil_append] at nothing
    rw [components_append, nothing, components_nil, List.append_nil]
  | slashDot rest ih =>
    have alone := ih [dot]
    rw [List.singleton_append] at alone
    rw [components_append, alone, components_dot, List.append_nil]

/-- The component of a path that is taken apart comes last. -/
theorem Apart.components (apart : Apart p.bytes front name tail) :
    ∃ before, p.components = before ++ (if Telling name then [name] else []) ∧
      (front = [] → before = []) := by
  obtain ⟨whole, begins, free, trailing⟩ := apart
  have ends : Path.components ⟨name ++ tail⟩ = if Telling name then [name] else [] := by
    rw [components_trailing name trailing, components_free free]
  have split : p.components = Path.components ⟨front ++ (name ++ tail)⟩ := by rw [← whole]
  rcases begins with rfl | slash
  · exact ⟨[], by rw [split, List.nil_append, ends, List.nil_append], fun _ => rfl⟩
  · obtain ⟨before, rfl⟩ := List.getLast?_eq_some_iff.mp slash
    refine ⟨Path.components ⟨before⟩, ?_, by simp⟩
    rw [split, List.append_assoc, List.singleton_append, components_append, ends]

/-- Every path can be taken apart at the last component that says something, or at the front if
none does. -/
theorem exists_apart (bytes : Bytes) :
    ∃ front name tail, Apart bytes front name tail ∧ (front = [] ∨ Telling name) := by
  induction bytes with
  | nil => exact ⟨[], [], [], ⟨rfl, .inl rfl, List.not_mem_nil, .none⟩, .inl rfl⟩
  | cons b rest ih =>
    obtain ⟨front, name, tail, ⟨rfl, begins, free, trailing⟩, known⟩ := ih
    by_cases slash : b = separator
    · subst slash
      by_cases telling : Telling name
      · -- The slash belongs to what stands in front of the component.
        refine ⟨separator :: front, name, tail, ⟨rfl, .inr ?_, free, trailing⟩, .inr telling⟩
        rcases begins with rfl | ends
        · rfl
        · rw [List.getLast?_cons, ends, Option.getD_some]
      · -- Nothing has been said so far, and the slash says nothing either.
        obtain rfl : front = [] := known.resolve_right telling
        refine ⟨[], [], separator :: (name ++ tail),
          ⟨rfl, .inl rfl, List.not_mem_nil, ?_⟩, .inl rfl⟩
        obtain rfl | rfl : name = [] ∨ name = [dot] := by
          simpa only [Telling, ne_eq, not_and_or, not_not] using telling
        · exact .slash trailing
        · exact .slashDot trailing
    · rcases front with _ | ⟨first, others⟩
      · have free : separator ∉ b :: name :=
          List.not_mem_cons_of_ne_of_not_mem (Ne.symm slash) free
        exact ⟨[], b :: name, tail, ⟨rfl, .inl rfl, free, trailing⟩, .inl rfl⟩
      · have ends := begins.resolve_left (List.cons_ne_nil _ _)
        refine ⟨b :: first :: others, name, tail, ⟨rfl, .inr ?_, free, trailing⟩,
          .inr (known.resolve_left (List.cons_ne_nil _ _))⟩
        rw [List.getLast?_cons, ends, Option.getD_some]

/-- The last component is the last of the components that say something. -/
theorem endsIn_iff : p.EndsIn name ↔ p.components.getLast? = some name := by
  constructor
  · rintro ⟨telling, front, tail, apart⟩
    obtain ⟨before, split, _⟩ := apart.components
    rw [split, if_pos telling, List.getLast?_concat]
  · intro last
    obtain ⟨front, other, tail, apart, known⟩ := exists_apart p.bytes
    obtain ⟨before, split, alone⟩ := apart.components
    by_cases telling : Telling other
    · rw [split, if_pos telling, List.getLast?_concat] at last
      obtain rfl := Option.some.inj last
      exact ⟨telling, front, tail, apart⟩
    · rw [split, if_neg telling, alone (known.resolve_right telling)] at last
      cases last

theorem fileName?_eq_some_iff : p.fileName? = some name ↔ p.EndsIn name ∧ name ≠ [dot, dot] := by
  rw [endsIn_iff, fileName?]
  cases p.components.getLast? with
  | none => simp
  | some last =>
    by_cases climbs : last = [0x2E, 0x2E]
    · simp only [climbs, ↓reduceIte, Option.some.injEq, reduceCtorEq, false_iff, not_and, not_not]
      exact Eq.symm
    · simp only [climbs, ↓reduceIte, Option.some.injEq, iff_self_and]
      rintro rfl
      exact climbs

/-! ### Extensions -/

/-- What is found stands behind the last dot, which is the first one from the end. -/
theorem extension?_split (named : p.fileName? = some name) (found : p.extension? = some ext) :
    ∃ stem, name = stem ++ dot :: ext ∧ stem ≠ [] ∧ dot ∉ ext := by
  simp only [extension?, named, Option.bind_eq_bind, Option.bind_some] at found
  split at found
  · cases found
  · cases found
  · next b c rest behind =>
    obtain rfl := Option.some.inj found
    have stops := List.head?_dropWhile_not (· ≠ 0x2E) name.reverse
    rw [behind] at stops
    obtain rfl : b = dot := by simpa [dot] using stops
    have backwards : name.reverse.takeWhile (· ≠ 0x2E) ++ dot :: c :: rest = name.reverse := by
      rw [← behind, List.takeWhile_append_dropWhile]
    have whole := List.reverse_eq_iff.mp backwards.symm
    rw [List.reverse_append, List.reverse_cons, List.append_assoc, List.singleton_append] at whole
    refine ⟨(c :: rest).reverse, whole, by simp, ?_⟩
    intro inside
    have differs := List.mem_takeWhile_imp (List.mem_reverse.mp inside)
    simp [dot] at differs

/-- What stands behind the last dot is found, if something stands in front of that dot. -/
theorem extension?_append {stem : Bytes} (named : p.fileName? = some (stem ++ dot :: ext))
    (some : stem ≠ []) (free : dot ∉ ext) : p.extension? = .some ext := by
  have within : ∀ b ∈ ext.reverse, decide (b ≠ 0x2E) = true := by
    intro b member
    rw [decide_eq_true_eq]
    rintro rfl
    exact free (List.mem_reverse.mp member)
  have backwards : (stem ++ dot :: ext).reverse = ext.reverse ++ dot :: stem.reverse := by simp
  obtain ⟨last, front, turned⟩ := List.exists_cons_of_ne_nil (List.reverse_ne_nil_iff.mpr some)
  simp only [extension?, named, Option.bind_eq_bind, Option.bind_some]
  rw [backwards, turned, List.dropWhile_append_of_pos within, List.takeWhile_append_of_pos within]
  simp [dot]

theorem extension?_eq_some_iff : p.extension? = some ext ↔ p.HasExtension ext := by
  constructor
  · intro found
    cases named : p.fileName? with
    | none => simp [extension?, named] at found
    | some name =>
      obtain ⟨stem, rfl, some, free⟩ := extension?_split named found
      exact ⟨free, stem, some, fileName?_eq_some_iff.mp named⟩
  · rintro ⟨free, stem, some, named⟩
    exact extension?_append (fileName?_eq_some_iff.mpr named) some free

/-- A path has one extension at most. -/
theorem HasExtension.unique {other : Bytes} (stands : p.HasExtension ext)
    (again : p.HasExtension other) : ext = other :=
  Option.some.inj
    ((extension?_eq_some_iff.mpr stands).symm.trans (extension?_eq_some_iff.mpr again))

end CodecHost.Path
