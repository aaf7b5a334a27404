import CodecHost.Proofs.TextBytes
import CodecHost.Text.LowerCase

/-! Which texts have a given word for their lower case. Past ASCII there is one character whose
lower case is in ASCII altogether: the Kelvin sign, whose small letter is k. A word of ASCII
without a k is therefore the lower case of a text only if the text is ASCII too, and then it can
be read off the bytes one by one. The form of a final sigma makes no difference. -/
namespace CodecHost

/-- The byte with an ASCII capital made small. -/
def Bytes.lower (b : UInt8) : UInt8 := if 0x41 ≤ b ∧ b ≤ 0x5A then b + 0x20 else b

namespace LowerCase

/-! ### ASCII -/

abbrev InAscii (c : Char) : Prop := c.toNat < 0x80

/-- The one byte of an ASCII character. -/
def byteOf (c : Char) : UInt8 := UInt8.ofNat c.toNat

/-- The character of a byte, if the byte is one of ASCII. -/
def charOf (b : UInt8) : Char := Char.ofNat b.toNat

section Ascii

variable {c : Char} {cs : List Char} {t : String}

theorem ascii_all {P : Char → Prop} (all : ∀ v < 0x80, P (Char.ofNat v)) (ascii : InAscii c) :
    P c := by
  have holds := all c.toNat ascii
  rwa [Char.ofNat_toNat] at holds

theorem toNat_byteOf (ascii : InAscii c) : (byteOf c).toNat = c.toNat := Utf8.toNat_byte (by omega)

theorem charOf_byteOf (ascii : InAscii c) : charOf (byteOf c) = c := by
  rw [charOf, toNat_byteOf ascii, Char.ofNat_toNat]

theorem toNat_charOf (b : UInt8) : (charOf b).toNat = b.toNat :=
  Utf8.toNat_ofNat (.inl (by have := b.toNat_lt; omega))

theorem byteOf_charOf (b : UInt8) : byteOf (charOf b) = b := by
  rw [byteOf, toNat_charOf, UInt8.ofNat_toNat]

theorem low_of_lower {b : UInt8} (low : (Bytes.lower b).toNat < 0x80) : b.toNat < 0x80 := by
  rw [Bytes.lower] at low
  split at low
  · next capital =>
    have last := UInt8.le_iff_toNat_le.mp capital.2
    exact Nat.lt_of_le_of_lt last (by decide)
  · exact low

/-- Both ways to make an ASCII letter small agree. -/
theorem lower_byteOf (ascii : InAscii c) : Bytes.lower (byteOf c) = byteOf c.toLower :=
  ascii_all (P := fun c => Bytes.lower (byteOf c) = byteOf c.toLower) (by decide) ascii

theorem toLower_ascii (ascii : InAscii c) : InAscii c.toLower :=
  ascii_all (P := fun c => InAscii c.toLower) (by decide) ascii

/-- An ASCII text has one byte for each character. -/
theorem encode_ascii (ascii : ∀ c ∈ cs, InAscii c) :
    Utf8.encode (String.ofList cs) = cs.map byteOf := by
  rw [Utf8.encode_chars, String.toList_ofList]
  induction cs with
  | nil => rfl
  | cons c rest ih =>
    have single := Utf8.encode_one (ascii c List.mem_cons_self)
    rw [Char.ofNat_toNat] at single
    rw [List.flatMap_cons, single, ih fun d member => ascii d (List.mem_cons_of_mem c member)]
    rfl

/-- Two ASCII texts with the same bytes are the same. -/
theorem map_byteOf_inj {others : List Char} (ascii : ∀ c ∈ cs, InAscii c)
    (othersAscii : ∀ c ∈ others, InAscii c) (same : cs.map byteOf = others.map byteOf) :
    cs = others := by
  have back : ∀ {cs : List Char}, (∀ c ∈ cs, InAscii c) → (cs.map byteOf).map charOf = cs := by
    intro cs ascii
    have same := List.map_congr_left fun c member => charOf_byteOf (ascii c member)
    rw [List.map_map]
    exact same.trans (List.map_id cs)
  rw [← back ascii, same, back othersAscii]

/-- Bytes below `0x80` are those of an ASCII text. -/
theorem low_bytes {bytes : Bytes} (low : ∀ b ∈ bytes, b.toNat < 0x80) :
    ∃ cs, (∀ c ∈ cs, InAscii c) ∧ Utf8.encode (String.ofList cs) = bytes := by
  have ascii : ∀ c ∈ bytes.map charOf, InAscii c := by
    intro c member
    obtain ⟨b, inside, rfl⟩ := List.mem_map.mp member
    rw [InAscii, toNat_charOf]
    exact low b inside
  refine ⟨bytes.map charOf, ascii, ?_⟩
  rw [encode_ascii ascii, List.map_map]
  exact List.map_id'' byteOf_charOf bytes

/-- A text whose bytes are all below `0x80` is ASCII, as the bytes are read as one text only. -/
theorem ascii_of_low (low : ∀ b ∈ Utf8.encode t, b.toNat < 0x80) : ∀ c ∈ t.toList, InAscii c := by
  obtain ⟨cs, ascii, bytes⟩ := low_bytes low
  have read := (Utf8.decode?_eq_some_iff.mpr bytes).symm.trans (Utf8.decode?_eq_some_iff.mpr rfl)
  rw [← Option.some.inj read, String.toList_ofList]
  exact ascii

end Ascii

/-! ### Past ASCII -/

/-- An ASCII character other than k. -/
def Plain (c : Char) : Prop := InAscii c ∧ c ≠ 'k'

instance : DecidablePred Plain := fun _ => inferInstanceAs (Decidable (_ ∧ _))

/-- The small letters of every stretch are characters, and they are past ASCII, except for the k
that belongs to the Kelvin sign. -/
theorem capitals_sound : ∀ s ∈ capitals,
    (s.letter s.last < 0xD800 ∨ 0xE000 ≤ s.small ∧ s.letter s.last < 0x110000) ∧
      (0x80 ≤ s.small ∨ s.first = s.last ∧ s.small = 0x6B) := by
  decide +kernel

variable {c : Char} {cs small : List Char}

theorem letter_past (past : ¬InAscii c) : ¬Plain (letter c) := by
  rw [letter, if_neg past]
  split
  · next s found =>
    have held : s.contains c.toNat = true := by simpa using List.find?_some found
    simp only [Stretch.contains, Bool.and_eq_true, decide_eq_true_eq] at held
    obtain ⟨⟨first, last⟩, _⟩ := held
    obtain ⟨valid, past | kelvin⟩ := capitals_sound s (List.mem_of_find?_eq_some found)
    · -- A code point that is no character would turn into the zero of ASCII.
      have code : (Char.ofNat (s.letter c.toNat)).toNat = s.letter c.toNat := by
        apply Utf8.toNat_ofNat
        simp only [Nat.isValidChar, Stretch.letter] at valid ⊢
        omega
      rintro ⟨ascii, _⟩
      rw [InAscii, code, Stretch.letter] at ascii
      omega
    · have code : s.letter c.toNat = 0x6B := by
        rw [Stretch.letter]
        omega
      rw [code]
      exact fun plain => plain.2 rfl
  · exact fun plain => past plain.1

/-- A character past ASCII has something in its lower case that is not plain. -/
theorem char_past (past : ¬InAscii c) : ∃ d ∈ char c, ¬Plain d := by
  rw [char]
  split
  · exact ⟨'\u0307', by simp, fun plain => absurd plain.1 (by decide)⟩
  · exact ⟨letter c, List.mem_singleton_self _, letter_past past⟩

theorem char_ascii (ascii : InAscii c) : char c = [c.toLower] := by
  have single : c ≠ '\u0130' := by
    rintro rfl
    exact absurd ascii (by decide)
  rw [char, if_neg single, letter, if_pos ascii]

/-- A lower case of a text, in which a capital sigma has one of its two small forms. -/
inductive Lowers : List Char → List Char → Prop where
  | nil : Lowers [] []
  | char {cs small : List Char} (c : Char) : Lowers cs small → Lowers (c :: cs) (char c ++ small)
  | finalSigma {cs small : List Char} : Lowers cs small → Lowers ('Σ' :: cs) ('ς' :: small)

theorem lowers_flatMap (cs : List Char) : Lowers cs (cs.flatMap char) := by
  induction cs with
  | nil => exact .nil
  | cons c rest ih => exact .char c ih

theorem Lowers.of_ascii (lowers : Lowers cs small) (ascii : ∀ c ∈ cs, InAscii c) :
    small = cs.map Char.toLower := by
  induction lowers with
  | nil => rfl
  | char c _ ih =>
    rw [List.forall_mem_cons] at ascii
    rw [char_ascii ascii.1, ih ascii.2]
    rfl
  | finalSigma => exact absurd (ascii 'Σ' List.mem_cons_self) (by decide)

/-- Only an ASCII text has a lower case of plain characters. -/
theorem Lowers.ascii (lowers : Lowers cs small) (plain : ∀ d ∈ small, Plain d) :
    ∀ c ∈ cs, InAscii c := by
  induction lowers with
  | nil => simp
  | char c _ ih =>
    rw [List.forall_mem_append] at plain
    rw [List.forall_mem_cons]
    refine ⟨?_, ih plain.2⟩
    by_contra past
    obtain ⟨d, inside, odd⟩ := char_past past
    exact odd (plain.1 d inside)
  | finalSigma => exact absurd (plain 'ς' List.mem_cons_self).1 (by decide)

theorem encode_plain {word : String} (plain : ∀ d ∈ word.toList, Plain d) :
    Utf8.encode word = word.toList.map byteOf := by
  rw [← encode_ascii fun d member => (plain d member).1, String.ofList_toList]

/-- Bytes that spell a plain word in either case are below `0x80`. -/
theorem low_of_spelled {word : String} {bytes : Bytes} (plain : ∀ d ∈ word.toList, Plain d)
    (spelled : bytes.map Bytes.lower = Utf8.encode word) : ∀ b ∈ bytes, b.toNat < 0x80 := by
  intro b member
  have inside : Bytes.lower b ∈ word.toList.map byteOf := by
    rw [← encode_plain plain, ← spelled]
    exact List.mem_map_of_mem member
  obtain ⟨d, known, same⟩ := List.mem_map.mp inside
  have ascii := (plain d known).1
  apply low_of_lower
  rw [← same, toNat_byteOf ascii]
  exact ascii

/-- The bytes of an ASCII text in lower case are the bytes of its lower case. -/
theorem lower_encode {t : String} (ascii : ∀ c ∈ t.toList, InAscii c) :
    (Utf8.encode t).map Bytes.lower = (t.toList.map Char.toLower).map byteOf := by
  have bytes := encode_ascii ascii
  rw [String.ofList_toList] at bytes
  rw [bytes, List.map_map, List.map_map]
  exact List.map_congr_left fun c member => lower_byteOf (ascii c member)

/-- A plain word is the lower case of a text if the bytes of the text spell it in either case, and
not otherwise. -/
theorem Lowers.word_iff {t word : String} (lowers : Lowers t.toList small)
    (plain : ∀ d ∈ word.toList, Plain d) :
    small = word.toList ↔ (Utf8.encode t).map Bytes.lower = Utf8.encode word := by
  constructor
  · rintro rfl
    have ascii := lowers.ascii plain
    rw [lower_encode ascii, encode_plain plain, lowers.of_ascii ascii]
  · intro spelled
    -- Only for an ASCII text is it known what its lower case is, so this has to come first.
    have ascii := ascii_of_low (low_of_spelled plain spelled)
    rw [lowers.of_ascii ascii]
    apply map_byteOf_inj _ fun d member => (plain d member).1
    · rw [← lower_encode ascii, spelled, encode_plain plain]
    · intro d member
      obtain ⟨c, inside, rfl⟩ := List.mem_map.mp member
      exact toLower_ascii (ascii c inside)

end LowerCase
end CodecHost
