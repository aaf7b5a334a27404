import CodecHost.Text.Utf8
import Mathlib.Data.List.Basic

/-! Reading bytes as text and writing text as bytes are inverse to each other. No byte is lost
in the pieces, whether it belongs to a character or to a broken part, and the bytes of a text are
read as that text. So bytes can be read if they are the bytes of a text, and not otherwise. -/
namespace CodecHost.Utf8

/-! ### The bytes of a character, by the size of its code point -/

section Encoding

variable {v : Nat}

theorem toNat_ofNat (valid : v.isValidChar) : (Char.ofNat v).val.toNat = v := by
  rw [Char.ofNat, dif_pos valid]
  rfl

theorem toNat_byte (small : v < 0x100) : (UInt8.ofNat v).toNat = v :=
  UInt8.toNat_ofNat_of_lt' small

theorem ofNat_eq {b : UInt8} (same : v = b.toNat) : UInt8.ofNat v = b := by
  rw [same, UInt8.ofNat_toNat]

theorem encode_one (small : v < 0x80) :
    String.utf8EncodeChar (Char.ofNat v) = [UInt8.ofNat v] := by
  have value : (Char.ofNat v).val.toNat = v := toNat_ofNat (.inl (by omega))
  unfold String.utf8EncodeChar
  simp only [value]
  rw [if_pos (by omega)]

theorem encode_two (low : 0x80 ≤ v) (high : v < 0x800) :
    String.utf8EncodeChar (Char.ofNat v) =
      [UInt8.ofNat (v / 64 + 0xC0), UInt8.ofNat (v % 64 + 0x80)] := by
  have value : (Char.ofNat v).val.toNat = v := toNat_ofNat (.inl (by omega))
  unfold String.utf8EncodeChar
  simp only [value]
  rw [if_neg (by omega), if_pos (by omega), Nat.mod_eq_of_lt (a := v / 64) (by omega)]

theorem encode_three (low : 0x800 ≤ v) (high : v < 0x10000) (valid : v.isValidChar) :
    String.utf8EncodeChar (Char.ofNat v) =
      [UInt8.ofNat (v / 4096 + 0xE0), UInt8.ofNat (v / 64 % 64 + 0x80),
        UInt8.ofNat (v % 64 + 0x80)] := by
  have value : (Char.ofNat v).val.toNat = v := toNat_ofNat valid
  unfold String.utf8EncodeChar
  simp only [value]
  rw [if_neg (by omega), if_neg (by omega), if_pos (by omega),
    Nat.mod_eq_of_lt (a := v / 4096) (by omega)]

theorem encode_four (low : 0x10000 ≤ v) (high : v < 0x110000) :
    String.utf8EncodeChar (Char.ofNat v) =
      [UInt8.ofNat (v / 262144 + 0xF0), UInt8.ofNat (v / 4096 % 64 + 0x80),
        UInt8.ofNat (v / 64 % 64 + 0x80), UInt8.ofNat (v % 64 + 0x80)] := by
  have value : (Char.ofNat v).val.toNat = v := toNat_ofNat (.inr ⟨by omega, by omega⟩)
  unfold String.utf8EncodeChar
  simp only [value]
  rw [if_neg (by omega), if_neg (by omega), if_neg (by omega),
    Nat.mod_eq_of_lt (a := v / 262144) (by omega)]

end Encoding

/-! ### What a byte starts, by the range it lies in -/

section Starts

variable {b second : UInt8}

theorem start_one (high : b.toNat < 0x80) : start b = .char (Char.ofNat b.toNat) := by
  have small : b < 0x80 := UInt8.lt_iff_toNat_lt.mpr high
  rw [start, if_pos small]

theorem start_two (low : 0xC2 ≤ b.toNat) (high : b.toNat < 0xE0) :
    start b = .pending ⟨[b], b.toNat - 0xC0, 0x80, 0xBF, 1⟩ := by
  unfold start
  simp only [UInt8.lt_iff_toNat_lt, UInt8.reduceToNat]
  rw [if_neg (by omega), if_neg (by omega), if_pos high]

theorem start_three (low : 0xE0 ≤ b.toNat) (high : b.toNat < 0xF0) :
    start b = .pending ⟨[b], b.toNat - 0xE0, if b.toNat = 0xE0 then 0xA0 else 0x80,
      if b.toNat = 0xED then 0x9F else 0xBF, 2⟩ := by
  unfold start
  simp only [UInt8.lt_iff_toNat_lt, ← UInt8.toNat_inj, UInt8.reduceToNat]
  rw [if_neg (by omega), if_neg (by omega), if_neg (by omega)]
  by_cases first : b.toNat = 0xE0
  · simp [first]
  · by_cases surrogate : b.toNat = 0xED
    · simp [surrogate]
    · simp only [first, surrogate, high, ↓reduceIte]

theorem start_four (low : 0xF0 ≤ b.toNat) (high : b.toNat < 0xF5) :
    start b = .pending ⟨[b], b.toNat - 0xF0, if b.toNat = 0xF0 then 0x90 else 0x80,
      if b.toNat = 0xF4 then 0x8F else 0xBF, 3⟩ := by
  unfold start
  simp only [UInt8.lt_iff_toNat_lt, ← UInt8.toNat_inj, UInt8.reduceToNat]
  rw [if_neg (by omega), if_neg (by omega), if_neg (by omega), if_neg (by omega),
    if_neg (by omega), if_neg (by omega)]
  by_cases first : b.toNat = 0xF0
  · simp [first]
  · by_cases last : b.toNat = 0xF4
    · simp [last]
    · have inside : b.toNat < 0xF4 := by omega
      simp only [first, last, inside, ↓reduceIte]

theorem start_broken (low : 0x80 ≤ b.toNat) (stray : b.toNat < 0xC2 ∨ 0xF5 ≤ b.toNat) :
    start b = .broken b := by
  unfold start
  simp only [UInt8.lt_iff_toNat_lt, ← UInt8.toNat_inj, UInt8.reduceToNat]
  rw [if_neg (by omega)]
  obtain few | many := stray
  · rw [if_pos few]
  · repeat rw [if_neg (by omega)]

/-- Every byte starts something. -/
inductive Started (b : UInt8) : Start → Prop where
  | one (high : b.toNat < 0x80) : Started b (.char (Char.ofNat b.toNat))
  | two (low : 0xC2 ≤ b.toNat) (high : b.toNat < 0xE0) :
      Started b (.pending ⟨[b], b.toNat - 0xC0, 0x80, 0xBF, 1⟩)
  | three (low : 0xE0 ≤ b.toNat) (high : b.toNat < 0xF0) :
      Started b (.pending ⟨[b], b.toNat - 0xE0, if b.toNat = 0xE0 then 0xA0 else 0x80,
        if b.toNat = 0xED then 0x9F else 0xBF, 2⟩)
  | four (low : 0xF0 ≤ b.toNat) (high : b.toNat < 0xF5) :
      Started b (.pending ⟨[b], b.toNat - 0xF0, if b.toNat = 0xF0 then 0x90 else 0x80,
        if b.toNat = 0xF4 then 0x8F else 0xBF, 3⟩)
  | broken : Started b (.broken b)

theorem start_ends (b : UInt8) : Started b (start b) := by
  by_cases one : b.toNat < 0x80
  · rw [start_one one]
    exact .one one
  by_cases stray : b.toNat < 0xC2 ∨ 0xF5 ≤ b.toNat
  · rw [start_broken (Nat.le_of_not_lt one) stray]
    exact .broken
  by_cases two : b.toNat < 0xE0
  · rw [start_two (by omega) two]
    exact .two (by omega) two
  by_cases three : b.toNat < 0xF0
  · rw [start_three (by omega) three]
    exact .three (by omega) three
  · rw [start_four (by omega) (by omega)]
    exact .four (by omega) (by omega)

theorem accepts_iff {p : Pending} :
    p.accepts b ↔ p.low.toNat ≤ b.toNat ∧ b.toNat ≤ p.high.toNat := by
  simp only [Pending.accepts, Bool.and_eq_true, decide_eq_true_eq, UInt8.le_iff_toNat_le]

/-- The second of three bytes: neither an overlong form nor a surrogate. -/
theorem accepts_second_of_three {v n : Nat} {held : Bytes} :
    Pending.accepts ⟨held, v, if b.toNat = 0xE0 then 0xA0 else 0x80,
        if b.toNat = 0xED then 0x9F else 0xBF, n⟩ second ↔
      (0x80 ≤ second.toNat ∧ second.toNat ≤ 0xBF) ∧
        (b.toNat = 0xE0 → 0xA0 ≤ second.toNat) ∧ (b.toNat = 0xED → second.toNat ≤ 0x9F) := by
  rw [accepts_iff]
  by_cases first : b.toNat = 0xE0
  · have whole : ¬b.toNat = 0xED := by omega
    simp only [if_pos first, if_neg whole, UInt8.reduceToNat]
    omega
  · by_cases surrogate : b.toNat = 0xED
    · simp only [if_neg first, if_pos surrogate, UInt8.reduceToNat]
      omega
    · simp only [if_neg first, if_neg surrogate, UInt8.reduceToNat]
      omega

/-- The second of four bytes: neither an overlong form nor past the last code point. -/
theorem accepts_second_of_four {v n : Nat} {held : Bytes} :
    Pending.accepts ⟨held, v, if b.toNat = 0xF0 then 0x90 else 0x80,
        if b.toNat = 0xF4 then 0x8F else 0xBF, n⟩ second ↔
      (0x80 ≤ second.toNat ∧ second.toNat ≤ 0xBF) ∧
        (b.toNat = 0xF0 → 0x90 ≤ second.toNat) ∧ (b.toNat = 0xF4 → second.toNat ≤ 0x8F) := by
  rw [accepts_iff]
  by_cases first : b.toNat = 0xF0
  · have inside : ¬b.toNat = 0xF4 := by omega
    simp only [if_pos first, if_neg inside, UInt8.reduceToNat]
    omega
  · by_cases last : b.toNat = 0xF4
    · simp only [if_neg first, if_pos last, UInt8.reduceToNat]
      omega
    · simp only [if_neg first, if_neg last, UInt8.reduceToNat]
      omega

/-- Every byte behind the second lies in the same range. -/
theorem accepts_extend {p : Pending} :
    (p.extend second).accepts b ↔ 0x80 ≤ b.toNat ∧ b.toNat ≤ 0xBF := by
  rw [accepts_iff]
  rfl

end Starts

/-! ### One more byte -/

section Steps

variable {p : Pending} {b second third fourth : UInt8}

/-- A byte that does not continue the pending character is read as if nothing were pending. -/
theorem piecesFrom_refused (refused : ¬p.accepts b) (rest : Bytes) :
    piecesFrom (some p) (b :: rest) = .broken p.held :: piecesFrom none (b :: rest) := by
  simp only [piecesFrom, if_neg refused]

/-- A byte that continues the pending character and does not complete it. -/
theorem piecesFrom_extend (fits : p.accepts b) (more : 2 ≤ p.missing) (rest : Bytes) :
    piecesFrom (some p) (b :: rest) = piecesFrom (some (p.extend b)) rest := by
  have left : (p.extend b).missing ≠ 0 := by
    simp only [Pending.extend]
    omega
  simp only [piecesFrom, if_pos fits, if_neg left]

/-- The byte that completes the pending character. -/
theorem piecesFrom_complete (fits : p.accepts b) (missing : p.missing = 1) (rest : Bytes) :
    piecesFrom (some p) (b :: rest) =
      .char (Char.ofNat (p.extend b).value) :: piecesFrom none rest := by
  have left : (p.extend b).missing = 0 := by simp only [Pending.extend, missing]
  simp only [piecesFrom, if_pos fits, if_pos left]

/-- The last two bytes of a character. -/
theorem piecesFrom_two (fits : p.accepts second)
    (follows : 0x80 ≤ third.toNat ∧ third.toNat ≤ 0xBF) (missing : p.missing = 2) (rest : Bytes) :
    piecesFrom (some p) (second :: third :: rest) =
      .char (Char.ofNat ((p.extend second).extend third).value) :: piecesFrom none rest := by
  have left : (p.extend second).missing = 1 := by simp only [Pending.extend, missing]
  rw [piecesFrom_extend fits (by omega), piecesFrom_complete (accepts_extend.mpr follows) left]

/-- The last three bytes of a character. -/
theorem piecesFrom_three (fits : p.accepts second)
    (follows : 0x80 ≤ third.toNat ∧ third.toNat ≤ 0xBF)
    (ends : 0x80 ≤ fourth.toNat ∧ fourth.toNat ≤ 0xBF) (missing : p.missing = 3) (rest : Bytes) :
    piecesFrom (some p) (second :: third :: fourth :: rest) =
      .char (Char.ofNat (((p.extend second).extend third).extend fourth).value) ::
        piecesFrom none rest := by
  have left : (p.extend second).missing = 2 := by simp only [Pending.extend, missing]
  rw [piecesFrom_extend fits (by omega), piecesFrom_two (accepts_extend.mpr follows) ends left]

end Steps

/-! ### No byte is lost -/

/-- The bytes that a piece stands for. -/
def Piece.bytes : Piece → Bytes
  | .char c => String.utf8EncodeChar c
  | .broken bytes => bytes

/-- With that many more bytes in place, whichever they are, the character that results has the
bytes that are held. -/
def Pending.Completes : Nat → Pending → Prop
  | 0, p => String.utf8EncodeChar (Char.ofNat p.value) = p.held
  | more + 1, p => p.missing = more + 1 ∧ ∀ b, p.accepts b → Completes more (p.extend b)

/-- A character under way that will turn out to have the bytes that were read for it. -/
def Pending.Sound (p : Pending) : Prop := ∃ more, p.Completes (more + 1)

theorem start_sound {b : UInt8} {p : Pending} (begun : start b = .pending p) :
    p.held = [b] ∧ p.Sound := by
  have ends := start_ends b
  rw [begun] at ends
  cases ends with
  | two low high =>
    refine ⟨rfl, 0, rfl, fun second fits => ?_⟩
    have range : 0x80 ≤ second.toNat ∧ second.toNat ≤ 0xBF := accepts_iff.mp fits
    simp only [Pending.Completes, Pending.extend]
    rw [encode_two (by omega) (by omega), ofNat_eq (b := b) (by omega),
      ofNat_eq (b := second) (by omega)]
    rfl
  | three low high =>
    refine ⟨rfl, 1, rfl, fun second fits => ⟨rfl, fun third follows => ?_⟩⟩
    have range := accepts_second_of_three.mp fits
    have tail := accepts_extend.mp follows
    simp only [Pending.Completes, Pending.extend]
    rw [encode_three (by omega) (by omega) (by unfold Nat.isValidChar; omega),
      ofNat_eq (b := b) (by omega), ofNat_eq (b := second) (by omega),
      ofNat_eq (b := third) (by omega)]
    rfl
  | four low high =>
    refine ⟨rfl, 2, rfl, fun second fits =>
      ⟨rfl, fun third follows => ⟨rfl, fun fourth ends => ?_⟩⟩⟩
    have range := accepts_second_of_four.mp fits
    have tail := accepts_extend.mp follows
    have last := accepts_extend.mp ends
    simp only [Pending.Completes, Pending.extend]
    rw [encode_four (by omega) (by omega), ofNat_eq (b := b) (by omega),
      ofNat_eq (b := second) (by omega), ofNat_eq (b := third) (by omega),
      ofNat_eq (b := fourth) (by omega)]
    rfl

/-- A byte with nothing pending is the first one of what it starts. -/
theorem fresh_bytes {b : UInt8} {rest : Bytes}
    (others : ∀ pending : Option Pending, (∀ p ∈ pending, p.Sound) →
      (piecesFrom pending rest).flatMap Piece.bytes = pending.elim [] Pending.held ++ rest) :
    (piecesFrom none (b :: rest)).flatMap Piece.bytes = b :: rest := by
  have behind : (piecesFrom none rest).flatMap Piece.bytes = rest := others none (by simp)
  rw [piecesFrom]
  have ends := start_ends b
  cases begun : start b with
  | char c =>
    rw [begun] at ends
    cases ends with
    | one high =>
      rw [List.flatMap_cons, behind, Piece.bytes, encode_one high, UInt8.ofNat_toNat]
      rfl
  | pending p =>
    obtain ⟨held, sound⟩ := start_sound begun
    have read := others (some p) (by rintro _ ⟨⟩; exact sound)
    rw [Option.elim_some, held] at read
    exact read
  | broken bad =>
    rw [begun] at ends
    cases ends with
    | broken =>
      rw [List.flatMap_cons, behind]
      rfl

/-- Every byte belongs to exactly one piece. -/
theorem piecesFrom_bytes (pending : Option Pending) (bytes : Bytes)
    (sound : ∀ p ∈ pending, p.Sound) :
    (piecesFrom pending bytes).flatMap Piece.bytes = pending.elim [] Pending.held ++ bytes := by
  -- What is pending stays sound while it grows, so that its bytes count once, whether it becomes
  -- a character or breaks off.
  induction bytes generalizing pending with
  | nil =>
    cases pending with
    | none => rfl
    | some p =>
      rw [piecesFrom, List.append_nil, List.flatMap_singleton]
      rfl
  | cons b rest ih =>
    cases pending with
    | none => exact fresh_bytes ih
    | some p =>
      obtain ⟨left, missing, completes⟩ := sound p rfl
      rw [Option.elim_some]
      by_cases fits : p.accepts b
      · have completes := completes b fits
        cases left with
        | zero =>
          rw [piecesFrom_complete fits missing, List.flatMap_cons, ih none (by simp), Piece.bytes,
            completes]
          simp only [Pending.extend, Option.elim_none, List.nil_append, List.append_assoc,
            List.singleton_append]
        | succ left =>
          rw [piecesFrom_extend fits (by omega), ih _ (by rintro _ ⟨⟩; exact ⟨left, completes⟩)]
          simp only [Pending.extend, Option.elim_some, List.append_assoc, List.singleton_append]
      · rw [piecesFrom_refused fits, List.flatMap_cons, fresh_bytes ih]
        rfl

theorem pieces_bytes (bytes : Bytes) : (pieces bytes).flatMap Piece.bytes = bytes := by
  rw [pieces, piecesFrom_bytes none bytes (by simp)]
  rfl

/-! ### Characters are read back -/

section Reading

variable {v : Nat}

theorem read_two (low : 0x80 ≤ v) (high : v < 0x800) (rest : Bytes) :
    piecesFrom none (String.utf8EncodeChar (Char.ofNat v) ++ rest) =
      .char (Char.ofNat v) :: piecesFrom none rest := by
  have first := toNat_byte (v := v / 64 + 0xC0) (by omega)
  have second := toNat_byte (v := v % 64 + 0x80) (by omega)
  have value : (v / 64 + 0xC0 - 0xC0) * 64 + (v % 64 + 0x80 - 0x80) = v := by omega
  rw [encode_two low high, List.cons_append, piecesFrom, start_two (by omega) (by omega)]
  simp only [List.cons_append, List.nil_append]
  rw [piecesFrom_complete (accepts_iff.mpr (by simp only [UInt8.reduceToNat]; omega)) rfl]
  simp only [Pending.extend, first, second, value]

theorem read_three (low : 0x800 ≤ v) (high : v < 0x10000) (valid : v.isValidChar) (rest : Bytes) :
    piecesFrom none (String.utf8EncodeChar (Char.ofNat v) ++ rest) =
      .char (Char.ofNat v) :: piecesFrom none rest := by
  have first := toNat_byte (v := v / 4096 + 0xE0) (by omega)
  have second := toNat_byte (v := v / 64 % 64 + 0x80) (by omega)
  have third := toNat_byte (v := v % 64 + 0x80) (by omega)
  have value : ((v / 4096 + 0xE0 - 0xE0) * 64 + (v / 64 % 64 + 0x80 - 0x80)) * 64 +
      (v % 64 + 0x80 - 0x80) = v := by omega
  have whole : v < 0xD800 ∨ 0xDFFF < v := valid.imp_right And.left
  rw [encode_three low high valid, List.cons_append, piecesFrom,
    start_three (by omega) (by omega)]
  simp only [List.cons_append, List.nil_append]
  rw [piecesFrom_two (accepts_second_of_three.mpr (by omega)) (by omega) rfl]
  simp only [Pending.extend, first, second, third, value]

theorem read_four (low : 0x10000 ≤ v) (high : v < 0x110000) (rest : Bytes) :
    piecesFrom none (String.utf8EncodeChar (Char.ofNat v) ++ rest) =
      .char (Char.ofNat v) :: piecesFrom none rest := by
  have first := toNat_byte (v := v / 262144 + 0xF0) (by omega)
  have second := toNat_byte (v := v / 4096 % 64 + 0x80) (by omega)
  have third := toNat_byte (v := v / 64 % 64 + 0x80) (by omega)
  have fourth := toNat_byte (v := v % 64 + 0x80) (by omega)
  have value : (((v / 262144 + 0xF0 - 0xF0) * 64 + (v / 4096 % 64 + 0x80 - 0x80)) * 64 +
      (v / 64 % 64 + 0x80 - 0x80)) * 64 + (v % 64 + 0x80 - 0x80) = v := by omega
  rw [encode_four low high, List.cons_append, piecesFrom, start_four (by omega) (by omega)]
  simp only [List.cons_append, List.nil_append]
  rw [piecesFrom_three (accepts_second_of_four.mpr (by omega)) (by omega) (by omega) rfl]
  simp only [Pending.extend, first, second, third, fourth, value]

end Reading

/-- The bytes of a character are read as that character. -/
theorem piecesFrom_char (c : Char) (rest : Bytes) :
    piecesFrom none (String.utf8EncodeChar c ++ rest) = .char c :: piecesFrom none rest := by
  obtain ⟨v, valid, rfl⟩ : ∃ v : Nat, v.isValidChar ∧ c = Char.ofNat v :=
    ⟨c.toNat, c.valid, (Char.ofNat_toNat c).symm⟩
  by_cases one : v < 0x80
  · have first : (UInt8.ofNat v).toNat = v := toNat_byte (by omega)
    rw [encode_one one, List.singleton_append, piecesFrom, start_one (by omega), first]
  by_cases two : v < 0x800
  · exact read_two (by omega) two rest
  by_cases three : v < 0x10000
  · exact read_three (by omega) three valid rest
  · refine read_four (by omega) ?_ rest
    obtain low | ⟨_, high⟩ := valid
    · omega
    · exact high

theorem pieces_chars (cs : List Char) :
    pieces (cs.flatMap String.utf8EncodeChar) = cs.map .char := by
  induction cs with
  | nil => rfl
  | cons c rest ih => rw [List.flatMap_cons, pieces, piecesFrom_char, ← pieces, ih, List.map_cons]

/-! ### Texts -/

/-- Pieces that are characters and nothing else. -/
theorem mapM_char? {ps : List Piece} {cs : List Char} :
    ps.mapM Piece.char? = some cs ↔ ps = cs.map .char := by
  induction ps generalizing cs with
  | nil => cases cs <;> simp
  | cons p rest ih =>
    cases p with
    | broken bad => cases cs <;> simp [Piece.char?]
    | char c =>
      rw [List.mapM_cons]
      cases cs <;> simp [Piece.char?, Option.bind_eq_some_iff, ih, and_comm]

theorem toList_loop (bytes : ByteArray) (i : Nat) (taken : List UInt8) :
    ByteArray.toList.loop bytes i taken = taken.reverse ++ bytes.data.toList.drop i := by
  fun_induction ByteArray.toList.loop bytes i taken with
  | case1 i taken inside ih =>
    have next : bytes.data.toList.drop i = bytes.get! i :: bytes.data.toList.drop (i + 1) := by
      rw [List.drop_eq_getElem_cons (by simpa using inside), ByteArray.get!, getElem!_pos]
      rfl
    rw [ih, next, List.reverse_cons, List.append_assoc, List.singleton_append]
  | case2 i taken outside =>
    rw [List.drop_eq_nil_of_le (by simpa using outside), List.append_nil]

/-- The bytes of a text are those of its characters. -/
theorem encode_chars (text : String) : encode text = text.toList.flatMap String.utf8EncodeChar := by
  rw [encode, String.toUTF8_eq_toByteArray, ← String.utf8Encode_toList, List.utf8Encode,
    ByteArray.toList, toList_loop, List.reverse_nil, List.drop_zero, List.nil_append,
    List.toList_data_toByteArray]

/-- Bytes are read as a text if they are the bytes of that text, and not otherwise. -/
theorem decode?_eq_some_iff {bytes : Bytes} {text : String} :
    decode? bytes = some text ↔ encode text = bytes := by
  rw [decode?, Option.map_eq_some_iff, encode_chars]
  constructor
  · rintro ⟨cs, read, rfl⟩
    rw [String.toList_ofList, ← pieces_bytes bytes, mapM_char?.mp read, List.flatMap_map]
    rfl
  · rintro rfl
    exact ⟨text.toList, mapM_char?.mpr (pieces_chars text.toList), String.ofList_toList⟩

end CodecHost.Utf8

namespace CodecHost.Bytes

/-- The bytes are those of a text. -/
def IsText (bytes : Bytes) : Prop := ∃ text, Utf8.encode text = bytes

theorem isText_iff {bytes : Bytes} : bytes.IsText ↔ (Utf8.decode? bytes).isSome := by
  simp only [IsText, Option.isSome_iff_exists, Utf8.decode?_eq_some_iff]

instance : DecidablePred IsText := fun _ => decidable_of_iff' _ isText_iff

end CodecHost.Bytes
