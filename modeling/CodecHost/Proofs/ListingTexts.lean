import CodecHost.Report
import Mathlib

/-! What can be read out of a listing. A name may hold anything but a line break, also text that
looks like what stands around it. The number in front of a name ends at the first blank, and the
numbers behind it are found from the end of the line, so that whatever is left between them is the
name. -/
namespace CodecHost.Report

/-! ### Where a run of characters ends -/

section Runs

variable {α : Type} {p : α → Prop} {run other rest later : List α} {x y : α}

/-- Two runs of one kind, each with something else behind it, are one run. -/
theorem run_unique (within : ∀ c ∈ run, p c) (otherWithin : ∀ c ∈ other, p c) (ends : ¬ p x)
    (otherEnds : ¬ p y) (same : run ++ x :: rest = other ++ y :: later) :
    run = other ∧ x :: rest = y :: later := by
  induction run generalizing other with
  | nil =>
    cases other with
    | nil => exact ⟨rfl, same⟩
    | cons c others =>
      obtain ⟨rfl, _⟩ := List.cons.inj same
      exact absurd (otherWithin x List.mem_cons_self) ends
  | cons c others ih =>
    cases other with
    | nil =>
      obtain ⟨rfl, _⟩ := List.cons.inj same
      exact absurd (within c List.mem_cons_self) otherEnds
    | cons d more =>
      obtain ⟨rfl, behind⟩ := List.cons.inj same
      obtain ⟨rfl, last⟩ := ih (fun e member => within e (List.mem_cons_of_mem _ member))
        (fun e member => otherWithin e (List.mem_cons_of_mem _ member)) behind
      exact ⟨rfl, last⟩

/-- So are two runs that stand at the end. -/
theorem last_run_unique (within : ∀ c ∈ run, p c) (otherWithin : ∀ c ∈ other, p c) (ends : ¬ p x)
    (otherEnds : ¬ p y) (same : rest ++ x :: run = later ++ y :: other) :
    run = other ∧ rest ++ [x] = later ++ [y] := by
  have backwards := congrArg List.reverse same
  simp only [List.reverse_append, List.reverse_cons, List.append_assoc, List.singleton_append]
    at backwards
  obtain ⟨runs, fronts⟩ := run_unique (p := p) (by simpa using within) (by simpa using otherWithin)
    ends otherEnds backwards
  refine ⟨List.reverse_injective runs, List.reverse_injective ?_⟩
  simpa using fronts

end Runs

/-! ### Lines -/

/-- Lines one after the other, each ended by a line break. -/
def unlines (lines : List (List Char)) : List Char := lines.flatMap (· ++ ['\n'])

/-- The lines are known from the text when there is no line break inside of them. -/
theorem unlines_injective {lines others : List (List Char)} (single : ∀ line ∈ lines, '\n' ∉ line)
    (otherSingle : ∀ line ∈ others, '\n' ∉ line) (same : unlines lines = unlines others) :
    lines = others := by
  induction lines generalizing others with
  | nil =>
    cases others with
    | nil => rfl
    | cons line rest => simp [unlines] at same
  | cons line rest ih =>
    cases others with
    | nil => simp [unlines] at same
    | cons first more =>
      have joined : line ++ '\n' :: unlines rest = first ++ '\n' :: unlines more := by
        simpa [unlines] using same
      have ends : ∀ {line : List Char}, '\n' ∉ line → ∀ c ∈ line, c ≠ '\n' :=
        fun free c member broken => free (broken ▸ member)
      obtain ⟨rfl, others⟩ := run_unique (p := (· ≠ '\n'))
        (ends (single line List.mem_cons_self)) (ends (otherSingle first List.mem_cons_self))
        (by simp) (by simp) joined
      obtain rfl := ih (fun line member => single line (List.mem_cons_of_mem _ member))
        (fun line member => otherSingle line (List.mem_cons_of_mem _ member))
        (List.cons.inj others).2
      rfl

/-! ### Numbers -/

/-- A character that can stand in a number. -/
def Numeric (c : Char) : Prop := c = '-' ∨ c.isDigit = true

/-- The characters of a number. -/
def numeral (n : Int32) : List Char := (toString n).toList

theorem numeric_repr (n : Nat) : ∀ c ∈ n.repr.toList, c.isDigit = true := by
  intro c member
  rw [Nat.toList_repr] at member
  exact Nat.isDigit_of_mem_toDigits (by omega) (by omega) member

theorem numeric_numeral (n : Int32) : ∀ c ∈ numeral n, Numeric c := by
  intro c member
  have shown : (toString n).toList = n.toInt.repr.toList := rfl
  rw [numeral, shown, Int.repr_eq_if] at member
  split at member
  · exact .inr (numeric_repr _ c member)
  · rw [String.toList_append] at member
    rcases List.mem_append.mp member with sign | digit
    · exact .inl (by simpa using sign)
    · exact .inr (numeric_repr _ c digit)

theorem numeral_injective {n k : Int32} (same : numeral n = numeral k) : n = k := by
  have texts : n.toInt.repr = k.toInt.repr := String.toList_inj.mp same
  exact Int32.toInt_inj.mp (Int.repr_inj.mp texts)

theorem numeral_ne_nil (n : Int32) : numeral n ≠ [] := by
  have shown : numeral n = n.toInt.repr.toList := rfl
  rw [shown, Int.repr_eq_if]
  split <;> simp

theorem not_numeric {c : Char} (sign : c ≠ '-') (digit : c.isDigit = false) : ¬ Numeric c := by
  rintro (same | same)
  · exact sign same
  · rw [digit] at same
    cases same

/-- A number at the end is known from the text when something else stands before it. -/
theorem last_numeral_unique (stop : Char) (ends : ¬ Numeric stop) {front other : List Char}
    {n k : Int32} (same : front ++ stop :: numeral n = other ++ stop :: numeral k) :
    front = other ∧ n = k := by
  obtain ⟨numbers, fronts⟩ :=
    last_run_unique (numeric_numeral n) (numeric_numeral k) ends ends same
  exact ⟨List.append_cancel_right fronts, numeral_injective numbers⟩

/-- A number behind blanks is known from the text when a blank stands behind it. -/
theorem first_numeral_unique {pad width : Nat} {n k : Int32} {rest later : List Char}
    (same : List.replicate pad ' ' ++ (numeral n ++ ' ' :: rest) =
      List.replicate width ' ' ++ (numeral k ++ ' ' :: later)) : n = k ∧ rest = later := by
  have blank : ¬ Numeric ' ' := not_numeric (by decide) (by decide)
  have starts : ∀ n : Int32, ∃ c digits, numeral n = c :: digits ∧ c ≠ ' ' := by
    intro n
    obtain ⟨c, digits, shown⟩ := List.exists_cons_of_ne_nil (numeral_ne_nil n)
    have numeric : Numeric c := numeric_numeral n c (by rw [shown]; exact List.mem_cons_self)
    exact ⟨c, digits, shown, fun same => blank (same ▸ numeric)⟩
  obtain ⟨c, digits, shown, first⟩ := starts n
  obtain ⟨d, others, otherShown, otherFirst⟩ := starts k
  have blanks : ∀ m, ∀ c ∈ List.replicate m ' ', c = ' ' := fun m c => List.eq_of_mem_replicate
  rw [shown, otherShown, List.cons_append, List.cons_append] at same
  obtain ⟨_, same⟩ := run_unique (p := (· = ' ')) (blanks pad) (blanks width) first otherFirst same
  rw [← List.cons_append, ← List.cons_append, ← shown, ← otherShown] at same
  obtain ⟨numbers, rests⟩ := run_unique (numeric_numeral n) (numeric_numeral k) blank blank same
  exact ⟨numeral_injective numbers, (List.cons.inj rests).2⟩

/-! ### The lines of plugins -/

/-- What the listing shows of an encoder. -/
@[ext] structure EncoderShown where
  priority : Int32
  name : String
  format : Int32
  apiVersion : Int32

def EncoderShown.of (table : EncoderTable) : EncoderShown :=
  ⟨table.priority, table.name, table.format, table.apiVersion⟩

/-- What the listing shows of a decoder. -/
@[ext] structure DecoderShown where
  name : String
  apiVersion : Int32

def DecoderShown.of (table : DecoderTable) : DecoderShown := ⟨table.name, table.apiVersion⟩

/-- The line of an encoder. The number in front is moved to the right by blanks. -/
def EncoderShown.line (e : EncoderShown) : List Char :=
  List.replicate (2 + (4 - (toString e.priority).length)) ' ' ++
    (numeral e.priority ++ ' ' :: ' ' :: (e.name.toList ++ " (format".toList ++
      ' ' :: numeral e.format ++ ", API ".toList ++ 'v' :: numeral e.apiVersion ++ [')']))

def DecoderShown.line (d : DecoderShown) : List Char :=
  List.replicate 8 ' ' ++
    (d.name.toList ++ " (API ".toList ++ 'v' :: numeral d.apiVersion ++ [')'])

theorem EncoderShown.line_injective {e f : EncoderShown} (same : e.line = f.line) : e = f := by
  obtain ⟨priority, same⟩ := first_numeral_unique same
  have same := List.append_cancel_right (List.cons.inj same).2
  obtain ⟨same, version⟩ :=
    last_numeral_unique 'v' (not_numeric (by decide) (by decide)) same
  obtain ⟨same, format⟩ := last_numeral_unique ' '
    (not_numeric (by decide) (by decide)) (List.append_cancel_right same)
  have name : e.name = f.name := String.toList_inj.mp (List.append_cancel_right same)
  exact EncoderShown.ext priority name format version

theorem DecoderShown.line_injective {d e : DecoderShown} (same : d.line = e.line) : d = e := by
  have same := List.append_cancel_right (List.append_cancel_left same)
  obtain ⟨same, version⟩ :=
    last_numeral_unique 'v' (not_numeric (by decide) (by decide)) same
  have name : d.name = e.name := String.toList_inj.mp (List.append_cancel_right same)
  exact DecoderShown.ext name version

theorem encoderLine_shown (t : EncoderTable) :
    (encoderLine t).toList = (EncoderShown.of t).line ++ ['\n'] := by
  have written : encoderLine t =
      "  " ++ alignRight 4 (toString t.priority) ++ "  " ++ t.name ++ " (format " ++
        toString t.format ++ ", API v" ++ toString t.apiVersion ++ ")\n" := rfl
  simp [written, EncoderShown.line, EncoderShown.of, alignRight, numeral, List.replicate_add]

theorem decoderLine_shown (t : DecoderTable) :
    (decoderLine t).toList = (DecoderShown.of t).line ++ ['\n'] := by
  have written : decoderLine t =
      "        " ++ t.name ++ " (API v" ++ toString t.apiVersion ++ ")\n" := rfl
  simp [written, DecoderShown.line, DecoderShown.of, numeral, List.replicate]

theorem numeral_single (n : Int32) : '\n' ∉ numeral n := fun member =>
  not_numeric (by decide) (by decide) (numeric_numeral n '\n' member)

theorem EncoderShown.line_single {e : EncoderShown} (single : '\n' ∉ e.name.toList) :
    '\n' ∉ e.line := by
  simp [EncoderShown.line, numeral_single, single]

theorem DecoderShown.line_single {d : DecoderShown} (single : '\n' ∉ d.name.toList) :
    '\n' ∉ d.line := by
  simp [DecoderShown.line, numeral_single, single]

/-! ### The listing -/

/-- The line that says how many plugins of a kind follow. -/
def countLine (n : Nat) (kind : String) : List Char := n.repr.toList ++ kind.toList

theorem countLine_injective {n k : Nat} {kind : String}
    (same : countLine n kind = countLine k kind) : n = k :=
  Nat.repr_inj.mp (String.toList_inj.mp (List.append_cancel_right same))

theorem countLine_single {kind : String} (n : Nat) (single : '\n' ∉ kind.toList) :
    '\n' ∉ countLine n kind := by
  intro member
  rcases List.mem_append.mp member with digit | word
  · exact absurd (numeric_repr n '\n' digit) (by decide)
  · exact single word

/-- The lines of the listing. -/
def listingLines (encoders : List EncoderShown) (decoders : List DecoderShown) :
    List (List Char) :=
  countLine encoders.length " encoders" :: encoders.map EncoderShown.line ++
    countLine decoders.length " decoders" :: decoders.map DecoderShown.line

theorem listing_lines (encoders : List EncoderTable) (decoders : List DecoderTable) :
    (listing encoders decoders).toList =
      unlines (listingLines (encoders.map .of) (decoders.map .of)) := by
  have written : listing encoders decoders =
      encoders.length.repr ++ " encoders\n" ++ String.join (encoders.map encoderLine) ++
        (decoders.length.repr ++ " decoders\n") ++ String.join (decoders.map decoderLine) := rfl
  simp [written, unlines, listingLines, countLine, List.flatMap_map, encoderLine_shown,
    decoderLine_shown]

/-- What is shown is known from the lines. -/
theorem listingLines_injective {encoders others : List EncoderShown}
    {decoders more : List DecoderShown}
    (same : listingLines encoders decoders = listingLines others more) :
    encoders = others ∧ decoders = more := by
  obtain ⟨count, same⟩ := List.cons.inj same
  have many : encoders.length = others.length := countLine_injective count
  -- The counts in front tell how many lines are those of encoders.
  obtain ⟨encoderLines, same⟩ := List.append_inj same (by simp [many])
  obtain ⟨_, decoderLines⟩ := List.cons.inj same
  exact ⟨List.map_injective_iff.mpr (fun _ _ => EncoderShown.line_injective) encoderLines,
    List.map_injective_iff.mpr (fun _ _ => DecoderShown.line_injective) decoderLines⟩

theorem listingLines_single {encoders : List EncoderTable} {decoders : List DecoderTable}
    (encodersNamed : ∀ t ∈ encoders, '\n' ∉ t.name.toList)
    (decodersNamed : ∀ t ∈ decoders, '\n' ∉ t.name.toList) :
    ∀ line ∈ listingLines (encoders.map .of) (decoders.map .of), '\n' ∉ line := by
  intro line member
  rcases List.mem_append.mp member with member | member
  · rcases List.mem_cons.mp member with rfl | member
    · exact countLine_single _ (by decide)
    · obtain ⟨_, listed, rfl⟩ := List.mem_map.mp member
      obtain ⟨t, there, rfl⟩ := List.mem_map.mp listed
      exact EncoderShown.line_single (encodersNamed t there)
  · rcases List.mem_cons.mp member with rfl | member
    · exact countLine_single _ (by decide)
    · obtain ⟨_, listed, rfl⟩ := List.mem_map.mp member
      obtain ⟨t, there, rfl⟩ := List.mem_map.mp listed
      exact DecoderShown.line_single (decodersNamed t there)

/-- **A listing can be read one way only.** As long as no name has a line break in it, two listings
are the same text just when they show the same: as many encoders and decoders, and position by
position the same priority, name, format and API version of the encoders and the same name and API
version of the decoders. -/
theorem listing_read_one_way {encoders others : List EncoderTable}
    {decoders more : List DecoderTable}
    (encodersNamed : ∀ t ∈ encoders ++ others, '\n' ∉ t.name.toList)
    (decodersNamed : ∀ t ∈ decoders ++ more, '\n' ∉ t.name.toList) :
    listing encoders decoders = listing others more ↔
      encoders.map EncoderShown.of = others.map EncoderShown.of ∧
        decoders.map DecoderShown.of = more.map DecoderShown.of := by
  rw [← String.toList_inj, listing_lines, listing_lines]
  constructor
  · intro same
    obtain ⟨named, otherNamed⟩ := List.forall_mem_append.mp encodersNamed
    obtain ⟨decodersNamed, moreNamed⟩ := List.forall_mem_append.mp decodersNamed
    exact listingLines_injective (unlines_injective (listingLines_single named decodersNamed)
      (listingLines_single otherNamed moreNamed) same)
  · rintro ⟨encodersShown, decodersShown⟩
    rw [encodersShown, decodersShown]

/-- An encoder whose name looks like the end of its line. -/
def imitator (idName reportedName : Option Bytes) : EncoderTable :=
  ⟨2, 7, idName, -3, reportedName, true, false⟩

/-- The name is `a (format 7, API v2)`. -/
def imitation : Bytes :=
  [97, 32, 40, 102, 111, 114, 109, 97, 116, 32, 55, 44, 32, 65, 80, 73, 32, 118, 50, 41]

/-- A listing does not show where a name comes from, and it shows nothing else instead. -/
theorem imitation_read_one_way :
    listing [imitator (some imitation) none] [] = listing [imitator none (some imitation)] [] ∧
      listing [imitator (some imitation) none] [] ≠ listing [imitator (some [97]) none] [] := by
  have same : listing [imitator (some imitation) none] [] =
      listing [imitator none (some imitation)] [] ↔ _ :=
    listing_read_one_way (by decide +kernel) (by simp)
  have differ : listing [imitator (some imitation) none] [] =
      listing [imitator (some [97]) none] [] ↔ _ :=
    listing_read_one_way (by decide +kernel) (by simp)
  refine ⟨same.mpr ⟨rfl, rfl⟩, fun text => ?_⟩
  have names := congrArg (List.map EncoderShown.name) (differ.mp text).1
  exact absurd names (by decide +kernel)

end CodecHost.Report
