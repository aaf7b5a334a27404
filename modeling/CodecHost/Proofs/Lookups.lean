import CodecHost.Proofs.RegistryOrder

/-! Looking a plugin up for a format finds the best that is registered. Encoders compete by
priority and decoders by how well they support the format. Of equals the encoder that was
registered first is found, and the decoder that was registered last: the encoders are searched
in the order of their list, and the decoders are compared one after the other, where the later
one wins. -/
namespace CodecHost.Registry

variable {m : Memory} {ops : List Operation} {r : Registry} {format : Int32} {e : Encoder}
  {d : Decoder} {p q : Plugin}

variable (m) in
/-- The latest effective registration of one table came before that of the other. -/
def RegisteredBefore (ops : List Operation) (p q : Plugin) : Prop :=
  ∃ i j, Latest m ops p i ∧ Latest m ops q j ∧ i < j

theorem RegisteredBefore.asymm (before : RegisteredBefore m ops p q) :
    ¬ RegisteredBefore m ops q p := by
  rintro ⟨j', i', second, first, later⟩
  obtain ⟨i, j, one, other, earlier⟩ := before
  rw [one.unique first, other.unique second] at earlier
  omega

/-- Tables that stand in one order on a roll were registered in that order. -/
theorem Roll.before {kind : Kind} {tables : List Plugin} (roll : Roll m ops kind tables)
    (order : [p, q].Sublist tables) : RegisteredBefore m ops p q :=
  List.pairwise_iff_forall_sublist.mp roll.ordered order

/-- The best one among those that are eligible: no other has a higher rank, and the others of its
rank yield to it. -/
structure Best {α : Type} (eligible : α → Prop) (rank : α → Int32) (yields : α → α → Prop)
    (best : α) : Prop where
  able : eligible best
  highest : ∀ other, eligible other → rank other ≤ rank best
  preferred : ∀ other, eligible other → rank other = rank best → other ≠ best → yields other best

/-- There is only one best when no two yield to each other. -/
theorem Best.unique {α : Type} {eligible : α → Prop} {rank : α → Int32} {yields : α → α → Prop}
    {a b : α} (one : Best eligible rank yields a) (other : Best eligible rank yields b)
    (asymm : ∀ {x y}, yields x y → ¬ yields y x) : a = b := by
  by_contra differ
  have equal : rank a = rank b :=
    Int32.le_antisymm (other.highest a one.able) (one.highest b other.able)
  apply asymm (other.preferred a one.able equal differ)
  exact one.preferred b other.able equal.symm (Ne.symm differ)

/-- A search that finds the best one when there is any to find finds nothing else. -/
theorem Best.found_iff {α : Type} {eligible : α → Prop} {rank : α → Int32}
    {yields : α → α → Prop} {found : Option α} (asymm : ∀ {x y}, yields x y → ¬ yields y x)
    (missing : found = none → ∀ x, ¬ eligible x)
    (best : ∀ x, found = some x → Best eligible rank yields x) (x : α) :
    found = some x ↔ Best eligible rank yields x := by
  constructor
  · exact best x
  · intro claimed
    cases answer : found with
    | none => exact absurd claimed.able (missing answer x)
    | some y => rw [(best y answer).unique claimed asymm]

/-! Encoders. -/

/-- The encoder is registered and writes the format. -/
def Writes (m : Memory) (r : Registry) (format : Int32) (e : Encoder) : Prop :=
  e ∈ r.encoders ∧ (m.encoder e).format = format

theorem findEncoder_none :
    r.findEncoder m format = none ↔ ∀ e ∈ r.encoders, (m.encoder e).format ≠ format := by
  simp [findEncoder]

/-- The first encoder of the format in a list in which each has its place is the best. -/
theorem findEncoder_best (inOrder : InOrder m ops r) (found : r.findEncoder m format = some e) :
    Best (Writes m r format) (fun e => (m.encoder e).priority)
      (fun other e => RegisteredBefore m ops (.encoder e) (.encoder other)) e := by
  obtain ⟨enrolled, roll, ranked⟩ := inOrder.encoders
  obtain ⟨writes, before, after, split, passed⟩ := List.find?_eq_some_iff_append.mp found
  have writes : (m.encoder e).format = format := of_decide_eq_true writes
  -- Whoever else writes the format stands behind the one that was found.
  have behind : ∀ other, Writes m r format other → other ≠ e →
      Precedes m enrolled e other := by
    rintro other ⟨listed, same⟩ differ
    have placed := ranked.placed
    rw [split] at listed placed
    rcases List.mem_append.mp listed with earlier | later
    · have unfit := passed other earlier
      simp [same] at unfit
    · have later := (List.mem_cons.mp later).resolve_left differ
      exact (List.pairwise_cons.mp (List.pairwise_append.mp placed).2.1).1 other later
  refine ⟨⟨by simp [split], writes⟩, ?_, ?_⟩
  · intro other may
    by_cases same : other = e
    · rw [same]
      exact Int32.le_refl _
    · exact of_decide_eq_true (behind other may same).1
  · intro other may equal differ
    apply roll.before
    have level : outranks m other e := decide_eq_true (Int32.le_of_eq equal.symm)
    simpa using ((behind other may differ).2 level).map Plugin.encoder

/-! Decoders. -/

/-- The decoder is registered and supports the format. -/
def Reads (m : Memory) (r : Registry) (format : Int32) (d : Decoder) : Prop :=
  d ∈ r.decoders ∧ 0 < (m.decoder d).supportLevel format

/-- What is chosen among decoders that are compared one after the other: none if none supports
the format, else one that supports it best, and of these the one that comes last. -/
inductive Chosen (m : Memory) (format : Int32) (compared : List Decoder) : Option Decoder → Prop
  where
  | nothing (useless : ∀ b ∈ compared, (m.decoder b).supportLevel format ≤ 0) :
      Chosen m format compared none
  | one {d : Decoder} (listed : d ∈ compared) (useful : 0 < (m.decoder d).supportLevel format)
      (highest : ∀ b ∈ compared,
        (m.decoder b).supportLevel format ≤ (m.decoder d).supportLevel format)
      (last : ∀ b ∈ compared, (m.decoder b).supportLevel format = (m.decoder d).supportLevel format →
        b ≠ d → [b, d].Sublist compared) :
      Chosen m format compared (some d)

theorem mem_compared {compared : List Decoder} {b d : Decoder} (listed : b ∈ compared ++ [d]) :
    b ∈ compared ∨ b = d := by
  simpa using listed

/-- The next decoder is chosen over all that support the format no better. -/
theorem Chosen.newest {compared : List Decoder} {d : Decoder}
    (useful : 0 < (m.decoder d).supportLevel format)
    (lower : ∀ b ∈ compared, (m.decoder b).supportLevel format ≤ (m.decoder d).supportLevel format) :
    Chosen m format (compared ++ [d]) (some d) := by
  refine .one (by simp) useful ?_ ?_
  · intro b listed
    rcases mem_compared listed with earlier | rfl
    · exact lower b earlier
    · exact Int32.le_refl _
  · intro b listed _ differ
    have earlier := (mem_compared listed).resolve_right differ
    exact (List.singleton_sublist.mpr earlier).append (List.Sublist.refl [d])

/-- The one chosen so far stays when the next supports the format less. -/
theorem Chosen.stays {compared : List Decoder} {b d : Decoder}
    (chosen : Chosen m format compared (some b))
    (below : (m.decoder d).supportLevel format < (m.decoder b).supportLevel format) :
    Chosen m format (compared ++ [d]) (some b) := by
  cases chosen with
  | one listed useful highest last =>
    refine .one (by simp [listed]) useful ?_ ?_
    · intro c there
      rcases mem_compared there with earlier | rfl
      · exact highest c earlier
      · exact Int32.le_of_lt below
    · intro c there equal differ
      rcases mem_compared there with earlier | rfl
      · exact (last c earlier equal differ).trans (List.sublist_append_left _ _)
      · exact absurd equal (Int32.ne_of_lt below)

/-- One more decoder is compared with the one chosen so far. -/
theorem Chosen.next {compared : List Decoder} {best : Option Decoder}
    (chosen : Chosen m format compared best) (d : Decoder) :
    Chosen m format (compared ++ [d]) (betterDecoder m format best d) := by
  unfold betterDecoder
  by_cases useful : 0 < (m.decoder d).supportLevel format
  · rw [if_pos useful]
    cases chosen with
    | nothing useless =>
      apply Chosen.newest useful
      intro b listed
      exact Int32.le_of_lt (Int32.lt_of_le_of_lt (useless b listed) useful)
    | @one b listed supported highest last =>
      simp only
      split
      · next better =>
        apply Chosen.newest useful
        intro c there
        exact Int32.le_trans (highest c there) better
      · next worse => exact (Chosen.one listed supported highest last).stays (Int32.not_le.mp worse)
  · rw [if_neg useful]
    have useless := Int32.not_lt.mp useful
    cases chosen with
    | nothing earlier =>
      apply Chosen.nothing
      intro b listed
      rcases mem_compared listed with there | rfl
      · exact earlier b there
      · exact useless
    | one listed supported highest last =>
      apply (Chosen.one listed supported highest last).stays
      exact Int32.lt_of_le_of_lt useless supported

/-- All decoders are compared. -/
theorem findDecoder_chosen (m : Memory) (r : Registry) (format : Int32) :
    Chosen m format r.decoders (r.findDecoder m format) := by
  unfold findDecoder
  induction r.decoders using List.reverseRecOn with
  | nil => exact .nothing nofun
  | append_singleton compared d ih =>
    rw [List.foldl_append]
    exact ih.next d

theorem findDecoder_none :
    r.findDecoder m format = none ↔
      ∀ d ∈ r.decoders, (m.decoder d).supportLevel format ≤ 0 := by
  have chosen := findDecoder_chosen m r format
  constructor
  · intro missing
    rw [missing] at chosen
    cases chosen with
    | nothing useless => exact useless
  · intro useless
    generalize r.findDecoder m format = found at chosen ⊢
    cases chosen with
    | nothing => rfl
    | one listed useful => exact absurd useful (Int32.not_lt.mpr (useless _ listed))

/-- The decoder that is chosen is the best, since the list is in the order of registration. -/
theorem findDecoder_best (inOrder : InOrder m ops r) (found : r.findDecoder m format = some d) :
    Best (Reads m r format) (fun d => (m.decoder d).supportLevel format)
      (fun other d => RegisteredBefore m ops (.decoder other) (.decoder d)) d := by
  have chosen := findDecoder_chosen m r format
  rw [found] at chosen
  cases chosen with
  | one listed useful highest last =>
    refine ⟨⟨listed, useful⟩, fun other may => highest other may.1, ?_⟩
    intro other may equal differ
    apply inOrder.decoders.before
    simpa using (last other may.1 equal differ).map Plugin.decoder

/-- **Looking up finds the best plugin.** Let any operations have been made on an empty registry.
No encoder is found for a format just when none that is registered writes it. Otherwise the one
that is found is of the highest priority among those that do, and of those of that priority it is
the one whose latest effective registration came first. No decoder is found just when none that
is registered has a support level above zero. Otherwise the one that is found has the highest
level, and of those with that level it is the one whose latest effective registration came
last. -/
theorem lookup_finds_best (m : Memory) (ops : List Operation) (format : Int32) :
    ((after m ops).findEncoder m format = none ↔
      ∀ e ∈ (after m ops).encoders, (m.encoder e).format ≠ format) ∧
    (∀ e, (after m ops).findEncoder m format = some e ↔
      Best (Writes m (after m ops) format) (fun e => (m.encoder e).priority)
        (fun other e => RegisteredBefore m ops (.encoder e) (.encoder other)) e) ∧
    ((after m ops).findDecoder m format = none ↔
      ∀ d ∈ (after m ops).decoders, (m.decoder d).supportLevel format ≤ 0) ∧
    ∀ d, (after m ops).findDecoder m format = some d ↔
      Best (Reads m (after m ops) format) (fun d => (m.decoder d).supportLevel format)
        (fun other d => RegisteredBefore m ops (.decoder other) (.decoder d)) d := by
  have inOrder : InOrder m ops (after m ops) := InOrder.empty.performAll ops
  refine ⟨findEncoder_none, ?_, findDecoder_none, ?_⟩
  · apply Best.found_iff RegisteredBefore.asymm
    · rintro missing e ⟨listed, writes⟩
      exact findEncoder_none.mp missing e listed writes
    · exact fun e => findEncoder_best inOrder
  · apply Best.found_iff RegisteredBefore.asymm
    · rintro missing d ⟨listed, useful⟩
      exact Int32.not_lt.mpr (findDecoder_none.mp missing d listed) useful
    · exact fun d => findDecoder_best inOrder

/-- Of two plugins that are equally good, the first encoder is found and the last decoder. -/
example :
    let m : Memory := ⟨fun _ => ⟨1, 0, none⟩, fun _ => ⟨1, 7, none, 5, none, true, true⟩,
      fun _ => ⟨1, none, fun _ => 100, true, true⟩⟩
    let r := after m [.registerTable (.encoder ⟨0⟩), .registerTable (.encoder ⟨1⟩),
      .registerTable (.decoder ⟨2⟩), .registerTable (.decoder ⟨3⟩)]
    r.findEncoder m 7 = some ⟨0⟩ ∧ r.findDecoder m 7 = some ⟨3⟩ := by
  decide

end CodecHost.Registry
