import CodecHost.Proofs.RegistryRuns
import Mathlib.Data.List.Induction
import Mathlib.Data.List.Nodup

/-! In which order the registry lists what is active. The past of a function table is read
off the operations alone: one of them brought it in, and none has taken it out since. The
decoders are listed in the order in which they last came in, and the encoders are what
sorting by priority makes of that order when it does not exchange equal ones. -/
namespace CodecHost

/-- The encoder that the function table is. -/
def Plugin.encoder? : Plugin → Option Encoder
  | encoder e => some e
  | decoder _ => none

/-- The decoder that the function table is. -/
def Plugin.decoder? : Plugin → Option Decoder
  | encoder _ => none
  | decoder d => some d

namespace Registry

variable {m : Memory} {d : Descriptor} {r : Registry} {p q : Plugin} {a b e : Encoder}
  {enrolled encoders : List Encoder} {op : Operation} {ops : List Operation} {kind : Kind}
  {tables : List Plugin} {n : Nat}

/-! Encoders in the places that their priorities give them. -/

/-- The order of the encoders, with the highest priority first. -/
def outranks (m : Memory) (a b : Encoder) : Bool := (m.encoder b).priority ≤ (m.encoder a).priority

theorem outranks_trans (a b c : Encoder) (first : outranks m a b) (second : outranks m b c) :
    outranks m a c :=
  decide_eq_true (Int32.le_trans (of_decide_eq_true second) (of_decide_eq_true first))

theorem outranks_total (a b : Encoder) : outranks m a b || outranks m b a := by
  simpa [outranks] using Int32.le_total ..

/-- An encoder has its place before another: its priority is higher, or it is as high and the
encoder was enrolled first. -/
def Precedes (m : Memory) (enrolled : List Encoder) (a b : Encoder) : Prop :=
  outranks m a b ∧ (outranks m b a → [a, b].Sublist enrolled)

/-- The encoders are those that were enrolled, each in its place. -/
structure Ranked (m : Memory) (enrolled encoders : List Encoder) : Prop where
  single : enrolled.Nodup
  perm : encoders.Perm enrolled
  placed : encoders.Pairwise (Precedes m enrolled)

/-- Two elements of a list without repetitions stand in one order only. -/
theorem pair_antisymm {α : Type} {l : List α} {a b : α} (single : l.Nodup)
    (forth : [a, b].Sublist l) (back : [b, a].Sublist l) : a = b := by
  induction single with
  | nil => cases forth
  | cons fresh _ ih =>
    cases forth with
    | cons _ forth =>
      cases back with
      | cons _ back => exact ih forth back
      | cons_cons => exact absurd rfl (fresh b (forth.subset (by simp)))
    | cons_cons _ forth =>
      cases back with
      | cons _ back => exact absurd rfl (fresh a (back.subset (by simp)))
      | cons_cons => rfl

/-- Two elements of a list stand in one order or the other. -/
theorem pair_total {α : Type} {l : List α} {a b : α} (one : a ∈ l) (other : b ∈ l) (ne : a ≠ b) :
    [a, b].Sublist l ∨ [b, a].Sublist l := by
  obtain ⟨before, after, rfl⟩ := List.append_of_mem one
  rcases List.mem_append.mp other with earlier | later
  · have front := List.singleton_sublist.mpr earlier
    exact .inr (front.append ((List.nil_sublist after).cons_cons a))
  · have back := (List.mem_cons.mp later).resolve_left ne.symm
    exact .inl (((List.singleton_sublist.mpr back).cons_cons a).trans
      (List.sublist_append_right before _))

/-- Each in its place can only be one list, and sorting without exchanging equal ones gives it. -/
theorem Ranked.eq_mergeSort (ranked : Ranked m enrolled encoders) :
    encoders = enrolled.mergeSort (outranks m) := by
  have sorted : (enrolled.mergeSort (outranks m)).Pairwise fun a b => outranks m a b :=
    List.pairwise_mergeSort outranks_trans outranks_total enrolled
  have singleSorted : (enrolled.mergeSort (outranks m)).Nodup :=
    (List.mergeSort_perm enrolled _).nodup_iff.mpr ranked.single
  have placed : (enrolled.mergeSort (outranks m)).Pairwise (Precedes m enrolled) := by
    rw [List.pairwise_iff_forall_sublist]
    intro a b order
    refine ⟨List.pairwise_iff_forall_sublist.mp sorted order, fun equal => ?_⟩
    have listed : ∀ x ∈ [a, b], x ∈ enrolled := fun x there =>
      (List.mergeSort_perm enrolled _).mem_iff.mp (order.subset there)
    have ne : a ≠ b := List.pairwise_iff_forall_sublist.mp singleSorted order
    refine (pair_total (listed a (by simp)) (listed b (by simp)) ne).resolve_right fun back => ?_
    exact ne (pair_antisymm singleSorted order
      (List.pair_sublist_mergeSort outranks_trans outranks_total equal back))
  refine List.Perm.eq_of_pairwise (fun a b _ _ forth back => ?_) ranked.placed placed
    (ranked.perm.trans (List.mergeSort_perm enrolled _).symm)
  exact pair_antisymm ranked.single (forth.2 back.1) (back.2 forth.1)

theorem Precedes.mono {longer : List Encoder} (precedes : Precedes m enrolled a b)
    (part : enrolled.Sublist longer) : Precedes m longer a b :=
  ⟨precedes.1, fun equal => (precedes.2 equal).trans part⟩

/-- A newcomer comes in where its priority says, and after those of the same priority. -/
theorem placed_insertEncoder (listed : ∀ x ∈ encoders, x ∈ enrolled)
    (placed : encoders.Pairwise (Precedes m enrolled)) :
    (insertEncoder m e encoders).Pairwise (Precedes m (enrolled ++ [e])) := by
  induction encoders with
  | nil => simp [insertEncoder]
  | cons first rest ih =>
    obtain ⟨ahead, placedRest⟩ := List.pairwise_cons.mp placed
    have longer : ∀ {a b}, Precedes m enrolled a b → Precedes m (enrolled ++ [e]) a b :=
      fun precedes => precedes.mono (List.sublist_append_left _ _)
    unfold insertEncoder
    split
    case isTrue lower =>
      refine List.pairwise_cons.mpr ⟨fun x there => ?_, placed.imp longer⟩
      have below : (m.encoder x).priority < (m.encoder e).priority := by
        rcases List.mem_cons.mp there with rfl | there
        · exact lower
        · exact Int32.lt_of_le_of_lt (of_decide_eq_true (ahead x there).1) lower
      refine ⟨decide_eq_true (Int32.le_of_lt below), fun equal => ?_⟩
      exact absurd below (Int32.not_lt.mpr (of_decide_eq_true equal))
    case isFalse notLower =>
      refine List.pairwise_cons.mpr ⟨fun x there => ?_, ih (fun x there => ?_) placedRest⟩
      · rcases List.mem_cons.mp ((insertEncoder_perm m e rest).mem_iff.mp there) with rfl | there
        · have before := List.singleton_sublist.mpr (listed first List.mem_cons_self)
          exact ⟨decide_eq_true (Int32.not_lt.mp notLower),
            fun _ => before.append (List.Sublist.refl [x])⟩
        · exact longer (ahead x there)
      · exact listed x (List.mem_cons_of_mem _ there)

/-- A newcomer gets its place. -/
theorem Ranked.enter (ranked : Ranked m enrolled encoders) (new : e ∉ enrolled) :
    Ranked m (enrolled ++ [e]) (insertEncoder m e encoders) where
  single := (List.perm_append_singleton e enrolled).nodup_iff.mpr (ranked.single.cons new)
  perm := (insertEncoder_perm m e encoders).trans
    ((ranked.perm.cons e).trans (List.perm_append_singleton e enrolled).symm)
  placed := placed_insertEncoder (fun _ => ranked.perm.mem_iff.mp) ranked.placed

/-- Who leaves does not change the places of the others. -/
theorem Ranked.filter (ranked : Ranked m enrolled encoders) (stays : Encoder → Bool) :
    Ranked m (enrolled.filter stays) (encoders.filter stays) where
  single := ranked.single.filter _
  perm := ranked.perm.filter _
  placed := by
    refine (ranked.placed.filter stays).imp_of_mem ?_
    intro a b staysA staysB precedes
    refine ⟨precedes.1, fun equal => ?_⟩
    have part := (precedes.2 equal).filter stays
    simpa [(List.mem_filter.mp staysA).2, (List.mem_filter.mp staysB).2] using part

/-! What a sequence of operations says about a function table. -/

/-- The function table that an operation is to register. -/
def Operation.asks? (m : Memory) : Operation → Option Plugin
  | register d => m.plugin? d
  | registerTable p => some p
  | unregister _ | unregisterTable _ | unregisterAll _ => none

variable (m) in
/-- The operation registers the table, unless it is active already. -/
def Operation.Brings (op : Operation) (p : Plugin) : Prop :=
  op.asks? m = some p ∧ p.kind.supports (m.apiVersion p) = true

/-- The operation removes the table, if it is active. -/
def Operation.takes (m : Memory) : Operation → Plugin → Bool
  | register _, _ | registerTable _, _ => false
  | unregister d, p => m.plugin? d = some p
  | unregisterTable q, p => q = p
  | unregisterAll kind, p => p.kind = kind

theorem Operation.Brings.takes (brings : op.Brings m p) (q : Plugin) : op.takes m q = false := by
  cases op with
  | register | registerTable => rfl
  | unregister | unregisterTable | unregisterAll => cases brings.1

theorem Operation.Brings.unique (brings : op.Brings m p) (other : op.Brings m q) : p = q :=
  Option.some.inj (brings.1.symm.trans other.1)

variable (m) in
/-- One of the operations has registered the table, and none has removed it since. -/
def Standing (ops : List Operation) (p : Plugin) : Prop :=
  ∃ before op after, ops = before ++ op :: after ∧ op.Brings m p ∧
    ∀ later ∈ after, later.takes m p = false

variable (m) in
/-- After `n` operations the next one registered the table, which was not registered then. -/
def Effective (ops : List Operation) (p : Plugin) (n : Nat) : Prop :=
  ∃ before op after, ops = before ++ op :: after ∧ before.length = n ∧ op.Brings m p ∧
    ¬ Standing m before p

variable (m) in
/-- No registration of the table was effective later. -/
structure Latest (ops : List Operation) (p : Plugin) (n : Nat) : Prop where
  effective : Effective m ops p n
  last : ∀ k, Effective m ops p k → k ≤ n

/-- A place in a list with one more element is the last one or a place in the list. -/
theorem split_snoc {α : Type} {l before after : List α} {x y : α} :
    l ++ [y] = before ++ x :: after ↔
      (before = l ∧ x = y ∧ after = []) ∨
        ∃ rest, after = rest ++ [y] ∧ l = before ++ x :: rest := by
  constructor
  · intro split
    rcases List.eq_nil_or_concat after with rfl | ⟨rest, z, rfl⟩
    · obtain ⟨rfl, same⟩ := List.append_inj' split rfl
      exact .inl ⟨rfl, (List.cons.inj same).1.symm, rfl⟩
    · rw [List.concat_eq_append, ← List.cons_append, ← List.append_assoc] at split
      obtain ⟨rfl, same⟩ := List.append_inj' split rfl
      cases same
      exact .inr ⟨rest, List.concat_eq_append, rfl⟩
  · rintro (⟨rfl, rfl, rfl⟩ | ⟨rest, rfl, rfl⟩)
    · rfl
    · simp

theorem not_standing_nil : ¬ Standing m [] p := by
  rintro ⟨before, op, after, split, _⟩
  simp at split

theorem standing_snoc :
    Standing m (ops ++ [op]) p ↔
      op.Brings m p ∨ (Standing m ops p ∧ op.takes m p = false) := by
  constructor
  · rintro ⟨before, o, after, split, brings, keeps⟩
    rcases split_snoc.mp split with ⟨rfl, rfl, rfl⟩ | ⟨rest, rfl, rfl⟩
    · exact .inl brings
    · exact .inr ⟨⟨before, o, rest, rfl, brings, fun later there => keeps later (by simp [there])⟩,
        keeps op (by simp)⟩
  · rintro (brings | ⟨⟨before, o, after, rfl, brings, keeps⟩, kept⟩)
    · exact ⟨ops, op, [], rfl, brings, nofun⟩
    · refine ⟨before, o, after ++ [op], by simp, brings, fun later there => ?_⟩
      rcases List.mem_append.mp there with there | there
      · exact keeps later there
      · rwa [List.mem_singleton.mp there]

theorem effective_snoc :
    Effective m (ops ++ [op]) p n ↔
      Effective m ops p n ∨ (n = ops.length ∧ op.Brings m p ∧ ¬ Standing m ops p) := by
  constructor
  · rintro ⟨before, o, after, split, length, brings, idle⟩
    rcases split_snoc.mp split with ⟨rfl, rfl, rfl⟩ | ⟨rest, rfl, rfl⟩
    · exact .inr ⟨length.symm, brings, idle⟩
    · exact .inl ⟨before, o, rest, rfl, length, brings, idle⟩
  · rintro (⟨before, o, after, rfl, length, brings, idle⟩ | ⟨rfl, brings, idle⟩)
    · exact ⟨before, o, after ++ [op], by simp, length, brings, idle⟩
    · exact ⟨ops, op, [], rfl, rfl, brings, idle⟩

theorem Effective.lt (effective : Effective m ops p n) : n < ops.length := by
  obtain ⟨before, o, after, rfl, rfl, _⟩ := effective
  simp

theorem Latest.unique {k : Nat} (one : Latest m ops p n) (other : Latest m ops p k) : n = k :=
  Nat.le_antisymm (other.last n one.effective) (one.last k other.effective)

/-- An operation that registers the table anew is its latest registration. -/
theorem latest_snoc_new (brings : op.Brings m p) (idle : ¬ Standing m ops p) :
    Latest m (ops ++ [op]) p ops.length := by
  refine ⟨effective_snoc.mpr (.inr ⟨rfl, brings, idle⟩), fun k effective => ?_⟩
  rcases effective_snoc.mp effective with earlier | ⟨same, _⟩
  · exact Nat.le_of_lt earlier.lt
  · exact Nat.le_of_eq same

/-- Any other operation leaves its latest registration what it was. -/
theorem latest_snoc_old (old : op.Brings m p → Standing m ops p) :
    Latest m (ops ++ [op]) p n ↔ Latest m ops p n := by
  have same : ∀ k, Effective m (ops ++ [op]) p k ↔ Effective m ops p k := by
    intro k
    rw [effective_snoc, or_iff_left]
    rintro ⟨_, brings, idle⟩
    exact idle (old brings)
  constructor
  · intro latest
    exact ⟨(same n).mp latest.effective, fun k there => latest.last k ((same k).mpr there)⟩
  · intro latest
    exact ⟨(same n).mpr latest.effective, fun k there => latest.last k ((same k).mp there)⟩

/-- What is registered has a latest registration. -/
theorem Standing.latest (standing : Standing m ops p) : ∃ n, Latest m ops p n := by
  induction ops using List.reverseRecOn with
  | nil => exact absurd standing not_standing_nil
  | append_singleton ops op ih =>
    by_cases before : Standing m ops p
    · obtain ⟨n, latest⟩ := ih before
      exact ⟨n, (latest_snoc_old fun _ => before).mpr latest⟩
    · rcases standing_snoc.mp standing with brings | ⟨still, _⟩
      · exact ⟨_, latest_snoc_new brings before⟩
      · exact absurd still before

variable (m) in
/-- A list of the function tables of one kind that are registered, in the order of their latest
registrations. -/
structure Roll (ops : List Operation) (kind : Kind) (tables : List Plugin) : Prop where
  members : ∀ p, p ∈ tables ↔ p.kind = kind ∧ Standing m ops p
  ordered : tables.Pairwise fun p q => ∃ i j, Latest m ops p i ∧ Latest m ops q j ∧ i < j

namespace Roll

theorem nil : Roll m [] kind [] := ⟨fun p => by simp [not_standing_nil], .nil⟩

theorem nodup (roll : Roll m ops kind tables) : tables.Nodup := by
  refine roll.ordered.imp ?_
  rintro p q ⟨i, j, one, other, lt⟩ rfl
  exact Nat.ne_of_lt lt (one.unique other)

/-- A table that is registered anew comes to the end. -/
theorem enter (roll : Roll m ops p.kind tables) (brings : op.Brings m p)
    (idle : ¬ Standing m ops p) : Roll m (ops ++ [op]) p.kind (tables ++ [p]) where
  members q := by
    have only : op.Brings m q ↔ q = p :=
      ⟨fun other => other.unique brings, fun same => same ▸ brings⟩
    rw [List.mem_append, List.mem_singleton, roll.members q, standing_snoc, only, brings.takes q]
    constructor
    · rintro (⟨kind, standing⟩ | rfl)
      · exact ⟨kind, .inr ⟨standing, rfl⟩⟩
      · exact ⟨rfl, .inl rfl⟩
    · rintro ⟨kind, same | ⟨standing, _⟩⟩
      · exact .inr same
      · exact .inl ⟨kind, standing⟩
  ordered := by
    have old : ∀ q ∈ tables, op.Brings m q → Standing m ops q := fun q there _ =>
      ((roll.members q).mp there).2
    refine List.pairwise_append.mpr ⟨?_, List.pairwise_singleton .., ?_⟩
    · refine roll.ordered.imp_of_mem ?_
      rintro q s thereQ thereS ⟨i, j, one, other, lt⟩
      exact ⟨i, j, (latest_snoc_old (old q thereQ)).mpr one,
        (latest_snoc_old (old s thereS)).mpr other, lt⟩
    · intro q there s same
      rw [List.mem_singleton.mp same]
      obtain ⟨i, latest⟩ := ((roll.members q).mp there).2.latest
      exact ⟨i, ops.length, (latest_snoc_old (old q there)).mpr latest,
        latest_snoc_new brings idle, latest.effective.lt⟩

/-- Without a newcomer those remain that are not removed. -/
theorem remain (roll : Roll m ops kind tables)
    (old : ∀ q, q.kind = kind → op.Brings m q → Standing m ops q) :
    Roll m (ops ++ [op]) kind (tables.filter fun q => !op.takes m q) where
  members q := by
    rw [List.mem_filter, roll.members q, standing_snoc, Bool.not_eq_true']
    constructor
    · rintro ⟨⟨kind, standing⟩, kept⟩
      exact ⟨kind, .inr ⟨standing, kept⟩⟩
    · rintro ⟨kind, brings | ⟨standing, kept⟩⟩
      · exact ⟨⟨kind, old q kind brings⟩, brings.takes q⟩
      · exact ⟨⟨kind, standing⟩, kept⟩
  ordered := by
    have listed : ∀ q ∈ tables.filter fun q => !op.takes m q, op.Brings m q → Standing m ops q :=
      fun q there _ => ((roll.members q).mp (List.mem_of_mem_filter there)).2
    refine (roll.ordered.filter _).imp_of_mem ?_
    rintro q s thereQ thereS ⟨i, j, one, other, lt⟩
    exact ⟨i, j, (latest_snoc_old (listed q thereQ)).mpr one,
      (latest_snoc_old (listed s thereS)).mpr other, lt⟩

/-- A table of the other kind changes nothing. -/
theorem stay (roll : Roll m ops kind tables) (brings : op.Brings m p) (other : p.kind ≠ kind) :
    Roll m (ops ++ [op]) kind tables := by
  have remaining : Roll m (ops ++ [op]) kind (tables.filter fun q => !op.takes m q) :=
    roll.remain fun q same brought => absurd (brings.unique brought ▸ same) other
  simpa only [brings.takes, Bool.not_false, List.filter_true] using remaining

end Roll

/-! What an operation does to the lists. -/

/-- Registering a table that is not active gives it its place, and otherwise changes nothing. -/
theorem Registering.entrance {step : Step Registry (Except PluginError Unit)}
    (registering : Registering m d r step) :
    (∃ p, m.plugin? d = some p ∧ p.kind.supports (m.apiVersion p) = true ∧ p ∉ r.plugins ∧
      step.state = r.place m p) ∨
    ((∀ p, m.plugin? d = some p → p.kind.supports (m.apiVersion p) = true → p ∈ r.plugins) ∧
      step.state = r) := by
  cases registering with
  | rejected _ unfit =>
    refine .inr ⟨fun p leads supported => ?_, rfl⟩
    exact absurd ((Memory.accepts_iff leads).mpr supported) unfit
  | kept _ leads _ active =>
    refine .inr ⟨fun p other _ => ?_, rfl⟩
    rwa [← Option.some.inj (leads.symm.trans other)]
  | added _ leads fit idle => exact .inl ⟨_, leads, (Memory.accepts_iff leads).mp fit, idle, rfl⟩

/-- The registry without the tables that do not stay. -/
def keep (stays : Plugin → Bool) (r : Registry) : Registry :=
  ⟨r.encoders.filter fun e => stays (.encoder e), r.decoders.filter fun d => stays (.decoder d)⟩

theorem plugins_keep (stays : Plugin → Bool) : (r.keep stays).plugins = r.plugins.filter stays := by
  rw [plugins, plugins, List.filter_append, List.filter_map, List.filter_map]
  rfl

@[simp] theorem keep_all : r.keep (fun _ => true) = r := by
  simp [keep]

/-- What is active says what each of the lists is. -/
theorem filterMap_encoder? (r : Registry) : r.plugins.filterMap Plugin.encoder? = r.encoders := by
  simp [plugins, List.filterMap_map, Function.comp_def, Plugin.encoder?]

theorem filterMap_decoder? (r : Registry) : r.plugins.filterMap Plugin.decoder? = r.decoders := by
  simp [plugins, List.filterMap_map, Function.comp_def, Plugin.decoder?]

theorem plugins_injective : Function.Injective plugins := by
  intro r s same
  have encoders : r.encoders = s.encoders := by
    rw [← filterMap_encoder?, same, filterMap_encoder?]
  have decoders : r.decoders = s.decoders := by
    rw [← filterMap_decoder?, same, filterMap_decoder?]
  exact congrArg₂ Registry.mk encoders decoders

/-- The same tables in any order are the same encoders and the same decoders. -/
theorem lists_perm {next : Registry} (same : r.plugins.Perm next.plugins) :
    r.encoders.Perm next.encoders ∧ r.decoders.Perm next.decoders := by
  rw [← filterMap_encoder? r, ← filterMap_encoder? next, ← filterMap_decoder? r,
    ← filterMap_decoder? next]
  exact ⟨same.filterMap _, same.filterMap _⟩

theorem place_leading : r.place (m.leading q) p = r.place m p := by
  cases p with
  | encoder e =>
    have tables : insertEncoder (m.leading q) e r.encoders = insertEncoder m e r.encoders :=
      insertEncoder_congr rfl fun _ _ => rfl
    rw [place, place, tables]
  | decoder d => rfl

/-- Unregistering keeps the other tables where they are. -/
theorem Unregistering.remainder {step : Step Registry Bool} (single : r.plugins.Nodup)
    (unregistering : Unregistering m d r step) :
    step.state = r.keep fun p => !decide (m.plugin? d = some p) := by
  apply plugins_injective
  rw [plugins_keep, unregistering.plugins]
  cases leads : m.plugin? d with
  | none => simp
  | some p =>
    rw [Option.elim_some, single.erase_eq_filter]
    refine List.filter_congr fun q _ => ?_
    simp only [Option.some.injEq, eq_comm (a := p), bne, beq_eq_decide]

/-- An operation brings one new table in or takes tables out. -/
theorem perform_outcome (op : Operation) (single : r.plugins.Nodup) :
    (∃ p, op.Brings m p ∧ p ∉ r.plugins ∧ ((op.perform m).run r).state = r.place m p) ∨
    ((∀ p, op.Brings m p → p ∈ r.plugins) ∧
      ((op.perform m).run r).state = r.keep fun p => !op.takes m p) := by
  cases op with
  | register d =>
    rcases (register_outcome m d r).entrance with
      ⟨p, leads, supported, idle, state⟩ | ⟨known, state⟩
    · exact .inl ⟨p, ⟨leads, supported⟩, idle, state⟩
    · exact .inr ⟨fun p brings => known p brings.1 brings.2, state.trans keep_all.symm⟩
  | registerTable q =>
    rcases (registerTable_outcome m q r).entrance with
      ⟨p, leads, supported, idle, state⟩ | ⟨known, state⟩
    · refine .inl ⟨p, ⟨Memory.plugin?_leading.symm.trans leads, ?_⟩, idle,
        state.trans place_leading⟩
      cases p <;> exact supported
    · refine .inr ⟨fun p brings => known p (Memory.plugin?_leading.trans brings.1) ?_,
        state.trans keep_all.symm⟩
      cases p <;> exact brings.2
  | unregister d =>
    exact .inr ⟨fun p brings => (nomatch brings), (unregister_outcome m d r).remainder single⟩
  | unregisterTable q =>
    refine .inr ⟨fun p brings => (nomatch brings), ?_⟩
    refine ((unregisterTable_outcome m q r).remainder single).trans ?_
    simp only [Memory.plugin?_leading, Option.some.injEq, Operation.takes]
  | unregisterAll kind =>
    refine .inr ⟨fun p brings => (nomatch brings), ?_⟩
    show ((unregisterAll m kind).run r).state = _
    cases kind with
    | encoder => simp [unregisterAll, unregisterAllEncoders_run, Operation.takes, keep, Plugin.kind]
    | decoder => simp [unregisterAll, unregisterAllDecoders_run, Operation.takes, keep, Plugin.kind]

/-- The lists are in order after the operations. -/
structure InOrder (m : Memory) (ops : List Operation) (r : Registry) : Prop where
  decoders : Roll m ops .decoder (r.decoders.map .decoder)
  encoders : ∃ enrolled, Roll m ops .encoder (enrolled.map .encoder) ∧ Ranked m enrolled r.encoders

namespace InOrder

theorem empty : InOrder m [] empty := ⟨.nil, [], .nil, .nil, .refl [], .nil⟩

/-- What is active is what the operations have registered and not removed. -/
theorem active_iff (inOrder : InOrder m ops r) : p ∈ r.plugins ↔ Standing m ops p := by
  cases p with
  | encoder e =>
    obtain ⟨enrolled, roll, ranked⟩ := inOrder.encoders
    have member := roll.members (.encoder e)
    rw [mem_plugins_encoder, ranked.perm.mem_iff]
    simpa [Plugin.kind] using member
  | decoder d =>
    have member := inOrder.decoders.members (.decoder d)
    rw [mem_plugins_decoder]
    simpa [Plugin.kind] using member

theorem nodup (inOrder : InOrder m ops r) : r.encoders.Nodup ∧ r.decoders.Nodup := by
  obtain ⟨enrolled, _, ranked⟩ := inOrder.encoders
  exact ⟨ranked.perm.nodup_iff.mpr ranked.single, inOrder.decoders.nodup.of_map⟩

theorem single (inOrder : InOrder m ops r) : r.plugins.Nodup := by
  obtain ⟨enrolled, roll, ranked⟩ := inOrder.encoders
  refine List.nodup_append.mpr ⟨(ranked.perm.map _).nodup_iff.mpr roll.nodup,
    inOrder.decoders.nodup, ?_⟩
  intro p there q other same
  subst same
  obtain ⟨_, _, rfl⟩ := List.mem_map.mp there
  obtain ⟨_, _, other⟩ := List.mem_map.mp other
  cases other

/-- One more operation keeps them in order. -/
theorem perform (inOrder : InOrder m ops r) (op : Operation) :
    InOrder m (ops ++ [op]) ((op.perform m).run r).state := by
  obtain ⟨enrolled, roll, ranked⟩ := inOrder.encoders
  rcases perform_outcome op inOrder.single with ⟨p, brings, idle, state⟩ | ⟨known, state⟩
  · have new : ¬ Standing m ops p := fun standing => idle (inOrder.active_iff.mpr standing)
    rw [state]
    cases p with
    | encoder e =>
      have entered := roll.enter brings new
      rw [← List.map_singleton, ← List.map_append] at entered
      refine ⟨inOrder.decoders.stay brings nofun, _, entered, ranked.enter ?_⟩
      rwa [mem_plugins_encoder, ranked.perm.mem_iff] at idle
    | decoder d =>
      have entered := inOrder.decoders.enter brings new
      rw [← List.map_singleton, ← List.map_append] at entered
      exact ⟨entered, enrolled, roll.stay brings nofun, ranked⟩
  · have old : ∀ q, op.Brings m q → Standing m ops q := fun q brings =>
      inOrder.active_iff.mp (known q brings)
    rw [state]
    have decoders := inOrder.decoders.remain fun q _ => old q
    have encoders := roll.remain fun q _ => old q
    rw [List.filter_map] at decoders encoders
    exact ⟨decoders, _, encoders, ranked.filter _⟩

/-- So does every sequence of operations. -/
theorem performAll (inOrder : InOrder m ops r) (further : List Operation) :
    InOrder m (ops ++ further) ((Registry.performAll m further).run r).state := by
  induction further generalizing ops r with
  | nil => rwa [List.append_nil]
  | cons op rest ih =>
    rw [List.append_cons]
    exact ih (inOrder.perform op)

end InOrder

/-- The step has left the registry as it was and has run no hook. -/
def Unmoved {α : Type} (r : Registry) (step : Step Registry α) : Prop :=
  step.state = r ∧ ∀ event ∈ step.events, event.hook? = none

theorem Unmoved.map {α β : Type} {a : Action Registry α} (unmoved : Unmoved r (a.run r))
    (f : α → β) : Unmoved r ((do let x ← a; pure (f x)).run r) := by
  refine ⟨unmoved.1, ?_⟩
  rw [Action.run_bind, Action.run_pure, List.append_nil]
  exact unmoved.2

theorem Registering.refused {step : Step Registry (Except PluginError Unit)}
    (registering : Registering m d r step) (failed : step.value.map (fun _ => true) ≠ .ok true) :
    Unmoved r step := by
  cases registering with
  | rejected => exact ⟨rfl, nofun⟩
  | kept | added => exact absurd rfl failed

theorem Unregistering.refused {step : Step Registry Bool}
    (unregistering : Unregistering m d r step) (idle : step.value ≠ true) : Unmoved r step := by
  cases unregistering with
  | absent => exact ⟨rfl, by simp [Event.hook?]⟩
  | removed => exact absurd rfl idle

/-- An operation that fails, or that finds nothing to remove, leaves everything as it was. -/
theorem perform_refused (refused : ((op.perform m).run r).value ≠ .ok true) :
    Unmoved r ((op.perform m).run r) := by
  cases op with
  | register d => exact ((register_outcome m d r).refused refused).map _
  | registerTable q => exact ((registerTable_outcome m q r).refused refused).map _
  | unregister d =>
    have idle := fun was => refused (congrArg Except.ok was)
    exact ((unregister_outcome m d r).refused idle).map _
  | unregisterTable q =>
    have idle := fun was => refused (congrArg Except.ok was)
    exact ((unregisterTable_outcome m q r).refused idle).map _
  | unregisterAll => exact absurd rfl refused

/-- The registry after some operations, if it was empty before. -/
def after (m : Memory) (ops : List Operation) : Registry := ((performAll m ops).run empty).state

/-- **The lists are stable sorts.** After any operations on an empty registry the decoders stand
in the order of their latest effective registrations, and the encoders are what a stable sort by
falling priority makes of that order. No table is listed twice, each is of a version that the
host knows, and an operation that fails or finds nothing to remove changes no list and runs no
hook. -/
theorem lists_in_order (m : Memory) (ops : List Operation) :
    Roll m ops .decoder ((after m ops).decoders.map .decoder) ∧
    (∃ enrolled : List Encoder, Roll m ops .encoder (enrolled.map .encoder) ∧
      (after m ops).encoders =
        enrolled.mergeSort fun a b => (m.encoder b).priority ≤ (m.encoder a).priority) ∧
    (after m ops).encoders.Nodup ∧ (after m ops).decoders.Nodup ∧
    (∀ p ∈ (after m ops).plugins,
      minApiVersion ≤ m.apiVersion p ∧ m.apiVersion p ≤ maxApiVersion p.kind) ∧
    ∀ op : Operation, ((op.perform m).run (after m ops)).value ≠ .ok true →
      Unmoved (after m ops) ((op.perform m).run (after m ops)) := by
  have inOrder : InOrder m ops (after m ops) := InOrder.empty.performAll ops
  obtain ⟨enrolled, roll, ranked⟩ := inOrder.encoders
  obtain ⟨encoders, decoders⟩ := inOrder.nodup
  refine ⟨inOrder.decoders, ⟨enrolled, roll, ranked.eq_mergeSort⟩, encoders, decoders, ?_,
    fun op => perform_refused⟩
  intro p active
  obtain ⟨_, _, _, _, brings, _⟩ := inOrder.active_iff.mp active
  simpa [Kind.supports] using brings.2

/-- Encoders of one priority: the one that was removed and registered again comes last. -/
example :
    (after ⟨fun _ => ⟨1, 0, none⟩, fun _ => ⟨1, 0, none, 5, none, true, true⟩,
        fun _ => ⟨1, none, fun _ => 0, true, true⟩⟩
      [.registerTable (.encoder ⟨0⟩), .registerTable (.encoder ⟨1⟩),
        .unregisterTable (.encoder ⟨0⟩), .registerTable (.encoder ⟨0⟩)]).encoders =
      [⟨1⟩, ⟨0⟩] := by
  decide

end Registry
end CodecHost
