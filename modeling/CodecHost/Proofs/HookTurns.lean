import CodecHost.Proofs.RegistryOutcomes

/-! The two hooks of a function table take turns. The init hook runs when the table
enters the registry and the end hook when it leaves, and a table that is active does
not enter again. Of the two the init hook was the last to run just while the table is
active, which is what ties the hooks of the past to the registry of the moment. -/
namespace CodecHost

variable {α : Type} {a b x : α} {xs : List α} {m : Memory} {d : Descriptor} {r next : Registry}
  {p q : Plugin} {past events : List Event} {active later : Prop}

/-- Nothing but two things by turns, the first of them first. -/
def TakeTurns (first second : α) : List α → Prop
  | [] => True
  | x :: rest => x = first ∧ TakeTurns second first rest

/-- The next in line is known from how many there were. -/
theorem takeTurns_concat :
    TakeTurns a b (xs ++ [x]) ↔ TakeTurns a b xs ∧ x = if xs.length % 2 = 0 then a else b := by
  induction xs generalizing a b with
  | nil => simp [TakeTurns]
  | cons y rest ih =>
    have other : (if (rest.length + 1) % 2 = 0 then a else b) =
        if rest.length % 2 = 0 then b else a := by
      split <;> split <;> first | rfl | omega
    simp only [List.cons_append, TakeTurns, ih, List.length_cons, other, and_assoc]

/-- The first is one ahead of the second, or neither is ahead. -/
theorem TakeTurns.countP {f g : α → Bool} (turns : TakeTurns a b xs) (first : f a = true)
    (not_second : f b = false) (second : g b = true) (not_first : g a = false) :
    xs.countP f = (xs.length + 1) / 2 ∧ xs.countP g = xs.length / 2 := by
  induction xs generalizing a b f g with
  | nil => simp
  | cons y rest ih =>
    obtain ⟨rfl, turns⟩ := turns
    obtain ⟨seconds, firsts⟩ := ih turns second not_first first not_second
    rw [List.countP_cons_of_pos first, List.countP_cons_of_neg (by simp [not_first]), seconds,
      firsts, List.length_cons]
    omega

/-- The first was the last to come just when their number is odd. -/
theorem TakeTurns.getLast?_eq_first (turns : TakeTurns a b xs) (differ : a ≠ b) :
    xs.getLast? = some a ↔ xs.length % 2 = 1 := by
  rcases List.eq_nil_or_concat xs with rfl | ⟨front, last, rfl⟩
  · simp
  · rw [List.concat_eq_append] at turns ⊢
    obtain ⟨_, rfl⟩ := takeTurns_concat.mp turns
    rw [List.getLast?_concat, Option.some_inj, List.length_append, List.length_singleton]
    split
    · simp only [true_iff]
      omega
    · simp only [differ.symm, false_iff]
      omega

/-- The event is the init hook of a function table. -/
def Event.isInitOf (p : Plugin) : Event → Bool
  | initHook q => q = p
  | _ => false

/-- The event is the end hook of a function table. -/
def Event.isEndOf (p : Plugin) : Event → Bool
  | endHook q => q = p
  | _ => false

/-- How often the init hook of a function table ran. -/
def inits (p : Plugin) (events : List Event) : Nat := events.countP (Event.isInitOf p)

/-- How often the end hook of a function table ran. -/
def ends (p : Plugin) (events : List Event) : Nat := events.countP (Event.isEndOf p)

/-- The hooks of a function table, in the order in which they ran. -/
def hooksOf (p : Plugin) (events : List Event) : List Event :=
  events.filter fun e => e.hook? = some p

theorem hooksOf_append : hooksOf p (past ++ events) = hooksOf p past ++ hooksOf p events :=
  List.filter_append ..

theorem hooksOf_eq_nil (others : ∀ e ∈ events, e.hook? ≠ some p) : hooksOf p events = [] := by
  simpa [hooksOf] using others

theorem inits_hooksOf : inits p (hooksOf p events) = inits p events := by
  rw [inits, inits, hooksOf, List.countP_filter]
  refine List.countP_congr fun e _ => ?_
  cases e <;> simp [Event.isInitOf, Event.hook?]

theorem ends_hooksOf : ends p (hooksOf p events) = ends p events := by
  rw [ends, ends, hooksOf, List.countP_filter]
  refine List.countP_congr fun e _ => ?_
  cases e <;> simp [Event.isEndOf, Event.hook?]

/-- What goes to the log is no hook. -/
theorem hooksOf_deeds (p : Plugin) (events : List Event) :
    hooksOf p (Ledger.deeds events) = hooksOf p events := by
  rw [hooksOf, hooksOf, Ledger.deeds, List.filter_filter]
  refine List.filter_congr fun e _ => ?_
  cases e <;> simp [Event.hook?, Event.notice?]

/-- The hooks of a function table took turns, and an odd number of them ran just when
the table is active. -/
structure Toggled (p : Plugin) (past : List Event) (active : Prop) : Prop where
  turns : TakeTurns (.initHook p) (.endHook p) (hooksOf p past)
  odd : (hooksOf p past).length % 2 = 1 ↔ active

namespace Toggled

theorem nil : Toggled p [] False := ⟨trivial, by simp [hooksOf]⟩

theorem congr (toggled : Toggled p past active) (same : active ↔ later) : Toggled p past later :=
  ⟨toggled.turns, toggled.odd.trans same⟩

/-- The hooks of other tables do not matter. -/
theorem others (toggled : Toggled p past active) (others : ∀ e ∈ events, e.hook? ≠ some p) :
    Toggled p (past ++ events) active := by
  have same : hooksOf p (past ++ events) = hooksOf p past := by
    rw [hooksOf_append, hooksOf_eq_nil others, List.append_nil]
  exact ⟨same ▸ toggled.turns, same ▸ toggled.odd⟩

theorem noted (toggled : Toggled p past active) (n : Notice) :
    Toggled p (past ++ [.notice n]) active := toggled.others (by simp [Event.hook?])

theorem started (toggled : Toggled p past active) (idle : ¬ active) :
    Toggled p (past ++ [.initHook p]) True := by
  have even : (hooksOf p past).length % 2 = 0 := by
    have odd := toggled.odd.not.mpr idle
    omega
  have hooks : hooksOf p (past ++ [.initHook p]) = hooksOf p past ++ [.initHook p] := by
    simp [hooksOf, Event.hook?]
  refine ⟨hooks ▸ takeTurns_concat.mpr ⟨toggled.turns, by simp [even]⟩, ?_⟩
  rw [hooks, List.length_append, List.length_singleton]
  simp only [iff_true]
  omega

theorem ended (toggled : Toggled p past active) (running : active) :
    Toggled p (past ++ [.endHook p]) False := by
  have odd : (hooksOf p past).length % 2 = 1 := toggled.odd.mpr running
  have hooks : hooksOf p (past ++ [.endHook p]) = hooksOf p past ++ [.endHook p] := by
    simp [hooksOf, Event.hook?]
  refine ⟨hooks ▸ takeTurns_concat.mpr ⟨toggled.turns, by simp [odd]⟩, ?_⟩
  rw [hooks, List.length_append, List.length_singleton]
  simp only [iff_false]
  omega

/-- Of the hooks of the table the init hook was the last just when the table is active. -/
theorem last_iff (toggled : Toggled p past active) :
    (hooksOf p past).getLast? = some (.initHook p) ↔ active :=
  (toggled.turns.getLast?_eq_first nofun).trans toggled.odd

/-- The init hook ran once more than the end hook while the table is active, and as
often when it is not. -/
theorem counts (toggled : Toggled p past active) :
    (active → inits p past = ends p past + 1) ∧ (¬ active → inits p past = ends p past) := by
  obtain ⟨first, second⟩ := toggled.turns.countP (f := Event.isInitOf p) (g := Event.isEndOf p)
    (by simp [Event.isInitOf]) rfl (by simp [Event.isEndOf]) rfl
  have firsts : inits p past = ((hooksOf p past).length + 1) / 2 := inits_hooksOf.symm.trans first
  have seconds : ends p past = (hooksOf p past).length / 2 := ends_hooksOf.symm.trans second
  rw [← toggled.odd]
  omega

end Toggled

namespace Registry

theorem initHooks_others (differ : q ≠ p) : ∀ e ∈ initHooks m q, e.hook? ≠ some p := by
  intro e member
  rw [mem_initHooks member]
  simpa [Event.hook?] using differ

theorem endHooks_others (differ : q ≠ p) : ∀ e ∈ endHooks m q, e.hook? ≠ some p := by
  intro e member
  rw [mem_endHooks member]
  simpa [Event.hook?] using differ

/-- Registering a table that has an init hook runs it just when the table enters. -/
theorem Registering.toggled {answer : Except PluginError Unit}
    (registering : Registering m d r ⟨answer, next, events⟩)
    (hooked : m.plugin? d = some p → m.hasInit p = true)
    (toggled : Toggled p past (p ∈ r.plugins)) : Toggled p (past ++ events) (p ∈ next.plugins) := by
  cases registering with
  | rejected => simpa using toggled
  | kept => exact toggled.others (by simp [Event.hook?])
  | @added q n leads _ idle =>
    rw [← List.append_assoc]
    refine Toggled.noted ?_ n
    by_cases same : q = p
    · subst same
      have hooks : initHooks m q = [.initHook q] := by simp [initHooks, hooked leads]
      rw [hooks]
      exact (toggled.started idle).congr (by simp [(plugins_place _).mem_iff])
    · refine (toggled.others (initHooks_others same)).congr ?_
      simp [(plugins_place _).mem_iff, Ne.symm same]

/-- Unregistering a table that has an end hook runs it just when the table leaves. -/
theorem Unregistering.toggled {was : Bool}
    (unregistering : Unregistering m d r ⟨was, next, events⟩) (single : r.plugins.Nodup)
    (hooked : m.plugin? d = some p → m.hasEnd p = true)
    (toggled : Toggled p past (p ∈ r.plugins)) : Toggled p (past ++ events) (p ∈ next.plugins) := by
  cases unregistering with
  | absent => exact toggled.others (by simp [Event.hook?])
  | @removed q _ n leads active left =>
    rw [← List.append_assoc]
    refine Toggled.noted ?_ n
    by_cases same : q = p
    · subst same
      have hooks : endHooks m q = [.endHook q] := by simp [endHooks, hooked leads]
      rw [hooks]
      exact (toggled.ended active).congr (by simp [left, single.mem_erase_iff])
    · refine (toggled.others (endHooks_others same)).congr ?_
      simp [left, single.mem_erase_iff, Ne.symm same]

/-- When a list of tables is taken out, each that has an end hook ends once. -/
theorem toggled_ended {tables : List Plugin} (single : tables.Nodup)
    (inside : p ∈ tables → active) (hooked : p ∈ tables → m.hasEnd p = true)
    (toggled : Toggled p past active) :
    Toggled p (past ++ tables.flatMap (endHooks m)) (active ∧ p ∉ tables) := by
  induction tables generalizing past active with
  | nil => simpa using toggled
  | cons q rest ih =>
    obtain ⟨once, single⟩ := List.nodup_cons.mp single
    rw [List.flatMap_cons, ← List.append_assoc]
    by_cases same : q = p
    · subst same
      have hooks : endHooks m q = [.endHook q] := by simp [endHooks, hooked (by simp)]
      rw [hooks]
      exact (ih single (fun there => once there) (fun there => absurd there once)
        (toggled.ended (inside (by simp)))).congr (by simp)
    · refine (ih single (fun there => inside (by simp [there]))
        (fun there => hooked (by simp [there])) (toggled.others (endHooks_others same))).congr ?_
      simp [Ne.symm same]

theorem decoders_nodup (single : r.plugins.Nodup) : (r.decoders.map Plugin.decoder).Nodup :=
  (List.nodup_append.mp single).2.1

theorem encoders_nodup (single : r.plugins.Nodup) : (r.encoders.map Plugin.encoder).Nodup :=
  (List.nodup_append.mp single).1

/-- Clearing the registry ends every table that is active. -/
theorem toggled_cleared (single : r.plugins.Nodup) (hooked : p ∈ r.plugins → m.hasEnd p = true)
    (toggled : Toggled p past (p ∈ r.plugins)) : Toggled p (past ++ r.clearing m) False := by
  have hooks : r.clearing m =
      (r.decoders.map Plugin.decoder ++ r.encoders.map Plugin.encoder).flatMap (endHooks m) := by
    simp [clearing, List.flatMap_map]
  have swapped : (r.decoders.map Plugin.decoder ++ r.encoders.map Plugin.encoder).Perm r.plugins :=
    List.perm_append_comm
  rw [hooks]
  refine (toggled_ended (swapped.nodup_iff.mpr single) ?_ ?_ toggled).congr ?_
  · exact fun there => swapped.mem_iff.mp there
  · exact fun there => hooked (swapped.mem_iff.mp there)
  · rw [swapped.mem_iff]
    simp

end Registry
end CodecHost
