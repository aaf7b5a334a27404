import CodecHost.Proofs.RegistryOrder
import CodecHost.Proofs.RegistryViews

/-! The encoders of a context stand by falling priority whatever is called, if what is in
place reads as one memory does. Finding an encoder or a decoder then looks at the best one
there is, so that two registries with the same tables in another order find equally good
ones. -/
namespace CodecHost

variable {σ : Type} {S : Surroundings σ} {settings : Settings} {P : List Event → σ → Prop}
  {table : List Event → Descriptor → Option Plugin} {past events : List Event}
  {elsewhere : (σ → σ) → Prop} {m m' : Memory} {r next : Registry} {e : Encoder} {p : Plugin}

namespace Registry

/-- The encoders stand by falling priority. -/
def Sorted (m : Memory) (r : Registry) : Prop := r.encoders.Pairwise fun a b => outranks m a b

theorem sorted_empty : empty.Sorted m := List.Pairwise.nil

theorem sorted_insertEncoder {encoders : List Encoder}
    (sorted : encoders.Pairwise fun a b => outranks m a b) :
    (insertEncoder m e encoders).Pairwise fun a b => outranks m a b := by
  have placed : encoders.Pairwise (Precedes m encoders) := by
    rw [List.pairwise_iff_forall_sublist] at sorted ⊢
    exact fun order => ⟨sorted order, fun _ => order⟩
  exact (placed_insertEncoder (fun _ listed => listed) placed).imp And.left

theorem Sorted.place (sorted : r.Sorted m) (p : Plugin) : (r.place m p).Sorted m := by
  cases p with
  | encoder e => exact sorted_insertEncoder sorted
  | decoder d => exact sorted

theorem Sorted.keep (sorted : r.Sorted m) (stays : Plugin → Bool) : (r.keep stays).Sorted m :=
  List.Pairwise.filter _ sorted

/-- A table gets the same place in another memory that agrees on it and on what is active. -/
theorem place_congr (own : m.Agree m' p) (active : ∀ q ∈ r.plugins, m.Agree m' q) :
    r.place m' p = r.place m p := by
  cases p with
  | encoder e =>
    have placed : insertEncoder m' e r.encoders = insertEncoder m e r.encoders :=
      insertEncoder_congr own fun x there => active (.encoder x) (mem_plugins_encoder.mpr there)
    rw [place, place, placed]
  | decoder d => rfl

theorem Sorted.registered {d : Descriptor} {hooks : List Event} (sorted : r.Sorted m')
    (registering : Registering m d r ⟨.ok (), next, hooks⟩)
    (own : ∀ p, m.plugin? d = some p → m.Agree m' p) (active : ∀ q ∈ r.plugins, m.Agree m' q) :
    next.Sorted m' := by
  cases registering with
  | kept => exact sorted
  | added _ leads =>
    rw [← place_congr (own _ leads) active]
    exact sorted.place _

theorem Sorted.unregistered {d : Descriptor} {was : Bool} {hooks : List Event}
    (sorted : r.Sorted m') (single : r.plugins.Nodup)
    (unregistering : Unregistering m d r ⟨was, next, hooks⟩) : next.Sorted m' := by
  have remainder : next = _ := unregistering.remainder single
  rw [remainder]
  exact sorted.keep _

/-! Two registries with the same tables. -/

/-- The priorities of the encoders in the order in which they stand. -/
def priorities (m : Memory) (r : Registry) : List Int32 :=
  r.encoders.map fun e => (m.encoder e).priority

/-- The priority of the encoder that is found for a format. -/
def foundPriority (m : Memory) (r : Registry) (format : Int32) : Option Int32 :=
  (r.findEncoder m format).map fun e => (m.encoder e).priority

/-- The support level of the decoder that is found for a format. -/
def foundLevel (m : Memory) (r : Registry) (format : Int32) : Option Int32 :=
  (r.findDecoder m format).map fun d => (m.decoder d).supportLevel format

/-- Encoders that stand by falling priority show one sequence of priorities in any order. -/
theorem priorities_perm (same : r.encoders.Perm next.encoders) (sorted : r.Sorted m)
    (sortedNext : next.Sorted m) : r.priorities m = next.priorities m := by
  have falling : ∀ {r : Registry}, r.Sorted m → (r.priorities m).Pairwise fun a b => b ≤ a :=
    fun sorted => List.pairwise_map.mpr (sorted.imp of_decide_eq_true)
  apply List.Perm.eq_of_pairwise ?_ (falling sorted) (falling sortedNext) (same.map _)
  intro a b _ _ first second
  exact Int32.le_antisymm second first

/-- The priority of the encoder that is found is the first one of its format. -/
theorem foundPriority_eq (m : Memory) (r : Registry) (format : Int32) :
    r.foundPriority m format =
      (priorities m ⟨r.encoders.filter fun e => (m.encoder e).format = format, []⟩).head? := by
  rw [foundPriority, findEncoder, priorities, List.head?_map, List.head?_filter]

/-- Equally good encoders are found. -/
theorem foundPriority_perm (same : r.encoders.Perm next.encoders) (sorted : r.Sorted m)
    (sortedNext : next.Sorted m) (format : Int32) :
    r.foundPriority m format = next.foundPriority m format := by
  rw [foundPriority_eq, foundPriority_eq]
  exact congrArg List.head? (priorities_perm (same.filter _) (List.Pairwise.filter _ sorted)
    (List.Pairwise.filter _ sortedNext))

/-- The better of the level so far and the next one. -/
def betterLevel (best : Option Int32) (level : Int32) : Option Int32 :=
  if 0 < level then
    match best with
    | none => some level
    | some b => if b ≤ level then some level else some b
  else best

theorem betterDecoder_level (format : Int32) (best : Option Decoder) (d : Decoder) :
    (betterDecoder m format best d).map (fun d => (m.decoder d).supportLevel format) =
      betterLevel (best.map fun d => (m.decoder d).supportLevel format)
        ((m.decoder d).supportLevel format) := by
  unfold betterDecoder betterLevel
  by_cases supported : 0 < (m.decoder d).supportLevel format
  · cases best with
    | none => simp [supported]
    | some b =>
      by_cases better : (m.decoder b).supportLevel format ≤ (m.decoder d).supportLevel format <;>
        simp [supported, better]
  · simp [supported]

theorem foundLevel_eq (m : Memory) (r : Registry) (format : Int32) :
    r.foundLevel m format =
      (r.decoders.map fun d => (m.decoder d).supportLevel format).foldl betterLevel none := by
  have further : ∀ (decoders : List Decoder) (best : Option Decoder),
      (decoders.foldl (betterDecoder m format) best).map
          (fun d => (m.decoder d).supportLevel format) =
        (decoders.map fun d => (m.decoder d).supportLevel format).foldl betterLevel
          (best.map fun d => (m.decoder d).supportLevel format) := by
    intro decoders
    induction decoders with
    | nil => exact fun _ => rfl
    | cons d rest ih =>
      intro best
      rw [List.foldl_cons, ih, betterDecoder_level, List.map_cons, List.foldl_cons]
  exact further r.decoders none

/-- Which of two levels comes first does not matter. -/
theorem betterLevel_comm (best : Option Int32) (a b : Int32) :
    betterLevel (betterLevel best a) b = betterLevel (betterLevel best b) a := by
  unfold betterLevel
  grind [Int32.le_antisymm, Int32.le_total, Int32.le_trans]

/-- Equally good decoders are found. -/
theorem foundLevel_perm (same : r.decoders.Perm next.decoders) (format : Int32) :
    r.foundLevel m format = next.foundLevel m format := by
  rw [foundLevel_eq, foundLevel_eq]
  exact (same.map _).foldl_eq' (fun a _ b _ best => betterLevel_comm best a b) none

/-- What is found reads like the tables among which it is found. -/
theorem found_congr (same : ∀ q ∈ r.plugins, m.Agree m' q) :
    r.priorities m' = r.priorities m ∧
      (∀ format, r.foundPriority m' format = r.foundPriority m format) ∧
      ∀ format, r.foundLevel m' format = r.foundLevel m format := by
  have encoders : ∀ e ∈ r.encoders, m'.encoder e = m.encoder e := fun e listed =>
    same (.encoder e) (mem_plugins_encoder.mpr listed)
  have decoders : ∀ d ∈ r.decoders, m'.decoder d = m.decoder d := fun d listed =>
    same (.decoder d) (mem_plugins_decoder.mpr listed)
  refine ⟨?_, fun format => ?_, fun format => ?_⟩
  · exact List.map_congr_left fun e listed => by rw [encoders e listed]
  · unfold foundPriority
    rw [findEncoder_congr same]
    refine Option.map_congr fun e found => ?_
    rw [encoders e (List.mem_of_find?_eq_some found)]
  · rw [foundLevel_eq, foundLevel_eq]
    exact congrArg (List.foldl betterLevel none)
      (List.map_congr_left fun d listed => by rw [decoders d listed])

end Registry

namespace Host

variable {host last : Host σ}

theorem Loading.sorted (keeps : S.Keeps P) (steady : S.Steady P table)
    (agrees : S.AgreesInPlace settings P table fun _ => m)
    (guarded : host.Guarded settings S P table past) (loading : Loading S host events last)
    (sorted : host.registry.Sorted m) : last.registry.Sorted m := by
  cases loading with
  | noted | unopened | attached | refused => exact sorted
  | entered opening _ resolving registering =>
    have holds := guarded.toAnchored.answered_holds keeps opening resolving
    refine sorted.registered registering (fun p leads => ?_) fun q active => ?_
    · have mapped := guarded.toAnchored.answer_in_place keeps steady opening resolving leads
      exact agrees.tables _ _ holds p (.inr mapped)
    · exact agrees.tables _ _ holds q (guarded.answered_in_place steady active)

theorem Move.sorted (keeps : S.Keeps P) (steady : S.Steady P table)
    (agrees : S.AgreesInPlace settings P table fun _ => m)
    (guarded : host.Guarded settings S P table past) (move : Move S host events last)
    (sorted : host.registry.Sorted m) : last.registry.Sorted m := by
  cases move with
  | loading loading => exact loading.sorted keeps steady agrees guarded sorted
  | unloading unloading =>
    cases unloading with
    | released => exact sorted
    | removed _ _ _ _ unregistering => exact sorted.unregistered guarded.single unregistering
  | forced _ unregistering => exact sorted.unregistered guarded.single unregistering

/-- Loading keeps them sorted. -/
theorem Loads.sorted {α : Type} {a : Action (Host σ) α} (keeps : S.Keeps P)
    (steady : S.Steady P table) (agrees : S.AgreesInPlace settings P table fun _ => m)
    (loads : Loads S a) :
    Ensures (fun past host => host.Guarded settings S P table past ∧ host.registry.Sorted m) a
      fun _ past host => host.Guarded settings S P table past ∧ host.registry.Sorted m :=
  loads.moving.ensures fun move kept =>
    ⟨move.guarded keeps steady kept.1, move.sorted keeps steady agrees kept.1 kept.2⟩

end Host

/-- No move of a context brings the encoders out of order. -/
theorem Context.Move.sorted {c last : Context σ} (keeps : S.Keeps P) (steady : S.Steady P table)
    (agrees : S.AgreesInPlace settings P table fun _ => m)
    (guarded : c.host.Guarded settings S P table past)
    (move : Context.Move S settings elsewhere past c events last)
    (sorted : c.registry.Sorted m) : last.registry.Sorted m := by
  cases move with
  | growing growing =>
    cases growing with
    | hosted loading => exact loading.sorted keeps steady agrees guarded sorted
    | counted | asked | activated => exact sorted
    | @brought b n d _ _ routine asked brings registering =>
      refine sorted.registered registering (fun p leads => ?_) fun q active => ?_
      · have brought : settings.Brought S P past p :=
          ⟨b, n, d, past, c.host.system, routine, List.prefix_rfl, asked, guarded.holds, brings,
            leads⟩
        exact agrees.tables _ _ guarded.holds p (.inl brought)
      · exact agrees.tables _ _ guarded.holds q (guarded.in_place steady active)
  | hosted move => exact move.sorted keeps steady agrees guarded sorted
  | cleared => exact Registry.sorted_empty
  | altered => exact sorted

namespace Run

variable {system : σ} {calls : List (Call σ)}

/-- The encoders stand by falling priority in every reachable context. -/
theorem encoders_sorted (within : Within S system calls P) (steady : S.Steady P table)
    (agrees : S.AgreesInPlace settings P table fun _ => m) :
    (context S settings system calls).registry.Sorted m :=
  ((moves S settings system calls).preserve
    (I := fun past c => c.host.Guarded settings S P table past ∧ c.registry.Sorted m)
    (fun move kept =>
      ⟨move.guarded within.loading steady within.elsewhere kept.1,
        move.sorted within.loading steady agrees kept.1 kept.2⟩)
    ⟨Host.guarded_fresh within.start, Registry.sorted_empty⟩).2

end Run
end CodecHost
