import CodecHost.Proofs.ClosedMemory
import CodecHost.Proofs.SharedTables

/-! A view of the registry outlives what it shows. A callback is handed the registry as it
was, and what it does to the context does not show there, also when it takes a function table
out of the registry and closes its module. Until then the tables in the view are in place:
whatever is called, a table leaves the registry with the last reference of a module that
leads to it, when the table of modules is emptied, or when the last client leaves. -/
namespace CodecHost

open Ledger

variable {σ : Type} {S : Surroundings σ} {settings : Settings} {P : List Event → σ → Prop}
  {table : List Event → Descriptor → Option Plugin} {past events : List Event}
  {p : Plugin} {m m' : Memory} {r : Registry}

/-! What a query on a view reads. -/

namespace Registry

/-- Finding an encoder reads those that are listed. -/
theorem findEncoder_congr (same : ∀ p ∈ r.plugins, m.Agree m' p) (format : Int32) :
    r.findEncoder m' format = r.findEncoder m format := by
  have agree : ∀ e ∈ r.encoders, m'.encoder e = m.encoder e := fun e listed =>
    same (.encoder e) (mem_plugins_encoder.mpr listed)
  unfold findEncoder
  generalize r.encoders = encoders at agree
  induction encoders with
  | nil => rfl
  | cons e rest ih =>
    rw [List.find?_cons, List.find?_cons, agree e List.mem_cons_self,
      ih fun x there => agree x (List.mem_cons_of_mem _ there)]

/-- The better one of two is one of them. -/
theorem betterDecoder_cases {format : Int32} {best : Option Decoder} {d chosen : Decoder}
    (better : betterDecoder m format best d = some chosen) : chosen = d ∨ best = some chosen := by
  simp only [betterDecoder] at better
  split at better
  · split at better
    · exact .inl (Option.some.inj better).symm
    · split at better
      · exact .inl (Option.some.inj better).symm
      · exact .inr better
  · exact .inr better

theorem betterDecoder_congr {best : Option Decoder} {d : Decoder}
    (own : m'.decoder d = m.decoder d)
    (chosen : ∀ b, best = some b → m'.decoder b = m.decoder b) (format : Int32) :
    betterDecoder m' format best d = betterDecoder m format best d := by
  cases best with
  | none => simp only [betterDecoder, own]
  | some b =>
    have other := chosen b rfl
    simp only [betterDecoder, own, other]

/-- Finding a decoder reads those that are listed, since the best so far is one of them. -/
theorem findDecoder_congr (same : ∀ p ∈ r.plugins, m.Agree m' p) (format : Int32) :
    r.findDecoder m' format = r.findDecoder m format := by
  have further : ∀ (decoders : List Decoder) (best : Option Decoder),
      (∀ d ∈ decoders, m'.decoder d = m.decoder d) →
      (∀ b, best = some b → m'.decoder b = m.decoder b) →
      decoders.foldl (betterDecoder m' format) best =
        decoders.foldl (betterDecoder m format) best := by
    intro decoders
    induction decoders with
    | nil =>
      intro best _ _
      rw [List.foldl_nil, List.foldl_nil]
    | cons d rest ih =>
      intro best agree chosen
      have own := agree d List.mem_cons_self
      rw [List.foldl_cons, List.foldl_cons, betterDecoder_congr own chosen]
      refine ih _ (fun x there => agree x (List.mem_cons_of_mem _ there)) fun x better => ?_
      rcases betterDecoder_cases better with rfl | before
      · exact own
      · exact chosen x before
  exact further r.decoders none
    (fun d listed => same (.decoder d) (mem_plugins_decoder.mpr listed)) nofun

end Registry

/-! What takes a function table out of the registry. -/

/-- Loading takes no function table out of the registry. -/
theorem Context.Growing.keeps_active {c last : Context σ}
    (growing : Context.Growing S settings past c events last) (active : p ∈ c.registry.plugins) :
    p ∈ last.registry.plugins := by
  have registers : ∀ {m : Memory} {d : Descriptor} {registry : Registry} {hooks : List Event},
      Registry.Registering m d c.host.registry ⟨.ok (), registry, hooks⟩ →
      p ∈ registry.plugins := by
    intro m d registry hooks registering
    obtain ⟨_, q, _, grown⟩ := registering.plugins
    exact grown.mem_iff.mpr (List.mem_insert_of_mem active)
  cases growing with
  | hosted loading =>
    cases loading with
    | noted | unopened | attached | refused => exact active
    | entered _ _ _ registering => exact registers registering
  | counted | asked | activated => exact active
  | brought _ _ _ registering => exact registers registering

theorem Context.Grows.keeps_active {α : Type} {a : Action (Context σ) α} {c : Context σ}
    (grows : Context.Grows S settings a) (active : p ∈ c.registry.plugins) :
    p ∈ (a.run c).state.registry.plugins :=
  (grows [] c).preserve (I := fun _ c => p ∈ c.registry.plugins)
    (fun growing active => growing.keeps_active active) active

namespace Run

variable {system : σ} {calls done inner part : List (Call σ)} {call : Call σ}

variable (S settings system) in
/-- The call takes a function table out of the registry. It gives back the last reference of
a module that leads to the table, or it gives back all references. -/
structure Withdraws (done : List (Call σ)) (call : Call σ) (p : Plugin) : Prop where
  active : p ∈ (context S settings system done).registry.plugins
  gone : p ∉ (context S settings system (done ++ [call])).registry.plugins
  gives : (∃ d, call = .unload d ∧
      (S.memory (context S settings system done).host.system).plugin? d = some p ∧
      (context S settings system done).modules.openCount? d = some 1) ∨
    call = .unloadAll ∨ (call = .deinit ∧ (context S settings system done).initCount = 1)

/-- What is active stays so, or the call takes it out. -/
theorem active_or_withdrawn (plain : call.Plain)
    (active : p ∈ (context S settings system done).registry.plugins) :
    p ∈ (context S settings system (done ++ [call])).registry.plugins ∨
      Withdraws S settings system done call p := by
  by_cases stays : p ∈ (context S settings system (done ++ [call])).registry.plugins
  · exact .inl stays
  refine .inr ⟨active, stays, ?_⟩
  cases call with
  | init | load | loadDirectory =>
    refine absurd ?_ stays
    rw [context_snoc]
    refine Context.Grows.keeps_active (perform_grows ?_) active
    trivial
  | elsewhere change =>
    refine absurd ?_ stays
    rw [context_snoc]
    exact active
  | unloadAll => exact .inr (.inl rfl)
  | deinit =>
    refine .inr (.inr ⟨rfl, ?_⟩)
    by_contra several
    refine stays ?_
    rw [context_snoc, Call.perform, Context.deinit_others several]
    exact active
  | unload d =>
    refine .inl ⟨d, rfl, ?_, ?_⟩
    · by_contra other
      exact stays (active_unload active other)
    · by_contra others
      refine stays ?_
      unfold Context.registry at active ⊢
      rw [context_unload]
      rcases Host.unload_outcome (S := S) d (context S settings system done).host with
        ⟨idle, _⟩ | ⟨_, unloading⟩
      · rwa [idle]
      · rcases unloading.registry with ⟨alone, _⟩ | ⟨_, same⟩
        · exact absurd alone others
        · rwa [same]
  | withRegistry calls => exact plain.elim

variable (S settings system) in
/-- One of the calls takes the function table out of the registry. -/
def Withdrawn (done part : List (Call σ)) (p : Plugin) : Prop :=
  ∃ before call after, part = before ++ call :: after ∧
    Withdraws S settings system (done ++ before) call p

/-- What was active when a callback began is active, or one of its calls took it out. -/
theorem active_since (plain : ∀ call ∈ part, call.Plain)
    (active : p ∈ (context S settings system done).registry.plugins) :
    p ∈ (context S settings system (done ++ part)).registry.plugins ∨
      Withdrawn S settings system done part p := by
  induction part using List.reverseRecOn with
  | nil => exact .inl (by rwa [List.append_nil])
  | append_singleton part call ih =>
    rcases ih fun c member => plain c (by simp [member]) with still | ⟨before, c, after, rfl, out⟩
    · rw [← List.append_assoc]
      refine (active_or_withdrawn (plain call (by simp)) still).imp_right fun out => ?_
      exact ⟨part, call, [], rfl, out⟩
    · exact .inr ⟨before, c, after ++ [call], by simp, out⟩

/-- What holds within a run holds at every moment of a callback at its end. -/
theorem Within.inside (within : Within S system (done ++ [.withRegistry inner]) P)
    (moment : part <+: Call.flatAll inner) : Within S system (done ++ part) P := by
  have flat : Within S system (done ++ Call.flatAll inner) P := by
    refine ⟨within.start, within.loading, fun change alters => within.elsewhere change ?_⟩
    rw [Alters, Call.flatAll_append, Call.flatAll_flatAll] at alters
    rw [Alters, Call.flatAll_append]
    simpa [Call.flatAll, Call.flat] using alters
  obtain ⟨rest, split⟩ := moment
  rw [← split, ← List.append_assoc] at flat
  exact flat.start_of

variable (S settings) in
/-- A callback makes calls and then answers with what it was handed. -/
def look (part : List (Call σ)) : Action (Context σ) Registry :=
  Context.withRegistry fun view => do
    Call.performAll S settings part
    pure view

/-- **A view is in place until something is taken out.** At every moment of a callback the view
that it holds shows the registry as it was on entry, and each function table in it is that of
a built-in or of a module that is open, or one of the calls that the callback has made took
it out of the registry. While none has, queries on the view read only what is in place. -/
theorem view_in_place (settings : Settings)
    (within : Within S system (done ++ [.withRegistry inner]) P) (steady : S.Steady P table)
    (moment : part <+: Call.flatAll inner) :
    ((look S settings part).run (context S settings system done)).value =
        (context S settings system done).registry ∧
    ((look S settings part).run (context S settings system done)).state =
        context S settings system (done ++ part) ∧
    (∀ p ∈ (context S settings system done).registry.plugins,
      settings.InPlace S P table (Run.past S settings system (done ++ part)) p ∨
        Withdrawn S settings system done part p) ∧
    ((∀ p, ¬ Withdrawn S settings system done part p) →
      ∀ m : Memory, (∀ p, settings.InPlace S P table (Run.past S settings system (done ++ part)) p →
        (S.memory (context S settings system (done ++ part)).host.system).Agree m p) →
      ∀ format,
        (context S settings system done).registry.findEncoder m format =
          (context S settings system done).registry.findEncoder
            (S.memory (context S settings system (done ++ part)).host.system) format ∧
        (context S settings system done).registry.findDecoder m format =
          (context S settings system done).registry.findDecoder
            (S.memory (context S settings system (done ++ part)).host.system) format) := by
  have plain : ∀ call ∈ part, call.Plain := fun call member =>
    Call.flatAll_plain inner call (moment.subset member)
  have guarded := guarded settings (within.inside moment) steady
  have listed : ∀ p ∈ (context S settings system done).registry.plugins,
      settings.InPlace S P table (Run.past S settings system (done ++ part)) p ∨
        Withdrawn S settings system done part p := fun p active =>
    (active_since plain active).imp_left (guarded.in_place steady)
  refine ⟨rfl, ?_, listed, fun none m agrees format => ?_⟩
  · rw [context_append]
    rfl
  · have same : ∀ p ∈ (context S settings system done).registry.plugins,
        (S.memory (context S settings system (done ++ part)).host.system).Agree m p :=
      fun p active => agrees p ((listed p active).resolve_right (none p))
    exact ⟨Registry.findEncoder_congr same format, Registry.findDecoder_congr same format⟩

/-- Two modules with encoders of one format. -/
def twoEncoders : Catalog :=
  .ofModules { Memory.ofEncoders id with encoder := fun _ => ⟨1, 7, none, 0, none, true, true⟩ }
    [.working 97 1 0, .working 98 2 1]

/-- Both are loaded. -/
def bothLoaded : List (Call Catalog) := [.load ⟨[97]⟩, .load ⟨[98]⟩]

/-- A callback that unloads the first module has the second one in its view and in place. -/
theorem other_view_in_place :
    .encoder ⟨1⟩ ∈
        (context Catalog.surroundings .standard twoEncoders bothLoaded).registry.plugins ∧
      Settings.standard.InPlace Catalog.surroundings
        (Catalog.Faithful twoEncoders.memory fun _ _ => True) (fun _ => twoEncoders.memory.plugin?)
        (Run.past Catalog.surroundings .standard twoEncoders (bothLoaded ++ [.unload ⟨0⟩]))
        (.encoder ⟨1⟩) := by
  have within : Within Catalog.surroundings twoEncoders
      (bothLoaded ++ [.withRegistry [.unload ⟨0⟩]])
      (Catalog.Faithful twoEncoders.memory fun _ _ => True) :=
    Catalog.within_faithful (by simp) (by simp [bothLoaded, Alters, Call.flatAll, Call.flat])
  have moment : [.unload ⟨0⟩] <+: Call.flatAll ([.unload ⟨0⟩] : List (Call Catalog)) :=
    List.prefix_rfl
  obtain ⟨_, _, listed, _⟩ := view_in_place .standard within (Catalog.steady_faithful _ _) moment
  have active : .encoder ⟨1⟩ ∈
      (context Catalog.surroundings .standard twoEncoders bothLoaded).registry.plugins := by decide
  refine ⟨active, (listed _ active).resolve_right ?_⟩
  rintro ⟨before, call, after, split, out⟩
  cases before with
  | nil =>
    obtain ⟨rfl, _⟩ := List.cons.inj split
    exact out.gone (by decide)
  | cons _ rest => simp at split

/-- What a callback has in its view after it has unloaded the one module that is loaded. -/
def staleView : Registry :=
  ((look Catalog.surroundings .standard [.unload ⟨0⟩]).run
    (context Catalog.surroundings .standard twoEncoders [.load ⟨[97]⟩])).value

/-- The module is still there, while nothing is in place. That the view finds it depends on
memory that has gone blank with the module. -/
theorem view_dangles :
    .encoder ⟨0⟩ ∈ staleView.plugins ∧
      (∀ P table p, ¬ Settings.standard.InPlace Catalog.surroundings P table
        (Run.past Catalog.surroundings .standard twoEncoders [.load ⟨[97]⟩, .unload ⟨0⟩]) p) ∧
      staleView.findEncoder (context Catalog.surroundings .standard twoEncoders
        [.load ⟨[97]⟩]).host.system.fading 7 = some ⟨0⟩ ∧
      staleView.findEncoder (context Catalog.surroundings .standard twoEncoders
        [.load ⟨[97]⟩, .unload ⟨0⟩]).host.system.fading 7 = none := by
  refine ⟨by decide, ?_, by decide, by decide⟩
  rintro P table p (⟨b, _, _, _, _, routine, _⟩ | ⟨_, h, _, _, since⟩)
  · cases routine
  · have books := (accounted Catalog.surroundings .standard twoEncoders
      [.load ⟨[97]⟩, .unload ⟨0⟩]).books.balance (· = h)
    have empty : (context Catalog.surroundings .standard twoEncoders
      [.load ⟨[97]⟩, .unload ⟨0⟩]).host.modules.handles = [] := rfl
    rw [empty, List.countP_nil] at books
    have still := since.is_open
    omega

end Run
end CodecHost
