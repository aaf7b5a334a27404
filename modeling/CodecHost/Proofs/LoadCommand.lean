import CodecHost.Proofs.HookBalance
import CodecHost.Proofs.LoadAttempts

/-! What the command that loads modules says and does. It prints a line for each path that loads,
notes each one that does not, and tells the first failure when it ends, but no failure keeps it
from the paths behind. By then the context is gone, and with it every reference and every plugin.
Apart from what it adds to the log, the command is a run of loads. -/
namespace CodecHost

open Ledger

variable {σ : Type} {S : Surroundings σ}

/-- The line about a load that succeeds. The plugin is described as it is right after the load. -/
def Context.Attempt.line? (S : Surroundings σ) (a : Attempt σ) : Option String :=
  match (a.step S).value with
  | .ok d =>
    some s!"{a.path.display}: {Report.plugin (S.memory (a.step S).state.host.system) d}\n"
  | .error _ => none

/-- What happens in the course of a load that a command asks for. A failure goes to the log. -/
def Context.Attempt.reported (S : Surroundings σ) (a : Attempt σ) : List Event :=
  (a.step S).events ++ ((a.failure? S).map fun e => .notice (.pathFailed (.plugin e))).toList

/-- But for the log, no more happens than in the load. -/
theorem Context.Attempt.deeds_reported (S : Surroundings σ) (a : Attempt σ) :
    deeds (a.reported S) = deeds (a.step S).events := by
  rw [reported, deeds_append]
  cases a.failure? S <;> exact List.append_nil _

namespace CommandLine

open Context (attempts Attempt)

variable {files : Path → Except IoError Bytes} {paths : List Path} {system : σ}

/-- The words that name paths: none is empty, and none but the hyphen alone starts with one. -/
def Operand (word : Bytes) : Prop := word ≠ [] ∧ (word.head? = some hyphen → word = [hyphen])

instance (word : Bytes) : Decidable (Operand word) := inferInstanceAs (Decidable (_ ∧ _))

theorem Operand.plain {word : Bytes} (operand : Operand word) : Word.of word = .plain word := by
  obtain ⟨_, alone⟩ := operand
  match word with
  | [] => rfl
  | [_] => rfl
  | b :: c :: rest =>
    have other : b ≠ hyphen := by
      rintro rfl
      cases alone rfl
    rw [Word.of, if_pos other]

/-- Such words are read as paths, one after the other. -/
theorem readWords_operands (r : Reading) (operands : ∀ path ∈ paths, Operand path.bytes) :
    readWords .load none r (paths.map Path.bytes) = .ok { r with paths := r.paths ++ paths } := by
  induction paths generalizing r with
  | nil => simp [readWords]
  | cons path rest ih =>
    have first := operands path (by simp)
    have added : r.addPath .load path.bytes = .ok { r with paths := r.paths ++ [path] } := by
      simp [Reading.addPath, Verb.maxPaths, first.1]
    have others := ih { r with paths := r.paths ++ [path] }
      fun p member => operands p (by simp [member])
    rw [List.append_assoc, List.singleton_append] at others
    rw [List.map_cons, readWords, first.plain]
    simp only [added, Except.bind, bind, others]

/-- The word for loading in front of paths asks for those to be loaded. -/
theorem parse_load (first : Path) (others : List Path)
    (operands : ∀ path ∈ first :: others, Operand path.bytes) :
    parse (Utf8.encode "load" :: (first :: others).map Path.bytes) =
      .ok ⟨false, .load first others⟩ := by
  have word : Operand (Utf8.encode "load") := by decide +kernel
  have verb : Verb.ofWord? (Utf8.encode "load") = some .load := by decide +kernel
  have paths := readWords_operands .empty operands
  rw [parse, read, word.plain]
  simp only [verb, readCommand, paths]
  rfl

/-- Loads print the lines of those that succeed and come to the first failure. Each of them that
fails is noted before the next one. -/
theorem loadPaths_run (paths : List Path) (c : Context σ) :
    (loadPaths S paths).run c =
      ⟨(String.join ((attempts S paths c).filterMap (Attempt.line? S)),
          ((attempts S paths c).findSome? (Attempt.failure? S)).map .plugin),
        ((paths.mapM (Context.load S)).run c).state,
        (attempts S paths c).flatMap (Attempt.reported S)⟩ := by
  induction paths generalizing c with
  | nil => rfl
  | cons path rest ih =>
    simp only [loadPaths, List.mapM_cons, Action.run_bind, attempts, List.flatMap_cons]
    cases answer : ((Context.load S path).run c).value with
    | ok d =>
      simp only [Action.run_bind, Action.run_get, Action.run_pure, ih, List.append_nil,
        List.nil_append, List.filterMap_cons, List.findSome?_cons, Attempt.line?,
        Attempt.failure?, Attempt.reported, Attempt.step, answer, String.join_cons,
        Option.map_none, Option.toList_none]
    | error e =>
      simp only [Action.run_bind, Action.run_note, Action.run_pure, ih, List.append_nil,
        List.filterMap_cons, List.findSome?_cons, Attempt.line?, Attempt.failure?,
        Attempt.reported, Attempt.step, answer, Option.map_some, Option.toList_some,
        List.append_assoc]

/-- At the end the log says how many modules are in the table. -/
theorem loadBody_run (paths : List Path) (c : Context σ) :
    let last := ((paths.mapM (Context.load S)).run c).state
    (loadBody S paths).run c =
      ⟨(String.join ((attempts S paths c).filterMap (Attempt.line? S)),
          ((attempts S paths c).findSome? (Attempt.failure? S)).map .plugin),
        last,
        (attempts S paths c).flatMap (Attempt.reported S) ++
          [.notice (.distinctModules last.modules.size)]⟩ := by
  simp only [loadBody, Action.run_bind, Action.run_get, Action.run_note, Action.run_pure,
    loadPaths_run, List.nil_append, List.append_nil]

/-- But for the log, loads do no more than they do one by one. -/
theorem deeds_loadBody (paths : List Path) (c : Context σ) :
    deeds ((loadBody S paths).run c).events =
      deeds ((paths.mapM (Context.load S)).run c).events := by
  rw [loadBody_run, Context.mapM_attempts, deeds_append, deeds_notice, List.append_nil]
  generalize attempts S paths c = tried
  induction tried with
  | nil => rfl
  | cons a rest ih =>
    rw [List.flatMap_cons, List.flatMap_cons, deeds_append, deeds_append, ih, a.deeds_reported]

/-- From its start to its end, the command does what a run of loads does. -/
theorem perform_load (files : Path → Except IoError Bytes) (first : Path) (others : List Path)
    (system : σ) :
    let tried := attempts S (first :: others) (bareContext S system)
    let outcome := perform S files (.load first others) system
    outcome.printed = String.join (tried.filterMap (Attempt.line? S)) ∧
      outcome.failure = (tried.findSome? (Attempt.failure? S)).map .plugin ∧
      deeds outcome.events =
        deeds (Run.trace S withoutSearchPath system ((first :: others).map .load)) := by
  intro tried outcome
  have ended : ((loadBody S (first :: others)).run (bareContext S system)).state =
      Run.context S withoutSearchPath system ((first :: others).map .load) := by
    rw [loadBody_run, Run.context, Context.performAll_loads]
    rfl
  simp only [outcome, perform, inContext_bare]
  refine ⟨?_, ?_, ?_⟩
  · rw [loadBody_run]
  · rw [loadBody_run]
  · rw [Run.trace, Run.past, Context.performAll_loads, ended, List.cons_append,
      ← List.singleton_append]
    simp only [deeds_append, deeds_notice, deeds_loadBody]
    rfl

/-- Loads change the system in no way of their own. -/
theorem loads_alter_nothing (paths : List Path) (change : σ → σ) :
    ¬ Run.Alters (paths.map Call.load) change := by
  induction paths with
  | nil => simp [Run.Alters, Call.flatAll]
  | cons path rest ih => simpa [Run.Alters, Call.flatAll, Call.flat] using ih

theorem within_loads {P : List Event → σ → Prop} (paths : List Path) (start : P [] system)
    (keeps : S.Keeps P) : Run.Within S system (paths.map .load) P :=
  ⟨start, keeps, fun change alters => (loads_alter_nothing paths change alters).elim⟩

/-- In a run of loads the loader is asked for the paths, and for nothing at the end. -/
theorem requests_trace (paths : List Path) (system : σ) :
    requests (Run.trace S withoutSearchPath system (paths.map .load)) =
      (attempts S paths (bareContext S system)).map (Attempt.request S) := by
  rw [Run.trace, Run.past, Run.context, Context.performAll_loads]
  simp only [requests_append, Context.requests_drop, Context.requests_loads, List.append_nil]
  rfl

/-- In a run of loads every function table with both hooks ends as often as it begins. -/
theorem hooks_balance {P : List Event → σ → Prop}
    {table : List Event → Descriptor → Option Plugin} {p : Plugin} (paths : List Path)
    (start : P [] system) (keeps : S.Keeps P) (hooked : withoutSearchPath.Hooked S P table p) :
    inits p (Run.trace S withoutSearchPath system (paths.map .load)) =
      ends p (Run.trace S withoutSearchPath system (paths.map .load)) := by
  have toggled := Run.toggled_trail (within_loads paths start keeps) hooked
    (Run.trace_moves S withoutSearchPath system (paths.map .load))
  have gone : (Run.ended S withoutSearchPath system (paths.map .load)).host.registry = .empty :=
    Context.drop_registry _
  exact toggled.counts.2 (by simp [gone])

/-- The first failure is the one that no failure comes before. -/
theorem first_failure {tried front back : List (Attempt σ)} {a : Attempt σ} {e : PluginError}
    (split : tried = front ++ a :: back) (before : ∀ b ∈ front, b.failure? S = none)
    (fails : a.failure? S = some e) : tried.findSome? (Attempt.failure? S) = some e := by
  rw [split, List.findSome?_append, List.findSome?_eq_none_iff.mpr before, Option.none_or,
    List.findSome?_cons, fails]

/-- **The command that loads reports every path.** Whatever the loader does, and whatever paths
are given, the same one again or others that lead to one module among them: the loader is asked
for every path in order, however the loads before it went. What is printed are the lines of the
loads that succeed, in order. The command fails just when a load fails, and then tells the message
and the codes of the first load that does. When it ends, every reference that was opened is closed
once, after it was opened, and a function table with both hooks was ended as often as it was
initialized. -/
theorem load_reports_every_path (S : Surroundings σ) (files : Path → Except IoError Bytes)
    (first : Path) (others : List Path) (system : σ) :
    let tried := attempts S (first :: others) (bareContext S system)
    let output := (perform S files (.load first others) system).output
    ((∀ path ∈ first :: others, Operand path.bytes) →
      run S files (Utf8.encode "load" :: (first :: others).map Path.bytes) system = output) ∧
    tried.map Attempt.path = first :: others ∧
    requests output.events = tried.map (Attempt.request S) ∧
    output.out = String.join (tried.filterMap (Attempt.line? S)) ∧
    (output.status = 0 ↔ ∀ a ∈ tried, a.failure? S = none) ∧
    (output.status = 0 → output.err = "") ∧
    (∀ front a back e, tried = front ++ a :: back → (∀ b ∈ front, b.failure? S = none) →
      a.failure? S = some e → output.status = 1 ∧
        output.err = s!"Error: {(Error.plugin e).message}\n{Report.codes (.plugin e)}\n") ∧
    (∀ h, opens (· = h) output.events = closes (· = h) output.events) ∧
    (∀ before h after, output.events = before ++ .closed h :: after →
      closes (· = h) before < opens (· = h) before) ∧
    ∀ P table p, P [] system → S.Keeps P → withoutSearchPath.Hooked S P table p →
      inits p output.events = ends p output.events := by
  intro tried output
  obtain ⟨printed, failure, done⟩ := perform_load (S := S) files first others system
  have events : deeds output.events =
      deeds (Run.trace S withoutSearchPath system ((first :: others).map .load)) := by
    rw [← done, ← Outcome.output_events]
  have books : Balanced output.events [] :=
    (Run.trace_balanced S withoutSearchPath system ((first :: others).map .load)).relogged events
  have succeeds : tried.findSome? (Attempt.failure? S) = none →
      output.status = 0 ∧ output.err = "" := by
    intro nowhere
    refine Outcome.output_quiet ?_
    rw [failure, nowhere, Option.map_none]
  have told : ∀ e, tried.findSome? (Attempt.failure? S) = some e → output.status = 1 ∧
      output.err = s!"Error: {(Error.plugin e).message}\n{Report.codes (.plugin e)}\n" := by
    intro e fails
    refine Outcome.output_told ?_
    rw [failure, fails, Option.map_some]
  refine ⟨?_, ?_, ?_, ?_, ?_, ?_, ?_, ?_, ?_, ?_⟩
  · intro operands
    rw [run, parse_load first others operands]
  · exact Context.attempts_paths _ _
  · rw [← requests_deeds, events, requests_deeds]
    exact requests_trace _ _
  · exact (Outcome.output_out _).trans printed
  · -- Either there is a first failure, or there is none at all.
    rw [← List.findSome?_eq_none_iff]
    cases fails : tried.findSome? (Attempt.failure? S) with
    | none => simp [(succeeds fails).1]
    | some e => simp [(told e fails).1]
  · intro ends
    cases fails : tried.findSome? (Attempt.failure? S) with
    | none => exact (succeeds fails).2
    | some e => simp [(told e fails).1] at ends
  · intro front a back e split before fails
    exact told e (first_failure split before fails)
  · intro h
    have balance := books.balance (· = h)
    rwa [List.countP_nil, Nat.add_zero] at balance
  · intro before h after split
    exact books.closings before (.closed h) after split h rfl
  · intro P table p start keeps hooked
    have hooks : hooksOf p output.events = hooksOf p (Run.trace S withoutSearchPath system
        ((first :: others).map .load)) := by
      rw [← hooksOf_deeds, events, hooksOf_deeds]
    rw [← inits_hooksOf, ← ends_hooksOf, hooks, inits_hooksOf, ends_hooksOf]
    exact hooks_balance _ start keeps hooked

/-- A module at two paths, and another one that leads to the same function table. -/
def threePaths : Catalog :=
  .ofModules (.ofEncoders (· / 2)) [.working 97 1 0, .working 98 1 0, .working 99 2 1]

/-- The first path and the third lead nowhere. The module behind the others is loaded by both of
its paths and again by the first, and then the other module is. -/
def someMissing : Output :=
  run Catalog.surroundings (fun _ => .error .notFound)
    [Utf8.encode "load", [109], [97], [110], [98], [97], [99]] threePaths

/-- The first failure is told besides the lines of the loads that succeed, and the table that the
two modules share is initialized and ended once. -/
theorem some_missing_reported :
    someMissing.status = 1 ∧
    someMissing.err = "Error: Plugin system error: Cannot open plugin 'm': " ++
      "cannot open shared object file: No such file or directory\n" ++
      "code 6 (PluginLoadingError), subcode 6000 (PluginLoadingError)\n" ∧
    someMissing.out = "a: encoder '<unnamed encoder>' (format 0, priority 0)\n" ++
      "b: encoder '<unnamed encoder>' (format 0, priority 0)\n" ++
      "a: encoder '<unnamed encoder>' (format 0, priority 0)\n" ++
      "c: encoder '<unnamed encoder>' (format 0, priority 0)\n" ∧
    inits (.encoder ⟨0⟩) someMissing.events = 1 ∧
    inits (.encoder ⟨0⟩) someMissing.events = ends (.encoder ⟨0⟩) someMissing.events := by
  obtain ⟨asked, _, _, out, _, _, told, _, _, balanced⟩ :=
    load_reports_every_path Catalog.surroundings (fun _ => .error .notFound) ⟨[109]⟩
      [⟨[97]⟩, ⟨[110]⟩, ⟨[98]⟩, ⟨[97]⟩, ⟨[99]⟩] threePaths
  have same : someMissing = _ := asked (by decide)
  have failure := told [] _ _ _ rfl (by simp) rfl
  rw [← same] at out failure balanced
  have within : Run.Within Catalog.surroundings threePaths []
      (Catalog.Faithful (.ofEncoders (· / 2)) fun _ _ => True) :=
    Catalog.within_faithful (by simp) (by simp [Run.Alters, Call.flatAll])
  have hooked : withoutSearchPath.Hooked Catalog.surroundings
      (Catalog.Faithful (.ofEncoders (· / 2)) fun _ _ => True)
      (fun _ => (Memory.ofEncoders (· / 2)).plugin?) (.encoder ⟨0⟩) := by
    refine .inPlace (Catalog.steady_faithful _ _) fun past c faithful _ => ?_
    have memory : Catalog.surroundings.memory c = .ofEncoders (· / 2) := faithful.memory
    rw [memory]
    exact ⟨rfl, rfl⟩
  refine ⟨failure.1, failure.2.trans ?_, out.trans ?_, ?_, ?_⟩
  · decide +kernel
  · decide +kernel
  · decide +kernel
  · exact balanced _ _ _ within.start within.loading hooked

end CommandLine
end CodecHost
