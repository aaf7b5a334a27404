import CodecHost.Event

/-! A trace as a ledger of references. Every opening enters a reference and every
closing takes one out; what is left are the references that are open. Two open
references may look alike to a loader that numbers carelessly, so the ledger
counts instead of naming. -/
namespace CodecHost

variable {past events before after : List Event} {held kept : List Handle} {h : Handle}

/-- The reference that an event opens. -/
def Event.opened? : Event → Option Handle
  | opened handle => some handle
  | _ => none

/-- The reference that an event closes. -/
def Event.closed? : Event → Option Handle
  | closed handle => some handle
  | _ => none

/-- The function table whose hook an event runs. -/
def Event.hook? : Event → Option Plugin
  | initHook plugin | endHook plugin => some plugin
  | _ => none

/-- The event neither opens nor closes a reference. -/
def Event.Quiet : Event → Prop
  | opened _ | closed _ => False
  | _ => True

/-- The loader has no part in the event. -/
def Event.Internal : Event → Prop
  | initHook _ | endHook _ | builtins _ | notice _ => True
  | _ => False

theorem Event.Internal.quiet {e : Event} (internal : e.Internal) : e.Quiet := by
  cases e <;> trivial

theorem Event.Quiet.opened? {e : Event} (quiet : e.Quiet) : e.opened? = none := by
  cases e <;> first | rfl | exact quiet.elim

theorem Event.Quiet.closed? {e : Event} (quiet : e.Quiet) : e.closed? = none := by
  cases e <;> first | rfl | exact quiet.elim

namespace Ledger

/-- How many of the references that `p` asks for were opened. -/
def opens (p : Handle → Bool) (events : List Event) : Nat :=
  events.countP fun e => e.opened?.any p

/-- How many of the references that `p` asks for were closed. -/
def closes (p : Handle → Bool) (events : List Event) : Nat :=
  events.countP fun e => e.closed?.any p

@[simp] theorem opens_append (p : Handle → Bool) :
    opens p (before ++ after) = opens p before + opens p after := List.countP_append

@[simp] theorem closes_append (p : Handle → Bool) :
    closes p (before ++ after) = closes p before + closes p after := List.countP_append

theorem opens_opened (p : Handle → Bool) : opens p [.opened h] = [h].countP p := by
  simp [opens, Event.opened?, List.countP_singleton]

theorem closes_opened (p : Handle → Bool) : closes p [.opened h] = 0 := rfl

theorem opens_closed (p : Handle → Bool) : opens p [.closed h] = 0 := rfl

theorem closes_closed (p : Handle → Bool) : closes p [.closed h] = [h].countP p := by
  simp [closes, Event.closed?, List.countP_singleton]

theorem opens_quiet (p : Handle → Bool) (quiet : ∀ e ∈ events, e.Quiet) : opens p events = 0 := by
  apply List.countP_eq_zero.mpr
  intro e member
  simp [(quiet e member).opened?]

theorem closes_quiet (p : Handle → Bool) (quiet : ∀ e ∈ events, e.Quiet) : closes p events = 0 := by
  apply List.countP_eq_zero.mpr
  intro e member
  simp [(quiet e member).closed?]

/-- What happened, without what went to the log. -/
def deeds (events : List Event) : List Event := events.filter fun e => e.notice?.isNone

@[simp] theorem deeds_append : deeds (before ++ after) = deeds before ++ deeds after :=
  List.filter_append ..

@[simp] theorem deeds_notice (n : Notice) : deeds [.notice n] = [] := rfl

theorem deeds_notices {notices : List Notice} : deeds (notices.map .notice) = [] := by
  simp [deeds, Event.notice?]

theorem opens_deeds (p : Handle → Bool) (events : List Event) :
    opens p (deeds events) = opens p events := by
  rw [opens, opens, deeds, List.countP_filter]
  refine List.countP_congr fun e _ => ?_
  cases e <;> simp [Event.opened?, Event.notice?]

theorem closes_deeds (p : Handle → Bool) (events : List Event) :
    closes p (deeds events) = closes p events := by
  rw [closes, closes, deeds, List.countP_filter]
  refine List.countP_congr fun e _ => ?_
  cases e <;> simp [Event.closed?, Event.notice?]

/-- A reference that was counted as opened was opened. -/
theorem opened_of_opens (counted : 0 < opens (· = h) past) : .opened h ∈ past := by
  obtain ⟨e, inside, opened⟩ := List.countP_pos_iff.mp counted
  cases e with
  | opened g =>
    have same : g = h := by simpa [Event.opened?] using opened
    rwa [same] at inside
  | _ => cases opened

/-- A part of two stretches ends in the first or in the second. -/
theorem prefix_append_cases {α : Type} {moment first last : List α}
    (begins : moment <+: first ++ last) :
    moment <+: first ∨ ∃ part, moment = first ++ part ∧ part <+: last := by
  rcases List.prefix_or_prefix_of_prefix begins (List.prefix_append first last) with
    begins | ⟨part, rfl⟩
  · exact .inl begins
  · exact .inr ⟨part, rfl, (List.prefix_append_right_inj first).mp begins⟩

theorem countP_split (p : Handle → Bool) (h : Handle) (held : List Handle) :
    (h :: held).countP p = [h].countP p + held.countP p := by
  rw [← List.countP_append, List.singleton_append]

/-- Every event is right for what came before it. -/
def Throughout (right : List Event → Event → Prop) (events : List Event) : Prop :=
  ∀ before e after, events = before ++ e :: after → right before e

theorem throughout_nil (right : List Event → Event → Prop) : Throughout right [] := by
  intro before e after split
  simp at split

theorem throughout_snoc {right : List Event → Event → Prop} {e : Event}
    (earlier : Throughout right past) (last : right past e) : Throughout right (past ++ [e]) := by
  intro before f after split
  rcases List.eq_nil_or_concat after with rfl | ⟨rest, g, rfl⟩
  · obtain ⟨rfl, same⟩ := List.append_inj' split rfl
    cases same
    exact last
  · rw [List.concat_eq_append, ← List.cons_append, ← List.append_assoc] at split
    exact earlier before f rest (List.append_inj' split rfl).1

theorem throughout_append {right : List Event → Event → Prop} (earlier : Throughout right past)
    (later : ∀ before e after, events = before ++ e :: after → right (past ++ before) e) :
    Throughout right (past ++ events) := by
  induction events generalizing past with
  | nil => simpa using earlier
  | cons e rest ih =>
    rw [List.append_cons]
    apply ih (throughout_snoc earlier (by simpa using later [] e rest rfl))
    intro before f after split
    simpa using later (e :: before) f after (by rw [split, List.cons_append])

/-- A reference is closed only while it is open. -/
def ClosesOpen (before : List Event) (e : Event) : Prop :=
  ∀ h, e = .closed h → closes (· = h) before < opens (· = h) before

end Ledger

open Ledger

/-- The ledger agrees with a list of references: these and no others are open, and
nothing was closed that was not. -/
structure Balanced (past : List Event) (held : List Handle) : Prop where
  closings : Throughout ClosesOpen past
  balance : ∀ p : Handle → Bool, opens p past = closes p past + held.countP p

namespace Balanced

theorem nil : Balanced [] [] := ⟨throughout_nil _, fun _ => rfl⟩

theorem perm (books : Balanced past held) (same : held.Perm kept) : Balanced past kept :=
  ⟨books.closings, fun p => by rw [books.balance p, same.countP_eq]⟩

/-- A reference that is held is open. -/
theorem is_open (books : Balanced past held) (member : h ∈ held) :
    closes (· = h) past < opens (· = h) past := by
  have counted : 0 < held.countP (· = h) := List.countP_pos_iff.mpr ⟨h, member, by simp⟩
  have balance := books.balance (· = h)
  omega

theorem quiet (books : Balanced past held) (quiet : ∀ e ∈ events, e.Quiet) :
    Balanced (past ++ events) held where
  closings := by
    apply throughout_append books.closings
    intro before e after split h closing
    subst split closing
    exact (quiet (.closed h) (by simp)).elim
  balance p := by
    simp only [opens_append, closes_append, opens_quiet p quiet, closes_quiet p quiet]
    exact books.balance p

theorem opened (books : Balanced past held) : Balanced (past ++ [.opened h]) (h :: held) where
  closings := throughout_snoc books.closings (by intro g closing; cases closing)
  balance p := by
    have balance := books.balance p
    rw [opens_append, closes_append, opens_opened, closes_opened, countP_split p h held]
    omega

theorem closed (books : Balanced past (h :: held)) : Balanced (past ++ [.closed h]) held where
  closings := by
    refine throughout_snoc books.closings ?_
    intro g closing
    cases closing
    exact books.is_open List.mem_cons_self
  balance p := by
    have balance := books.balance p
    rw [countP_split p h held] at balance
    rw [opens_append, closes_append, opens_closed, closes_closed]
    omega

/-- Closing references one after the other takes them all out. -/
theorem closed_all (books : Balanced past (kept ++ held)) :
    Balanced (past ++ kept.map .closed) held := by
  induction kept generalizing past with
  | nil => simpa using books
  | cons handle rest ih =>
    rw [List.map_cons, List.append_cons]
    exact ih books.closed

/-- What goes to the log is not in the books. -/
theorem relogged (books : Balanced past held) (same : deeds events = deeds past) :
    Balanced events held where
  closings := by
    rintro before _ after split h rfl
    -- The closing is found among the events of the past, behind the same deeds.
    rw [split, deeds_append] at same
    obtain ⟨front, _, rfl, first, behind⟩ := List.filter_eq_append_iff.mp same.symm
    obtain ⟨noted, rest, rfl, logged, _, _⟩ := List.filter_eq_cons_iff.mp behind
    have silent : deeds noted = [] := List.filter_eq_nil_iff.mpr logged
    have earlier : deeds (front ++ noted) = deeds before := by
      rw [deeds_append, silent, List.append_nil]
      exact first
    have right := books.closings (front ++ noted) (.closed h) rest (by simp) h rfl
    rwa [← opens_deeds, ← closes_deeds, earlier, opens_deeds, closes_deeds] at right
  balance p := by
    rw [← opens_deeds, ← closes_deeds, same, opens_deeds, closes_deeds]
    exact books.balance p

end Balanced

/-- Nothing is opened after something was closed. -/
def OpensFirst (events : List Event) : Prop :=
  ∃ first last, events = first ++ last ∧ (∀ e ∈ first, e.closed? = none) ∧
    ∀ e ∈ last, e.opened? = none

theorem opensFirst_quiet (quiet : ∀ e ∈ events, e.Quiet) : OpensFirst events :=
  ⟨events, [], by simp, fun e member => (quiet e member).closed?, by simp⟩

/-- The reference led to a descriptor just after `earlier`, and was open ever since. -/
def OpenSince (earlier past : List Event) (h : Handle) (d : Descriptor) : Prop :=
  ∃ later, past = earlier ++ .resolved h (.ok d) :: later ∧
    ∀ moment, moment <+: later →
      closes (· = h) (earlier ++ .resolved h (.ok d) :: moment) <
        opens (· = h) (earlier ++ .resolved h (.ok d) :: moment)

namespace OpenSince

variable {d : Descriptor} {earlier : List Event}

/-- A reference that is held is open since it was resolved a moment ago. -/
theorem resolved (books : Balanced (past ++ [.resolved h (.ok d)]) held) (member : h ∈ held) :
    OpenSince past (past ++ [.resolved h (.ok d)]) h d := by
  refine ⟨[], rfl, ?_⟩
  intro moment start
  rw [List.prefix_nil.mp start]
  exact books.is_open member

theorem answered (since : OpenSince earlier past h d) : .resolved h (.ok d) ∈ past := by
  obtain ⟨later, rfl, _⟩ := since
  simp

theorem is_open (since : OpenSince earlier past h d) :
    closes (· = h) past < opens (· = h) past := by
  obtain ⟨later, rfl, opened⟩ := since
  exact opened later List.prefix_rfl

/-- A reference that is held after events which open first was open all the while:
up to the last opening it cannot have been closed, and from there it cannot have
been opened anew. -/
theorem append (since : OpenSince earlier past h d) (books : Balanced (past ++ events) held)
    (member : h ∈ held) (orderly : OpensFirst events) :
    OpenSince earlier (past ++ events) h d := by
  have start := since.is_open
  have finish := books.is_open member
  obtain ⟨first, last, rfl, closing, opening⟩ := orderly
  obtain ⟨later, rfl, opened⟩ := since
  have none_closed : ∀ part, part <+: first → closes (· = h) part = 0 := by
    intro part start
    refine List.countP_eq_zero.mpr fun e inside => ?_
    simp [closing e (start.subset inside)]
  have none_opened : opens (· = h) last = 0 := by
    refine List.countP_eq_zero.mpr fun e inside => ?_
    simp [opening e inside]
  refine ⟨later ++ (first ++ last), by simp, ?_⟩
  intro moment begins
  rcases prefix_append_cases begins with before | ⟨part, rfl, reached⟩
  · exact opened moment before
  · rw [← List.cons_append, ← List.append_assoc, opens_append, closes_append]
    rcases prefix_append_cases reached with before | ⟨part, rfl, before⟩
    · rw [none_closed part before]
      omega
    · obtain ⟨rest, rfl⟩ := before
      simp only [opens_append, closes_append] at start finish none_opened ⊢
      omega

end OpenSince
end CodecHost
