import CodecHost.Proofs.RegistryOutcomes

/-! What the operations of a registry read. Registering a function table reads the
table itself and those that are active, since the newcomer is placed among them;
unregistering reads the table alone. Memory that is the same there may differ
everywhere else. -/
namespace CodecHost

variable {m m' : Memory} {d : Descriptor} {r : Registry} {p : Plugin}

/-- The two memories hold the same function table at a place. -/
def Memory.Agree (m m' : Memory) : Plugin → Prop
  | .encoder e => m'.encoder e = m.encoder e
  | .decoder d => m'.decoder d = m.decoder d

theorem Memory.Agree.hasInit (same : m.Agree m' p) : m'.hasInit p = m.hasInit p := by
  cases p with
  | encoder e => exact congrArg EncoderTable.hasInit same
  | decoder d => exact congrArg DecoderTable.hasInit same

theorem Memory.Agree.hasEnd (same : m.Agree m' p) : m'.hasEnd p = m.hasEnd p := by
  cases p with
  | encoder e => exact congrArg EncoderTable.hasEnd same
  | decoder d => exact congrArg DecoderTable.hasEnd same

theorem Memory.Agree.apiVersion (same : m.Agree m' p) : m'.apiVersion p = m.apiVersion p := by
  cases p with
  | encoder e => exact congrArg EncoderTable.apiVersion same
  | decoder d => exact congrArg DecoderTable.apiVersion same

/-- A descriptor is accepted when what it leads to is. -/
theorem Memory.accepts_congr (info : m'.info d = m.info d)
    (own : ∀ p, m.plugin? d = some p → m.Agree m' p) : m'.Accepts d ↔ m.Accepts d := by
  have leads : m'.plugin? d = m.plugin? d := congrArg Info.plugin? info
  constructor
  · rintro ⟨p, found, supported⟩
    rw [leads] at found
    rw [(own p found).apiVersion] at supported
    exact ⟨p, found, supported⟩
  · rintro ⟨p, found, supported⟩
    refine ⟨p, leads.trans found, ?_⟩
    rwa [(own p found).apiVersion]

namespace Registry

theorem initHooks_congr (same : m.Agree m' p) : initHooks m' p = initHooks m p := by
  rw [initHooks, initHooks, same.hasInit]

theorem endHooks_congr (same : m.Agree m' p) : endHooks m' p = endHooks m p := by
  rw [endHooks, endHooks, same.hasEnd]

theorem insertEncoder_congr {e : Encoder} {encoders : List Encoder}
    (newcomer : m'.encoder e = m.encoder e)
    (others : ∀ x ∈ encoders, m'.encoder x = m.encoder x) :
    insertEncoder m' e encoders = insertEncoder m e encoders := by
  induction encoders with
  | nil => rfl
  | cons first rest ih =>
    simp only [insertEncoder, newcomer, others first (by simp),
      ih fun x there => others x (by simp [there])]

/-- Registers a function table in the list of its kind. -/
def registerTable (m : Memory) : Plugin → Action Registry (Except PluginError Unit)
  | .encoder e => registerEncoder m e
  | .decoder d => registerDecoder m d

/-- Removes a function table from the list of its kind. -/
def unregisterTable (m : Memory) : Plugin → Action Registry Bool
  | .encoder e => unregisterEncoder m e
  | .decoder d => unregisterDecoder m d

/-- Registering a descriptor registers the table that it leads to. -/
theorem register_eq (leads : m.plugin? d = some p) : register m d = registerTable m p := by
  rw [register, leads]
  cases p <;> rfl

theorem unregister_eq (leads : m.plugin? d = some p) : unregister m d = unregisterTable m p := by
  rw [unregister, leads]
  cases p <;> rfl

theorem registerTable_congr (own : m.Agree m' p) (active : ∀ q ∈ r.plugins, m.Agree m' q) :
    (registerTable m' p).run r = (registerTable m p).run r := by
  have hooks := initHooks_congr own
  cases p with
  | encoder e =>
    have table : m'.encoder e = m.encoder e := own
    have placed : insertEncoder m' e r.encoders = insertEncoder m e r.encoders :=
      insertEncoder_congr table fun x there => active (.encoder x) (by simpa using there)
    simp only [registerTable, registerEncoder, table, hooks]
    split
    · by_cases there : e ∈ r.encoders
      · simp only [Action.run_bind, Action.run_get, List.contains_eq_mem, there, decide_true,
          ↓reduceIte]
      · simp only [Action.run_bind, Action.run_get, List.contains_eq_mem, there, decide_false,
          Bool.false_eq_true, ↓reduceIte, Action.run_emit, Action.run_modify, placed]
    · rfl
  | decoder e =>
    have table : m'.decoder e = m.decoder e := own
    simp only [registerTable, registerDecoder, table, hooks]

theorem unregisterTable_congr (own : m.Agree m' p) :
    unregisterTable m' p = unregisterTable m p := by
  have hooks := endHooks_congr own
  cases p with
  | encoder e =>
    have table : m'.encoder e = m.encoder e := own
    simp only [unregisterTable, unregisterEncoder, table, hooks]
  | decoder e =>
    have table : m'.decoder e = m.decoder e := own
    simp only [unregisterTable, unregisterDecoder, table, hooks]

theorem register_congr (info : m'.info d = m.info d)
    (own : ∀ p, m.plugin? d = some p → m.Agree m' p) (active : ∀ q ∈ r.plugins, m.Agree m' q) :
    (register m' d).run r = (register m d).run r := by
  have leads : m'.plugin? d = m.plugin? d := congrArg Info.plugin? info
  cases found : m.plugin? d with
  | none => simp only [register, leads, found, info]
  | some p =>
    rw [register_eq found, register_eq (leads.trans found)]
    exact registerTable_congr (own p found) active

theorem unregister_congr (info : m'.info d = m.info d)
    (own : ∀ p, m.plugin? d = some p → m.Agree m' p) : unregister m' d = unregister m d := by
  have leads : m'.plugin? d = m.plugin? d := congrArg Info.plugin? info
  cases found : m.plugin? d with
  | none => simp only [unregister, leads, found]
  | some p =>
    rw [unregister_eq found, unregister_eq (leads.trans found)]
    exact unregisterTable_congr (own p found)

end Registry
end CodecHost
