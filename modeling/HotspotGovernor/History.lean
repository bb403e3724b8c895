import HotspotGovernor.Atomicity
import HotspotGovernor.Effects
import HotspotGovernor.Identities
import HotspotGovernor.Installation
import HotspotGovernor.Integrity
import HotspotGovernor.Lib.Upsert

namespace HotspotGovernor.History

open Foundation ByteIo Topology Framing Codec Detection Detect Intervention Decisions Durable Governance
open Evidence Atomicity Operations Storage Durability Recoverable Integrity Effects Lib.Trace Lib.Upsert
open Lib.Procedures

section Decoders

variable {α : Type} {P : α → Prop}

theorem returns_text (limit : ℕ) (code : ErrorCode) (detail : String) :
    Returns (fun text ↦ text.length ≤ limit) (field (readText limit) code detail) := by
  intro bytes rest text h
  have hread := field_eq_ok h
  unfold readText at hread
  split at hread
  · cases hread
  · next length tail hlength =>
    split at hread
    · cases hread
    · next hle =>
      obtain ⟨-, htext⟩ : ¬ length.toNat > tail.length ∧ (tail.take length.toNat, _) = (text, rest) := by
        unfold ByteIo.take at hread
        split at hread
        · cases hread
        · next h => exact ⟨h, Option.some.inj hread⟩
      obtain ⟨rfl, -⟩ := Prod.mk.inj htext
      exact (List.length_take_le _ _).trans (not_lt.mp hle)

theorem returns_repeatField {entry : Decoder α} (h : Returns P entry) (n : ℕ) :
    Returns (fun xs ↦ xs.length = n ∧ ∀ x ∈ xs, P x) (repeatField entry n) := by
  induction n with
  | zero => exact Returns.pure ⟨rfl, by simp⟩
  | succ n ih =>
    refine Returns.bind_of h fun x hx ↦ Returns.bind_of ih fun xs hxs ↦ Returns.pure ⟨?_, ?_⟩
    · rw [List.length_cons, hxs.1]
    · exact List.forall_mem_cons.mpr ⟨hx, hxs.2⟩

theorem returns_history {entry : Decoder α} (truncated : String) (limit : ℕ) (overflow : String)
    (h : Returns P entry) :
    Returns (fun xs ↦ xs.length ≤ limit ∧ ∀ x ∈ xs, P x) (decodeHistory truncated limit overflow entry) := by
  refine Returns.bind fun count ↦ ?_
  dsimp only
  split
  · intro bytes rest b hb
    cases hb
  · next hle =>
    intro bytes rest xs hxs
    obtain ⟨hlength, hall⟩ := returns_repeatField h _ bytes rest xs hxs
    exact ⟨hlength.trans_le (not_lt.mp hle), hall⟩

end Decoders

theorem returns_hotspot : Returns (fun hotspot ↦ hotspot.key.length ≤ Limits.kMaxTextBytes) decodeHotspot := by
  unfold decodeHotspot
  refine Returns.bind fun id ↦ ?_
  refine Returns.bind_of (returns_text _ _ _) fun key hkey ↦ ?_
  iterate 6 refine Returns.bind fun _ ↦ ?_
  exact Returns.pure hkey

theorem returns_state : Returns Valid stateDecoder := by
  unfold stateDecoder
  iterate 6 refine Returns.bind fun _ ↦ ?_
  refine Returns.bind_of (returns_history _ _ _ returns_hotspot) fun hotspots hhotspots ↦ ?_
  have hany : Returns (fun _ ↦ True) decodeIntervention := fun _ _ _ _ ↦ trivial
  refine Returns.bind_of (returns_history _ _ _ hany) fun interventions hinterventions ↦ ?_
  refine Returns.bind fun _ ↦ ?_
  exact Returns.pure ⟨hhotspots.1, hinterventions.1, hhotspots.2⟩

theorem valid_default : Valid {} := ⟨by simp, by simp, by simp⟩

theorem valid_of_readSnapshot {maxBytes : UInt64} {content : Bytes} {state : DurableState}
    (h : (readSnapshot maxBytes (some content)).state = .ok state) : Valid state := by
  obtain ⟨header, rest, -, hcheck⟩ := readSnapshot_ok h
  simp only [checkSnapshot] at hcheck
  split_ifs at hcheck
  iterate 5 cases hcheck
  obtain ⟨tail, hdecoded⟩ := decodeAll_ok hcheck
  exact returns_state _ _ _ hdecoded

theorem valid_recoverFrom (s : Store) : Valid (recoverFrom s).state := by
  unfold recoverFrom
  split
  · exact valid_default
  · next content hvisible =>
    dsimp only
    split
    · exact valid_default
    · next state hread =>
      have hvalid := valid_of_readSnapshot hread
      split
      · exact hvalid
      · exact ⟨hvalid.hotspots, hvalid.interventions, hvalid.keys⟩

theorem valid_of_recover {s : Store} {r : RecoveredState} (h : (call recover s).1 = .ok r) : Valid r.state := by
  cases hopened : s.opened with
  | false =>
    obtain ⟨e, he⟩ := Installation.call_recover_closed hopened
    cases h.symm.trans he
  | true =>
    rw [call_recover hopened] at h
    rw [← Except.ok.inj h]
    exact valid_recoverFrom s

theorem valid_recovered (config : GovernorConfig) (world : Store) (process : Process) (now : Millis) :
    Valid (recovered durableStore config world process now).durable := by
  unfold recovered Governor.recover
  dsimp only
  split
  · exact valid_default
  · next store hstore =>
    split
    · exact valid_default
    · next hopen =>
      split
      · next r hrecover =>
        have hvalid := valid_of_recover hrecover
        exact ⟨hvalid.hotspots, hvalid.interventions, hvalid.keys⟩
      · split
        · exact valid_default
        · exact valid_default

theorem textBytes_eq (text : String) : textBytes text = text.toList.flatMap String.utf8EncodeChar := by
  obtain ⟨cs, rfl⟩ : ∃ cs, text = String.ofList cs := ⟨_, String.ofList_toList.symm⟩
  simp [textBytes, List.utf8Encode]

theorem length_textBytes_le (text : String) : (textBytes text).length ≤ text.toList.length * 4 := by
  rw [textBytes_eq]
  refine length_flatMap_le fun c _ ↦ ?_
  rw [String.length_utf8EncodeChar]
  exact c.utf8Size_le_four

theorem length_key {input : DecisionInput} {h : Hotspot}
    (hin : h ∈ (detect input).1.hotspots ++ (detect input).1.candidates) :
    (textBytes h.key).length ≤ Limits.kMaxTextBytes := by
  obtain ⟨ev, -, component, -, authority, rfl⟩ := Persistence.reported_component hin
  refine (length_textBytes_le _).trans ?_
  change (("hs-" ++ hex64 _).toList.length * 4) ≤ _
  rw [String.toList_append, List.length_append, Identities.length_hex64]
  decide

def historyLimit (config : GovernorConfig) : ℕ := min config.maxHistory Limits.kMaxHotspots

theorem recordHotspot_eq (limit : ℕ) :
    Governor.recordHotspot limit = upsert DurableHotspot.id limit := rfl

section Runs

variable {σ : Type} {api : StoreApi σ} {g g' : Governor σ}

def confirmedBy (e : Event Op Reply (Governor σ)) : List DurableHotspot :=
  match e.op, e.out with
  | .evaluate now, .decision decision => decision.assessment.hotspots.map (Governor.durableHotspot now)
  | _, _ => []

def plannedBy (e : Event Op Reply (Governor σ)) : List DurableIntervention :=
  match e.op, e.out with
  | .evaluate now, .decision decision => decision.plan.intents.map (Governor.durableIntervention now)
  | _, _ => []

structure SameHistory (g g' : Governor σ) : Prop where
  hotspots : g'.durable.hotspots = g.durable.hotspots
  interventions : g'.durable.interventions = g.durable.interventions

theorem persist_history {boot : BootId} {epoch : CoordinatorEpoch} {now : Millis} {record : JournalRecord}
    {status : Status} (h : g.persist api boot epoch now record = (status, g')) : SameHistory g g' := by
  have hp := persists api boot epoch now record g
  rw [h] at hp
  cases hp <;> exact ⟨rfl, rfl⟩

theorem installEpoch_history (epoch : CoordinatorEpoch) (boot : BootId) (now : Millis) :
    SameHistory g (g.installEpoch api epoch boot now).2 := by
  have h := installs api boot epoch now g
  generalize g.installEpoch api epoch boot now = out at h ⊢
  cases h with
  | reserved e hv => exact ⟨rfl, rfl⟩
  | stale e m hv hlt => exact ⟨rfl, rfl⟩
  | refused e g' next record hp hle => exact persist_history hp
  | entered g' next record hp hv hle =>
    have hkept := persist_history hp
    exact ⟨hkept.hotspots, hkept.interventions⟩

theorem notePublisherDeath_history (publisher : PublisherId) (now : Millis) :
    SameHistory g (g.notePublisherDeath api publisher now).2 := by
  have h := notes api now g publisher
  generalize g.notePublisherDeath api publisher now = out at h ⊢
  cases h with
  | unknown e hs => exact ⟨rfl, rfl⟩
  | refused e g' hp => exact persist_history hp
  | dead s g' hs hdead hp => exact persist_history hp
  | revoked s g' hs halive hp =>
    have hkept := persist_history hp
    exact ⟨hkept.hotspots, hkept.interventions⟩

theorem commitDurable_history (now : Millis) : SameHistory g (g.commitDurable api now).2 := by
  simp only [Governor.commitDurable]
  split
  · exact ⟨rfl, rfl⟩
  · split <;> exact ⟨rfl, rfl⟩

theorem recordDecision_interventions (decision : Decision) (now : Millis) (g : Governor σ) :
    (g.recordDecision decision now).durable.interventions <:+
        g.durable.interventions ++ decision.plan.intents.map (Governor.durableIntervention now) ∧
      (g.recordDecision decision now).durable.interventions.length ≤ Limits.kMaxHotspots * 4 := by
  unfold Governor.recordDecision
  dsimp only
  generalize g.durable.interventions ++ decision.plan.intents.map (Governor.durableIntervention now) = planned
  refine ⟨List.drop_suffix _ _, ?_⟩
  rw [List.length_drop]
  omega

/-- What one call does to the history: only an evaluation adds to it. -/
structure Records (e : Event Op Reply (Governor σ)) : Prop where
  hotspots : e.after.durable.hotspots =
    (confirmedBy e).foldl (upsert DurableHotspot.id (historyLimit e.before.config)) e.before.durable.hotspots
  interventions : e.after.durable.interventions <:+ e.before.durable.interventions ++ plannedBy e
  bounded : e.before.durable.interventions.length ≤ Limits.kMaxHotspots * 4 →
    e.after.durable.interventions.length ≤ Limits.kMaxHotspots * 4

theorem records_of_same {e : Event Op Reply (Governor σ)} (h : SameHistory e.before e.after)
    (hconfirmed : confirmedBy e = []) (hplanned : plannedBy e = []) : Records e := by
  refine ⟨?_, ?_, ?_⟩
  · rw [hconfirmed]
    exact h.hotspots
  · rw [hplanned, List.append_nil, h.interventions]
  · intro hle
    rw [h.interventions]
    exact hle

theorem records (api : StoreApi σ) (op : Op) (g : Governor σ) : Records (event (step api) op g) := by
  cases op with
  | installEpoch epoch boot now => exact records_of_same (installEpoch_history epoch boot now) rfl rfl
  | registerPublisher hello now =>
    obtain ⟨publishers, metrics, h⟩ := registerPublisher_eq hello now g
    refine records_of_same ⟨?_, ?_⟩ rfl rfl
    · exact (congrArg (fun g ↦ g.durable.hotspots) h :)
    · exact (congrArg (fun g ↦ g.durable.interventions) h :)
  | notePublisherDeath publisher now => exact records_of_same (notePublisherDeath_history publisher now) rfl rfl
  | admitFrame frame now =>
    obtain ⟨publishers, metrics, snapshots, verified, h⟩ := admitFrame_eq frame now g
    refine records_of_same ⟨?_, ?_⟩ rfl rfl
    · exact (congrArg (fun g ↦ g.durable.hotspots) h :)
    · exact (congrArg (fun g ↦ g.durable.interventions) h :)
  | evaluate now =>
    obtain ⟨hsuffix, hlength⟩ := recordDecision_interventions (g.evaluate now).1 now
      { g with engine := (g.engine.decideTracked (g.decisionInput now)).2 }
    refine ⟨?_, hsuffix, fun _ ↦ hlength⟩
    rw [← recordHotspot_eq]
    rfl
  | commitDurable now => exact records_of_same (commitDurable_history now) rfl rfl

theorem length_confirmedKey (op : Op) (g : Governor σ) :
    ∀ entry ∈ confirmedBy (event (step api) op g), entry.key.length ≤ Limits.kMaxTextBytes := by
  intro entry hentry
  cases op with
  | evaluate now =>
    obtain ⟨hotspot, hmem, rfl⟩ := List.mem_map.mp hentry
    exact length_key (List.mem_append_left _ hmem)
  | installEpoch epoch boot now => cases hentry
  | registerPublisher hello now => cases hentry
  | notePublisherDeath publisher now => cases hentry
  | admitFrame frame now => cases hentry
  | commitDurable now => cases hentry

variable {config : GovernorConfig} {world : σ} {process : Process} {now : Millis}
variable {past : List (Event Op Reply (Governor σ))}

/-- The history after some calls on a governor with this limit, in terms of what they recorded. -/
structure Recorded (limit : ℕ) (start : DurableState) (past : List (Event Op Reply (Governor σ)))
    (state : DurableState) : Prop where
  hotspots : state.hotspots = (past.flatMap confirmedBy).foldl (upsert DurableHotspot.id limit) start.hotspots
  interventions : state.interventions <:+ start.interventions ++ past.flatMap plannedBy
  bounded : start.interventions.length ≤ Limits.kMaxHotspots * 4 →
    state.interventions.length ≤ Limits.kMaxHotspots * 4
  keys : ∀ entry ∈ past.flatMap confirmedBy, entry.key.length ≤ Limits.kMaxTextBytes

theorem recorded_start (limit : ℕ) (start : DurableState) :
    Recorded limit start ([] : List (Event Op Reply (Governor σ))) start := by
  refine ⟨rfl, ?_, id, by simp⟩
  rw [List.flatMap_nil, List.append_nil]

theorem Recorded.snoc {start : DurableState} (h : Recorded (historyLimit g.config) start past g.durable) (op : Op) :
    Recorded (historyLimit g.config) start (past ++ [event (step api) op g]) (step api op g).2.durable := by
  have hstep := records api op g
  refine ⟨?_, ?_, fun hle ↦ hstep.bounded (h.bounded hle), ?_⟩
  · rw [List.flatMap_append, List.foldl_append, ← h.hotspots, List.flatMap_singleton]
    exact hstep.hotspots
  · rw [List.flatMap_append, List.flatMap_singleton, ← List.append_assoc]
    obtain ⟨dropped, hdropped⟩ := h.interventions
    refine hstep.interventions.trans ⟨dropped, ?_⟩
    rw [← hdropped, List.append_assoc]
    rfl
  · intro entry hentry
    rw [List.flatMap_append, List.flatMap_singleton] at hentry
    rcases List.mem_append.mp hentry with hentry | hentry
    · exact h.keys entry hentry
    · exact length_confirmedKey op g entry hentry

theorem recorded_of_run (h : GovernorRun api config world process now past g) :
    g.config = config ∧
      Recorded (historyLimit config) (recovered api config world process now).durable past g.durable := by
  induction h with
  | start => exact ⟨(recovered_evidence api config world process now).1, recorded_start _ _⟩
  | @snoc past g _ op ih =>
    obtain ⟨hconfig, hrecorded⟩ := ih
    refine ⟨(step_config api op g).1.trans hconfig, ?_⟩
    rw [← hconfig] at hrecorded ⊢
    exact hrecorded.snoc op

/-- The history is bounded, tells what the run recorded, and passes the checks of a commit. -/
structure Committable (limit : ℕ) (start : DurableState) (past : List (Event Op Reply (Governor σ)))
    (state : DurableState) : Prop where
  bounded : state.hotspots.length ≤ limit
  told : (marked DurableHotspot.id limit start.hotspots (past.flatMap confirmedBy)).map Prod.fst = state.hotspots
  distinct : ((gained DurableHotspot.id limit start.hotspots (past.flatMap confirmedBy)).map
    DurableHotspot.id).Nodup
  latest : ∀ pre entry post, past.flatMap confirmedBy = pre ++ entry :: post →
    (∀ later ∈ post, later.id ≠ entry.id) → entry ∈ state.hotspots ∨
      ∃ mid later rest, post = mid ++ later :: rest ∧ Evicts DurableHotspot.id limit
        ((pre ++ entry :: mid).foldl (upsert DurableHotspot.id limit) start.hotspots) entry later
  inhabited : ∀ pre entry post, past.flatMap confirmedBy = pre ++ entry :: post →
    ¬ Underflows limit (pre.foldl (upsert DurableHotspot.id limit) start.hotspots)
  interventions : state.interventions.length ≤ Limits.kMaxHotspots * 4
  suffix : state.interventions <:+ start.interventions ++ past.flatMap plannedBy
  accepted : validateState state = .ok ()

theorem validateState_of_valid {state : DurableState} (h : Valid state) : validateState state = .ok () := by
  have hkeys : ¬ state.hotspots.any (fun hotspot ↦ hotspot.key.length > Limits.kMaxTextBytes) = true := by
    simpa using h.keys
  unfold validateState
  rw [if_neg (not_lt.mpr h.hotspots), if_neg (not_lt.mpr h.interventions), if_neg hkeys]

theorem Recorded.committable {limit : ℕ} {start state : DurableState} (h : Recorded limit start past state)
    (hvalid : Valid start) (hlimit : 0 < limit) (hbound : limit ≤ Limits.kMaxHotspots)
    (hfits : start.hotspots.length ≤ limit) : Committable limit start past state := by
  have hlength : state.hotspots.length ≤ limit := by
    rw [h.hotspots]
    exact length_foldl_le _ hlimit hfits
  have hkeys : ∀ entry ∈ state.hotspots, entry.key.length ≤ Limits.kMaxTextBytes := by
    intro entry hentry
    rw [h.hotspots] at hentry
    exact (mem_foldl hentry).elim (hvalid.keys entry) (h.keys entry)
  refine ⟨hlength, ?_, gained_nodup _ _ _ _, ?_, ?_, h.bounded hvalid.interventions, h.interventions,
    validateState_of_valid ⟨hlength.trans hbound, h.bounded hvalid.interventions, hkeys⟩⟩
  · rw [marked_fst, h.hotspots]
  · intro pre entry post hsplit hlater
    have hself := (upserts DurableHotspot.id limit
      (pre.foldl (upsert DurableHotspot.id limit) start.hotspots) entry).mem_self
    rw [h.hotspots, hsplit, List.foldl_append, List.foldl_cons]
    refine (kept_foldl hself hlater).imp_right ?_
    rintro ⟨mid, later, rest, rfl, hevicts⟩
    refine ⟨mid, later, rest, rfl, ?_⟩
    rw [List.foldl_append, List.foldl_cons]
    exact hevicts
  · rintro pre entry post hsplit ⟨hempty, hfull⟩
    rw [hempty] at hfull
    exact absurd hfull (not_le.mpr hlimit)

end Runs

/-- For every configuration, recovered state and run: after an evaluation that confirms a hotspot the
history is bounded and committable exactly when the configured bound is not zero and the recovered
history was within it. -/
theorem committable_iff {config : GovernorConfig} {world : Store} {process : Process} {now : Millis}
    {past : List (Event Op Reply (Governor Store))} {g : Governor Store}
    (hrun : GovernorRun durableStore config world process now past g) {evaluatedAt : Millis}
    (hconfirms : (g.evaluate evaluatedAt).1.assessment.hotspots ≠ []) :
    let start := (recovered durableStore config world process now).durable
    Committable (historyLimit config) start
        (past ++ [event (step durableStore) (.evaluate evaluatedAt) g]) (g.evaluate evaluatedAt).2.durable ↔
      0 < config.maxHistory ∧ start.hotspots.length ≤ config.maxHistory := by
  intro start
  have hrecorded := (recorded_of_run (hrun.snoc (.evaluate evaluatedAt))).2
  have hvalid : Valid start := valid_recovered config world process now
  constructor
  · intro h
    have hbounded := h.bounded
    have hkept : start.hotspots.length ≤ (g.evaluate evaluatedAt).2.durable.hotspots.length := by
      have hhotspots : (g.evaluate evaluatedAt).2.durable.hotspots = _ := hrecorded.hotspots
      rw [hhotspots]
      exact length_le_foldl _
    have hsome : (g.evaluate evaluatedAt).2.durable.hotspots ≠ [] := by
      refine foldl_ne_nil fun hnil ↦ ?_
      exact hconfirms (List.map_eq_nil_iff.mp hnil)
    have hpos := List.length_pos_of_ne_nil hsome
    exact ⟨(hpos.trans_le hbounded).trans_le (min_le_left _ _),
      (hkept.trans hbounded).trans (min_le_left _ _)⟩
  · rintro ⟨hpos, hfits⟩
    exact hrecorded.committable hvalid (lt_min hpos (by decide)) (min_le_right _ _)
      (le_min hfits hvalid.hotspots)

def switchCapacity : Frame := makeFrame .capacity (sentAs 1 2 1) (capacityPayload 1 1)

def fullPayload : Bytes :=
  encodeStreamHeader .signals 1 0 ++ putU64 1 ++ putU64 1 ++ putI64 0 ++
    (putCount 1 ++ putU64 1 ++ putU64 10 ++ putU64 0 ++ putU64 0 ++ putU64 0 ++ putU64 0 ++ putU64 0 ++
      putU32 1000000 ++ putU8 4 ++ putI64 0)

def fullSwitch : Frame := makeFrame .signals (sentAs 1 3 1) fullPayload

def fullOps : List Op :=
  [.registerPublisher introduction 0, .admitFrame oneSwitchFrame 0, .admitFrame switchCapacity 0,
    .admitFrame fullSwitch 0, .evaluate 0, .evaluate 1000]

def fullGovernor (maxHistory : ℕ) : Governor Store :=
  final (step durableStore) (recovered durableStore { maxHistory } {} ⟨0, 0⟩ 0) fullOps

theorem admitStream_makeFrame {σ : Type} {type : MessageType} (provenance : Provenance) {payload : Bytes}
    (htype : type ≠ .heartbeat) (h : payload.length ≤ Limits.kMaxFrameBytes) (now : Millis) (g : Governor σ) :
    g.admitFrame (makeFrame type provenance payload) now =
      g.countReceived.admitStream (makeFrame type provenance payload) now :=
  (admit_makeFrame type provenance h now g).trans (if_neg htype)

def loadedGovernor (maxHistory : ℕ) : Governor Store :=
  let g := (recovered durableStore { maxHistory } {} ⟨0, 0⟩ 0).registerPublisher introduction 0
  let g := g.2.countReceived.admitStream oneSwitchFrame 0
  let g := g.2.countReceived.admitStream switchCapacity 0
  (g.2.countReceived.admitStream fullSwitch 0).2

theorem step_evaluate {σ : Type} (api : StoreApi σ) (now : Millis) (g : Governor σ) :
    (step api (.evaluate now) g).2 = (g.evaluate now).2 := rfl

theorem fullGovernor_eq (maxHistory : ℕ) :
    fullGovernor maxHistory = (((loadedGovernor maxHistory).evaluate 0).2.evaluate 1000).2 := by
  have hswitch (g : Governor Store) :
      g.admitFrame oneSwitchFrame 0 = g.countReceived.admitStream oneSwitchFrame 0 :=
    admitStream_makeFrame (sentAs 1 1 1) (by decide) (by decide) 0 g
  have hcapacity (g : Governor Store) :
      g.admitFrame switchCapacity 0 = g.countReceived.admitStream switchCapacity 0 :=
    admitStream_makeFrame (sentAs 1 2 1) (by decide) (by decide) 0 g
  have hsignals (g : Governor Store) :
      g.admitFrame fullSwitch 0 = g.countReceived.admitStream fullSwitch 0 :=
    admitStream_makeFrame (sentAs 1 3 1) (by decide) (by decide) 0 g
  unfold fullGovernor fullOps final loadedGovernor
  rw [List.foldl_cons, List.foldl_cons, List.foldl_cons, List.foldl_cons, List.foldl_cons, List.foldl_cons,
    List.foldl_nil, step_registerPublisher, step_admitFrame, step_admitFrame, step_admitFrame, step_evaluate,
    step_evaluate, hswitch, hcapacity, hsignals]

set_option maxRecDepth 8000 in
theorem fullGovernor_confirms : ((fullGovernor 4096).evaluate 2000).1.assessment.hotspots ≠ [] := by
  rw [fullGovernor_eq]
  exact List.ne_nil_of_length_pos (by decide +kernel)

theorem committable_iff_full : ∃ past,
    GovernorRun durableStore { maxHistory := 4096 } {} ⟨0, 0⟩ 0 past (fullGovernor 4096) ∧
    Committable (historyLimit { maxHistory := 4096 })
      (recovered durableStore { maxHistory := 4096 } {} ⟨0, 0⟩ 0).durable
      (past ++ [event (step durableStore) (.evaluate 2000) (fullGovernor 4096)])
      ((fullGovernor 4096).evaluate 2000).2.durable := by
  obtain ⟨past, hrun⟩ : ∃ past,
      GovernorRun durableStore { maxHistory := 4096 } {} ⟨0, 0⟩ 0 past (fullGovernor 4096) := Run.exists fullOps
  exact ⟨past, hrun, (committable_iff hrun fullGovernor_confirms).mpr ⟨by decide, by decide⟩⟩

set_option maxRecDepth 8000 in
/-- Under a bound of zero the first confirmed hotspot asks an empty history for room, and stays. -/
theorem zero_bound_underflows : ∃ past,
    GovernorRun durableStore { maxHistory := 0 } {} ⟨0, 0⟩ 0 past (fullGovernor 0) ∧
    ((fullGovernor 0).evaluate 2000).1.assessment.hotspots.length = 1 ∧
    Underflows (historyLimit { maxHistory := 0 }) (fullGovernor 0).durable.hotspots ∧
    ((fullGovernor 0).evaluate 2000).2.durable.hotspots.length = 1 ∧
    ¬ Committable (historyLimit { maxHistory := 0 })
      (recovered durableStore { maxHistory := 0 } {} ⟨0, 0⟩ 0).durable
      (past ++ [event (step durableStore) (.evaluate 2000) (fullGovernor 0)])
      ((fullGovernor 0).evaluate 2000).2.durable := by
  obtain ⟨past, hrun⟩ : ∃ past,
      GovernorRun durableStore { maxHistory := 0 } {} ⟨0, 0⟩ 0 past (fullGovernor 0) := Run.exists fullOps
  have hempty : (fullGovernor 0).durable.hotspots = [] := by
    rw [fullGovernor_eq]
    exact List.eq_nil_of_length_eq_zero (by decide +kernel)
  have hlength : ((fullGovernor 0).evaluate 2000).2.durable.hotspots.length = 1 := by
    rw [fullGovernor_eq]
    decide +kernel
  refine ⟨past, hrun, ?_, ⟨hempty, Nat.zero_le _⟩, hlength, ?_⟩
  · rw [fullGovernor_eq]
    decide +kernel
  · intro h
    have hbounded := h.bounded
    rw [hlength] at hbounded
    cases hbounded

end HotspotGovernor.History
