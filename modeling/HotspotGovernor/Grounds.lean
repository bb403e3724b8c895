import HotspotGovernor.Containment
import HotspotGovernor.Lib.Recent
import HotspotGovernor.Provenance
import HotspotGovernor.RoundTrip

namespace HotspotGovernor.Grounds

open Foundation Topology Evidence Detection Intervention Decisions Durable Framing Governance Admission
open Sampling Hotspots Detect Admissibility Components Reporting Persistence Operations Effects Provenance
open Lib.Trace Lib.Recent

theorem foldl_spanStep_attained {entries : List Entry} (h : entries ≠ []) : ∃ a ∈ entries, ∃ b ∈ entries,
    entries.foldl Scene.spanStep none = some (a.firstSaturated, b.samples) := by
  induction entries using List.reverseRecOn with
  | nil => exact absurd rfl h
  | append_singleton entries last ih =>
    have hlast : last ∈ entries ++ [last] := by simp
    rw [List.foldl_append, List.foldl_cons, List.foldl_nil]
    rcases eq_or_ne entries [] with rfl | hne
    · exact ⟨last, hlast, last, hlast, rfl⟩
    · obtain ⟨a, ha, b, hb, hspan⟩ := ih hne
      rw [hspan]
      unfold Scene.spanStep
      dsimp only
      have ha' := List.mem_append_left [last] ha
      have hb' := List.mem_append_left [last] hb
      split <;> split
      · exact ⟨last, hlast, last, hlast, rfl⟩
      · exact ⟨last, hlast, b, hb', rfl⟩
      · exact ⟨a, ha', last, hlast, rfl⟩
      · exact ⟨a, ha', b, hb', rfl⟩

theorem span_attained {scene : Scene} {component : List ℕ} (h : component ≠ []) :
    (∃ i ∈ component, (scene.span component).1 = (scene.entryState (scene.resourceId i)).firstSaturated) ∧
      ∃ i ∈ component, (scene.span component).2 = (scene.entryState (scene.resourceId i)).samples := by
  have hmap : (scene.history component).map Prod.snd =
      component.map fun i ↦ scene.entryState (scene.resourceId i) := List.map_map
  obtain ⟨a, ha, b, hb, hspan⟩ := foldl_spanStep_attained (show (scene.history component).map Prod.snd ≠ [] by
    rw [hmap]
    simpa using h)
  rw [hmap] at ha hb
  obtain ⟨i, hi, rfl⟩ := List.mem_map.mp ha
  obtain ⟨j, hj, rfl⟩ := List.mem_map.mp hb
  unfold Scene.span
  rw [hspan]
  exact ⟨⟨i, hi, rfl⟩, ⟨j, hj, rfl⟩⟩

/-- Saturated at every one of the latest evaluations, as many and as long as the thresholds ask. -/
def Sustained (t : Thresholds) (now : Millis) (calls : List DecisionInput) (id : ResourceId) : Prop :=
  ∃ earlier window first, Stretch (fun call ↦ SaturatedIn call id) calls earlier window ∧
    window.head? = some first ∧ t.minPersistenceSamples.toNat ≤ window.length ∧
    millis t.persistenceWindowMs ≤ elapsedMs first.now now

theorem stretch_streak (id : ResourceId) (calls : List DecisionInput) :
    ∃ earlier, Stretch (fun call ↦ SaturatedIn call id) calls earlier (streak id calls).reverse := by
  induction calls using List.reverseRecOn with
  | nil =>
    exact ⟨[], rfl, fun call hcall ↦ absurd hcall (by simp [streak]), fun call hcall ↦ absurd hcall (by simp)⟩
  | append_singleton calls call ih =>
    by_cases hsat : SaturatedIn call id
    · obtain ⟨earlier, h⟩ := ih
      rw [streak_concat_of_saturated hsat, List.reverse_cons]
      exact ⟨earlier, h.snoc hsat⟩
    · rw [streak_concat_of_not hsat]
      exact ⟨calls ++ [call], .reset calls hsat⟩

theorem sustained_iff {t : Thresholds} {now : Millis} {calls : List DecisionInput} {id : ResourceId} :
    Sustained t now calls id ↔ t.minPersistenceSamples.toNat ≤ (streak id calls).length ∧
      ∃ first, (streak id calls).getLast? = some first ∧
        millis t.persistenceWindowMs ≤ elapsedMs first.now now := by
  obtain ⟨earlier, hstreak⟩ := stretch_streak id calls
  constructor
  · intro h
    obtain ⟨earlier', window, first, hstretch, hhead, hcount, helapsed⟩ := h
    have hwindow := hstretch.window_unique hstreak
    rw [hwindow, List.length_reverse] at hcount
    rw [hwindow, List.head?_reverse] at hhead
    exact ⟨hcount, first, hhead, helapsed⟩
  · intro h
    obtain ⟨hcount, first, hlast, helapsed⟩ := h
    refine ⟨earlier, _, first, hstreak, ?_, ?_, helapsed⟩
    · rw [List.head?_reverse]
      exact hlast
    · rw [List.length_reverse]
      exact hcount

theorem sustained_iff_entry {t : Thresholds} {now : Millis} {calls : List DecisionInput} {id : ResourceId}
    {entry : Entry} (h : some entry = streakEntry (streak id calls)) : Sustained t now calls id ↔
      t.minPersistenceSamples ≤ entry.samples ∧
        millis t.persistenceWindowMs ≤ elapsedMs entry.firstSaturated now := by
  rw [sustained_iff]
  cases hs : streak id calls with
  | nil =>
    rw [hs] at h
    cases h
  | cons call rest =>
    rw [hs] at h
    obtain rfl := Option.some.inj h
    have hbound := t.minPersistenceSamples.toNat_lt
    rw [UInt32.le_iff_toNat_le, UInt32.toNat_ofNat', List.length_cons,
      List.getLast?_eq_some_getLast (List.cons_ne_nil _ _)]
    refine and_congr ⟨fun hcount ↦ ?_, fun hcount ↦ ?_⟩ ⟨?_, fun helapsed ↦ ⟨_, rfl, helapsed⟩⟩
    · omega
    · omega
    · intro h
      obtain ⟨first, hfirst, helapsed⟩ := h
      rw [Option.some.inj hfirst]
      exact helapsed

/-- A component persists exactly if the saturation of every one of its resources was sustained. -/
theorem persistent_iff {calls : List DecisionInput} {call : DecisionInput} {ev : BoundEvidence}
    {binding : EvidenceBinding} {component : List ℕ} (hne : component ≠ [])
    (hsat : ∀ i ∈ component, SaturatedIn call
      ((sceneOf (withTracker call (trackerAfter calls)) ev binding).resourceId i)) :
    ((sceneOf (withTracker call (trackerAfter calls)) ev binding).hotspotOf component).persistent = true ↔
      ∀ id ∈ component.map (sceneOf (withTracker call (trackerAfter calls)) ev binding).resourceId,
        Sustained call.thresholds call.now (calls ++ [call]) id := by
  set scene := sceneOf (withTracker call (trackerAfter calls)) ev binding with hscene
  have hpersistent : (scene.hotspotOf component).persistent = true ↔
      call.thresholds.minPersistenceSamples ≤ (scene.span component).2 ∧
        millis call.thresholds.persistenceWindowMs ≤ elapsedMs (scene.span component).1 call.now := by
    simp only [Scene.hotspotOf, Scene.persistentOf, Bool.and_eq_true, decide_eq_true_eq, ge_iff_le]
    exact ⟨fun h ↦ ⟨h.1.2, h.2⟩, fun h ↦ ⟨⟨rfl, h.1⟩, h.2⟩⟩
  have hentry : ∀ i ∈ component, some (scene.entryState (scene.resourceId i)) =
      streakEntry (streak (scene.resourceId i) (calls ++ [call])) :=
    fun i hi ↦ entryState_eq_streak (hsat i hi) ev binding
  rw [hpersistent, List.forall_mem_map]
  constructor
  · intro h i hi
    obtain ⟨hcount, helapsed⟩ := h
    obtain ⟨hstart, hsamples⟩ := @span_le scene component i hi
    rw [sustained_iff_entry (hentry i hi)]
    refine ⟨UInt32.le_trans hcount hsamples, Int64.le_trans helapsed (elapsedMs_anti call.now ?_ hstart)⟩
    have hwell := hentry i hi
    cases hs : streak (scene.resourceId i) (calls ++ [call]) with
    | nil =>
      rw [hs] at hwell
      cases hwell
    | cons c cs =>
      rw [hs] at hwell
      rw [Option.some.inj hwell]
      have hmem : (c :: cs).getLast (List.cons_ne_nil _ _) ∈ streak (scene.resourceId i) (calls ++ [call]) := by
        rw [hs]
        exact List.getLast_mem _
      exact (saturatedIn_of_mem_streak hmem).now_ne
  · intro h
    obtain ⟨⟨i, hi, hstart⟩, ⟨j, hj, hcount⟩⟩ := @span_attained scene component hne
    rw [hstart, hcount]
    exact ⟨((sustained_iff_entry (hentry j hj)).mp (h j hj)).1, ((sustained_iff_entry (hentry i hi)).mp (h i hi)).2⟩

variable {σ : Type} {api : StoreApi σ} {past pre post : Fencing.History σ} {g : Governor σ}
  {e : Event Op Reply (Governor σ)}

def callOf (e : Event Op Reply (Governor σ)) : Option DecisionInput :=
  match e.op with
  | .evaluate now => some (e.before.decisionInput now)
  | _ => none

def calls (past : Fencing.History σ) : List DecisionInput := past.filterMap callOf

theorem calls_snoc : calls (past ++ [e]) = calls past ++ (callOf e).toList := by
  unfold calls
  rw [List.filterMap_append]
  cases h : callOf e with
  | none => simp [h]
  | some call => simp [h]

theorem callOf_eq_some {call : DecisionInput} (h : callOf e = some call) :
    e.op = .evaluate call.now ∧ call = e.before.decisionInput call.now := by
  unfold callOf at h
  split at h
  · next now hop =>
    obtain rfl := Option.some.inj h
    exact ⟨hop, rfl⟩
  · cases h

theorem trackerAfter_snoc (earlier : List DecisionInput) (call : DecisionInput) :
    trackerAfter (earlier ++ [call]) =
      (detect (withTracker call (trackerAfter earlier))).2.getD (trackerAfter earlier) := by
  unfold trackerAfter
  rw [List.foldl_append, List.foldl_cons, List.foldl_nil]

section Run

variable {config : GovernorConfig} {world : σ} {process : Process} {start : Millis}

theorem recovered_tracker (api : StoreApi σ) (config : GovernorConfig) (world : σ) (process : Process)
    (start : Millis) :
    (recovered api config world process start).engine.tracker = default := by
  simp only [recovered, Governor.recover]
  split
  · rfl
  · split
    · rfl
    · split
      · rfl
      · split <;> rfl

theorem tracker_of_run (h : GovernorRun api config world process start past g) :
    g.engine.tracker = trackerAfter (calls past) := by
  refine @Run.invariant _ _ _ _ _ _ _ (fun past g ↦ g.engine.tracker = trackerAfter (calls past))
    (recovered_tracker api config world process start) (fun past g op ih ↦ ?_) h
  rw [calls_snoc]
  cases op with
  | evaluate now =>
    have hcall : callOf (event (step api) (.evaluate now) g) = some (g.decisionInput now) := rfl
    have hinput : withTracker (g.decisionInput now) g.engine.tracker = g.decisionInput now := rfl
    rw [hcall, Option.toList_some, trackerAfter_snoc, ← ih, hinput]
    rfl
  | _ =>
    rw [step_engine api (by simp), ih]
    exact (congrArg trackerAfter (List.append_nil _)).symm

end Run

/-- There is a snapshot of the stream, and it is what the latest frame installed in it decodes to. -/
def Backed (past : Fencing.History σ) (s : Snapshots) (stream : StreamKind) : Prop :=
  only stream s ≠ {} ∧ Traced past s stream

def Announced (past : Fencing.History σ) (call : DecisionInput) : Prop :=
  ∃ pre e post, past = pre ++ e :: post ∧ e.op = .evaluate call.now ∧ call = e.before.decisionInput call.now ∧
    ∀ stream ∈ [StreamKind.topology, .capacity, .signals], Backed pre e.before.snapshots stream

theorem present_of_admitted {now : Millis} {ev : BoundEvidence} (h : admittedEvidence (g.decisionInput now) = some ev) :
    ∀ stream ∈ [StreamKind.topology, .capacity, .signals], only stream g.snapshots ≠ {} := by
  have hgates := gates_of_admitted h
  have htopology : g.snapshots.topology = some ev.topology := hgates.topology
  have hcapacity : g.snapshots.capacity = some ev.capacity := (capacityFinding_admitted.mp hgates.capacity).1
  obtain ⟨_, -, hsignals, -⟩ := signalsFinding_admitted.mp hgates.signals
  have hsignals : g.snapshots.signals = some ev.signals := hsignals
  intro stream hstream hnone
  rcases List.mem_cons.mp hstream with rfl | hstream
  · cases htopology.symm.trans (congrArg Snapshots.topology hnone :)
  · rcases List.mem_cons.mp hstream with rfl | hstream
    · cases hcapacity.symm.trans (congrArg Snapshots.capacity hnone :)
    · obtain rfl := List.mem_singleton.mp hstream
      cases hsignals.symm.trans (congrArg Snapshots.signals hnone :)

section Run

variable {config : GovernorConfig} {world : σ} {process : Process} {start : Millis}

theorem announced (h : GovernorRun api config world process start past g) {call : DecisionInput}
    (hcall : call ∈ calls past) {id : ResourceId} (hsat : SaturatedIn call id) : Announced past call := by
  obtain ⟨e, he, hof⟩ := List.mem_filterMap.mp hcall
  obtain ⟨hop, hinput⟩ := callOf_eq_some hof
  obtain ⟨pre, post, hpast⟩ := List.append_of_mem he
  obtain ⟨ev, hadm, -⟩ := hsat
  rw [hinput] at hadm
  refine ⟨pre, e, post, hpast, hop, hinput, fun stream hstream ↦
    ⟨present_of_admitted hadm stream hstream, ?_⟩⟩
  exact traced_of_run (h.splitAt hpast).1 stream

theorem decision_of_run (h : GovernorRun api config world process start past g) (hpast : past = pre ++ e :: post)
    {d : Decision} (hout : e.out = .decision d) : ∃ call, callOf e = some call ∧
      call = withTracker call (trackerAfter (calls pre)) ∧ d = (Engine.evaluate call).1 := by
  obtain ⟨hrun, hevent⟩ := h.splitAt hpast
  have htracker := tracker_of_run hrun
  rw [hevent] at hout
  cases hop : e.op with
  | evaluate now =>
    rw [hop] at hout
    refine ⟨e.before.decisionInput now, ?_, ?_, (Reply.decision.inj hout).symm⟩
    · unfold callOf
      rw [hop]
    · rw [← htracker]
      rfl
  | _ =>
    rw [hop] at hout
    cases hout

end Run

theorem persistent_of_mem {scene : Scene} {persistent : Bool} {comps : List (List ℕ)} {n : ℕ} {hotspot : Hotspot}
    (h : hotspot ∈ (hotspotsOf scene persistent comps).take n) : hotspot.persistent = persistent :=
  of_decide_eq_true (List.mem_filter.mp (List.mem_of_mem_take h)).2

theorem persistent_of_reported {input : DecisionInput} {ev : BoundEvidence} (h : admittedEvidence input = some ev) :
    (∀ hotspot ∈ (detect input).1.hotspots, hotspot.persistent = true) ∧
      ∀ hotspot ∈ (detect input).1.candidates, hotspot.persistent = false := by
  obtain ⟨r, hdet, -⟩ := detect_localized h
  obtain ⟨authority, hhot, hcand, -, -⟩ :=
    localize_spec input ev (account r (tallyOf ev input.thresholds input.now))
  rw [hdet, hhot, hcand]
  exact ⟨List.forall_mem_map.mpr fun _ ↦ persistent_of_mem, List.forall_mem_map.mpr fun _ ↦ persistent_of_mem⟩

/-- A reported hotspot is one component of saturated resources, confirmed exactly if all of them stayed so. -/
def ConfirmedAs (calls : List DecisionInput) (call : DecisionInput) (r : FabricAssessment) (hotspot : Hotspot)
    (component : List ResourceId) : Prop :=
  component ≠ [] ∧ component.Nodup ∧ hotspot.saturatedCount = component.length ∧
    hotspot.saturatedResources = component.take Limits.kMaxHotspotResources ∧
    (∀ id ∈ component, SaturatedIn call id) ∧
    (hotspot ∈ r.hotspots ↔ ∀ id ∈ component, Sustained call.thresholds call.now calls id)

theorem confirmedAs {earlier : List DecisionInput} {call : DecisionInput}
    (hcall : call = withTracker call (trackerAfter earlier)) {ev : BoundEvidence}
    (hadm : admittedEvidence call = some ev)
    {component : List ℕ} (hc : component ∈ (sceneOf call ev (recordBinding call)).components) {hotspot : Hotspot}
    (hmem : hotspot ∈ (detect call).1.hotspots ++ (detect call).1.candidates)
    (hreports : Classification.Reports (sceneOf call ev (recordBinding call)) hotspot component) :
    ConfirmedAs (earlier ++ [call]) call (detect call).1 hotspot
      (component.map (sceneOf call ev (recordBinding call)).resourceId) := by
  have hbuilt := (gates_of_admitted hadm).built
  have hne : component ≠ [] := (grouped hbuilt).inhabited component hc
  have hsat : ∀ id ∈ component.map (sceneOf call ev (recordBinding call)).resourceId, SaturatedIn call id :=
    fun id hid ↦ ⟨ev, hadm, (mem_componentIds hbuilt).mp ⟨_, List.mem_map_of_mem hc, hid⟩⟩
  obtain ⟨hconfirmed, hcandidate⟩ := persistent_of_reported hadm
  obtain ⟨hcount, hresources, hsame⟩ : hotspot.saturatedCount = component.length ∧ hotspot.saturatedResources =
      (component.take Limits.kMaxHotspotResources).map (sceneOf call ev (recordBinding call)).resourceId ∧
      hotspot.persistent = ((sceneOf call ev (recordBinding call)).hotspotOf component).persistent := by
    obtain ⟨authority, rfl⟩ := hreports
    exact ⟨rfl, rfl, rfl⟩
  refine ⟨by simpa using hne, Containment.ids_nodup hbuilt hc, hcount.trans (List.length_map _).symm,
    hresources.trans List.map_take, hsat, ?_⟩
  have hpersistent : ((sceneOf call ev (recordBinding call)).hotspotOf component).persistent = true ↔
      ∀ id ∈ component.map (sceneOf call ev (recordBinding call)).resourceId,
        Sustained call.thresholds call.now (earlier ++ [call]) id := by
    have h := @persistent_iff earlier call ev (recordBinding call) component hne
    rw [← hcall] at h
    exact h (List.forall_mem_map.mp hsat)
  rw [← hpersistent, ← hsame]
  constructor
  · intro hin
    exact hconfirmed hotspot hin
  · intro hp
    rcases List.mem_append.mp hmem with hin | hin
    · exact hin
    · exact absurd (hp.symm.trans (hcandidate hotspot hin)) (by decide)

section Run

variable {config : GovernorConfig} {world : σ} {process : Process} {start : Millis}

/-- In every run: an evaluation confirms a hotspot that it reports exactly if each resource of its component
was saturated at every one of the latest evaluations, as many and over as long a time as the policy asks. -/
theorem confirmed_iff_sustained (h : GovernorRun api config world process start past g)
    (hpast : past = pre ++ e :: post) {d : Decision} (hout : e.out = .decision d) :
    ∃ call, calls (pre ++ [e]) = calls pre ++ [call] ∧
      ∀ hotspot ∈ d.assessment.hotspots ++ d.assessment.candidates, ∃ component,
        ConfirmedAs (calls (pre ++ [e])) call d.assessment hotspot component := by
  obtain ⟨call, hof, hcall, rfl⟩ := decision_of_run h hpast hout
  have hcalls : calls (pre ++ [e]) = calls pre ++ [call] := by
    rw [calls_snoc, hof]
    rfl
  refine ⟨call, hcalls, ?_⟩
  intro hotspot hmem
  obtain ⟨ev, hadm, component, hc, hreports⟩ := reported_component hmem
  rw [hcalls]
  exact ⟨_, confirmedAs hcall hadm hc hmem hreports⟩

theorem drafted_of_mem {call : DecisionInput} {intent : MitigationIntent}
    (hin : intent ∈ (Engine.evaluate call).1.plan.intents) (hlocal : intent.escalation = false) :
    ∃ p plan hotspot kind, hotspot ∈ (detect call).1.hotspots ∧ Turns.DraftedAs p plan hotspot kind intent := by
  have hin : intent ∈
    (planInterventions (detect call).1 call.topology call.capacity call.policy call.now).intents := hin
  obtain ⟨p, hp, hsame⟩ := Turns.localPlanning_of_mem hin (.inr hlocal)
  obtain ⟨hotspot, hplanned⟩ := (Turns.mem_intents_iff hp).mp hin
  obtain ⟨before, after, kind, -, -, hdrafted⟩ := Turns.plannedFor_iff.mp hplanned
  exact ⟨p, _, hotspot, kind, hsame ▸ hplanned.mem, hdrafted⟩

theorem confirmed_of_served {now : Millis} {intent : MitigationIntent}
    (hin : intent ∈ (g.evaluate now).1.plan.intents)
    (hlocal : intent.escalation = false) : ∃ hotspot, hotspot ∈ (g.evaluate now).1.assessment.hotspots := by
  obtain ⟨_, _, hotspot, _, hmem, -⟩ := @drafted_of_mem (g.decisionInput now) intent hin hlocal
  exact ⟨hotspot, hmem⟩

/-- What a local intent rests on: a confirmed hotspot, all of which it acts on, and evidence of each
resource's saturation that frames of the run announced to every one of the latest evaluations. -/
structure Earned (past : Fencing.History σ) (call : DecisionInput) (hotspot : Hotspot) (component : List ResourceId)
    (intent : MitigationIntent) : Prop where
  owner : intent.hotspot = hotspot.id
  whole : component ⊆ intent.affectedResources
  beyond : ∀ id ∈ intent.affectedResources, id ∈ component ∨ intent.kind = .flowRelocation ∧
    ∃ topology, call.topology = some topology ∧ ∃ a ∈ component, TopologyIndex.Adjacent topology.links a id
  sustained : ∀ id ∈ component, Sustained call.thresholds call.now (calls past) id
  announced : ∀ id ∈ component, ∀ call ∈ calls past, SaturatedIn call id → Announced past call

theorem mitigations_earned (h : GovernorRun api config world process start past g)
    (hpast : past = pre ++ e :: post) {d : Decision} (hout : e.out = .decision d) {intent : MitigationIntent}
    (hin : intent ∈ d.plan.intents) (hlocal : intent.escalation = false) :
    Backed pre e.before.snapshots .policy ∧ ∃ call, calls (pre ++ [e]) = calls pre ++ [call] ∧
      ∃ hotspot ∈ d.assessment.hotspots, ∃ component,
        ConfirmedAs (calls (pre ++ [e])) call d.assessment hotspot component ∧
        Earned (pre ++ [e]) call hotspot component intent := by
  obtain ⟨call, hof, hcall, rfl⟩ := decision_of_run h hpast hout
  have hcalls : calls (pre ++ [e]) = calls pre ++ [call] := by
    rw [calls_snoc, hof]
    rfl
  obtain ⟨p, plan, hotspot, kind, hmem, hdrafted⟩ := drafted_of_mem hin hlocal
  have hin : intent ∈
    (planInterventions (detect call).1 call.topology call.capacity call.policy call.now).intents := hin
  obtain ⟨ev, hadm, component, hc, hreports⟩ := reported_component (List.mem_append_left _ hmem)
  have hconfirmed := confirmedAs hcall hadm hc (List.mem_append_left _ hmem) hreports
  have hcontained := Containment.contained_of_drafted (gates_of_admitted hadm).built hc hreports hdrafted
  obtain ⟨-, hinput⟩ := callOf_eq_some hof
  refine ⟨⟨?_, traced_of_run (h.splitAt hpast).1 .policy⟩, call, hcalls, hotspot, hmem, _,
    hcalls ▸ hconfirmed, ?_⟩
  · rcases Mitigation.planInterventions_cases (detect call).1 call.topology call.capacity call.policy call.now with
      ⟨hnone, -⟩ | ⟨_, policy, -, hpolicy, -⟩
    · rw [hnone] at hin
      cases hin
    · intro hgone
      rw [hinput] at hpolicy
      cases hpolicy.symm.trans (congrArg Snapshots.policy hgone :)
  · obtain ⟨-, -, -, -, -, hsustained⟩ := hconfirmed
    constructor
    · obtain ⟨draft, -, -, rfl⟩ := hdrafted
      rfl
    · exact hcontained.whole
    · intro id hid
      rcases hcontained.beyond id hid with hmember | ⟨hkind, hadjacent, -⟩
      · exact Or.inl hmember
      · exact Or.inr ⟨hkind, _, (gates_of_admitted hadm).topology, hadjacent⟩
    · rw [hcalls]
      exact hsustained.mp hmem
    · exact fun id _ call' hcall' hsat ↦ announced (h.upTo hpast) hcall' hsat

end Run

open Atomicity Justification RoundTrip

def body {α : Type} (wrap : α → StreamSnapshot) (built : Result α) : ByteIo.Bytes :=
  ((built.bind fun s ↦ (wrap s).encodePayload).toOption).getD []

def pairsOps : List Op :=
  [.registerPublisher introduction 10000,
    .admitFrame (makeFrame .topology (sentAs 1 1 1) (body .topology fourSwitches)) 10000,
    .admitFrame (makeFrame .capacity (sentAs 1 2 1) (body .capacity fourCapacities)) 10000,
    .admitFrame (makeFrame .signals (sentAs 1 3 1) (body .signals fourSamples)) 10000,
    .admitFrame (makeFrame .policy (sentAs 1 4 1) (body .policy (.ok { issuedAt := 9000, ttlMs := 60000 }))) 10000,
    .evaluate 10000, .evaluate 11000]

def pairsPast : Fencing.History Unit := history (step noStore) (recovered noStore {} () ⟨0, 0⟩ 0) pairsOps

def pairsGovernor : Governor Unit := final (step noStore) (recovered noStore {} () ⟨0, 0⟩ 0) pairsOps

theorem pairs_run : GovernorRun noStore {} () ⟨0, 0⟩ 0
    (pairsPast ++ [event (step noStore) (.evaluate 12000) pairsGovernor])
      (step noStore (.evaluate 12000) pairsGovernor).2 := by
  have h : GovernorRun noStore {} () ⟨0, 0⟩ 0 pairsPast pairsGovernor := Run.of_ops pairsOps
  exact h.snoc (.evaluate 12000)

set_option maxRecDepth 4000 in
theorem pairs_served : ∃ intent ∈ (pairsGovernor.evaluate 12000).1.plan.intents, intent.escalation = false := by
  have hany : (pairsGovernor.evaluate 12000).1.plan.intents.any (fun i ↦ !i.escalation) = true := by decide +kernel
  obtain ⟨intent, hin, hlocal⟩ := List.any_eq_true.mp hany
  exact ⟨intent, hin, by simpa using hlocal⟩

theorem pairs_confirmed : ∃ hotspot ∈ (pairsGovernor.evaluate 12000).1.assessment.hotspots, ∃ call component,
    ConfirmedAs (calls (pairsPast ++ [event (step noStore) (.evaluate 12000) pairsGovernor])) call
      (pairsGovernor.evaluate 12000).1.assessment hotspot component := by
  obtain ⟨intent, hin, hlocal⟩ := pairs_served
  obtain ⟨hotspot, hmem⟩ := confirmed_of_served hin hlocal
  obtain ⟨call, -, hconfirmed⟩ := confirmed_iff_sustained pairs_run rfl rfl
  obtain ⟨component, hcomponent⟩ := hconfirmed hotspot (List.mem_append_left _ hmem)
  exact ⟨hotspot, hmem, call, component, hcomponent⟩

theorem pairs_earned : ∃ intent ∈ (pairsGovernor.evaluate 12000).1.plan.intents,
    Backed pairsPast pairsGovernor.snapshots .policy ∧ ∃ call hotspot component,
      Earned (pairsPast ++ [event (step noStore) (.evaluate 12000) pairsGovernor]) call hotspot component intent := by
  obtain ⟨intent, hin, hlocal⟩ := pairs_served
  obtain ⟨hpolicy, call, -, hotspot, -, component, -, hearned⟩ := mitigations_earned pairs_run rfl rfl hin hlocal
  exact ⟨intent, hin, hpolicy, call, hotspot, component, hearned⟩

end HotspotGovernor.Grounds
