import HotspotGovernor.Admissibility
import HotspotGovernor.Components
import Mathlib.Data.List.Pairwise

namespace HotspotGovernor.Reporting

open Foundation Lib Topology TopologyIndex Evidence Authority Detection Sampling Hotspots Detect
open Admissibility Components SortedList

theorem report_take (xs : List Hotspot) (h : Hotspot) :
    report (xs.take Limits.kMaxHotspots) h = (xs ++ [h]).take Limits.kMaxHotspots := by
  unfold report
  split
  · next hlt =>
    have hle : xs.length < Limits.kMaxHotspots := by
      rw [List.length_take] at hlt
      omega
    rw [List.take_of_length_le (by omega), List.take_of_length_le (by simp; omega)]
  · next hge =>
    have hle : Limits.kMaxHotspots ≤ xs.length := by
      rw [List.length_take] at hge
      omega
    rw [List.take_append_of_le_length hle]

/-- The hotspots of a list of components, split by persistence and in component order. -/
def hotspotsOf (scene : Scene) (persistent : Bool) (comps : List (List ℕ)) : List Hotspot :=
  (comps.map scene.hotspotOf).filter (fun h ↦ h.persistent = persistent)

theorem hotspotsOf_concat (scene : Scene) (persistent : Bool) (comps : List (List ℕ)) (c : List ℕ) :
    hotspotsOf scene persistent (comps ++ [c]) = if (scene.hotspotOf c).persistent = persistent then
      hotspotsOf scene persistent comps ++ [scene.hotspotOf c] else hotspotsOf scene persistent comps := by
  by_cases h : (scene.hotspotOf c).persistent = persistent <;> simp [hotspotsOf, h]

/-- The seed loop reports every component once, up to the reporting bound, and records the history
of every component whatever is reported. -/
theorem foldl_collect (scene : Scene) (authority : AuthorityVector) (comps : List (List ℕ)) :
    let st := comps.foldl (collect scene) { authority }
    st.hotspots = (hotspotsOf scene true comps).take Limits.kMaxHotspots ∧
      st.candidates = (hotspotsOf scene false comps).take Limits.kMaxHotspots ∧
      st.history = comps.flatMap scene.history := by
  induction comps using List.reverseRecOn with
  | nil => simp [hotspotsOf]
  | append_singleton comps c ih =>
    obtain ⟨hh, hc, hist⟩ := ih
    simp only [List.foldl_append, List.foldl_cons, List.foldl_nil, collect, hotspotsOf_concat]
    cases (scene.hotspotOf c).persistent <;> simp [hh, hc, hist, report_take]

theorem collectAll_hotspots (scene : Scene) (authority : AuthorityVector) :
    (collectAll scene authority).hotspots =
      (hotspotsOf scene true scene.components).take Limits.kMaxHotspots := (foldl_collect scene authority _).1

theorem collectAll_candidates (scene : Scene) (authority : AuthorityVector) :
    (collectAll scene authority).candidates =
      (hotspotsOf scene false scene.components).take Limits.kMaxHotspots :=
  (foldl_collect scene authority _).2.1

theorem collectAll_history (scene : Scene) (authority : AuthorityVector) :
    (collectAll scene authority).history = scene.components.flatMap scene.history :=
  (foldl_collect scene authority _).2.2

/-- The part of an assessment that the verdict, escalation and bookkeeping keep. -/
def reported (r : FabricAssessment) : List Hotspot × List Hotspot × ℕ :=
  (r.hotspots, r.candidates, r.saturatedCount)

theorem reported_diagnose (r : FabricAssessment) (code : ErrorCode) (detail : String) :
    reported (r.diagnose code detail) = reported r := by
  unfold FabricAssessment.diagnose
  split <;> rfl

theorem reported_historyRecord (input : DecisionInput) (st : Collection) (r : FabricAssessment) :
    reported (historyRecord input st r) = reported r := by
  unfold historyRecord
  dsimp only
  split <;> split <;> simp only [reported_diagnose]

theorem reported_verdict (r : FabricAssessment) : reported (verdict r) = reported r := by
  unfold verdict
  split <;> rfl

theorem reported_escalate (input : DecisionInput) (r : FabricAssessment) :
    reported (escalate input r) = reported r := by
  unfold escalate
  split <;> rfl

theorem trackingRecord_facts (input : DecisionInput) (r : FabricAssessment) :
    (trackingRecord input r).binding = r.binding ∧
      (trackingRecord input r).saturatedCount = r.saturatedCount := by
  unfold trackingRecord
  split
  · exact ⟨rfl, rfl⟩
  · unfold FabricAssessment.diagnose
    split <;> exact ⟨rfl, rfl⟩

theorem localize_spec (input : DecisionInput) (ev : BoundEvidence) (r : FabricAssessment) :
    let scene := sceneOf input ev r.binding
    ∃ authority,
      (localize input ev r).1.hotspots = ((hotspotsOf scene true scene.components).take
        Limits.kMaxHotspots).map (fun h ↦ { h with authority }) ∧
      (localize input ev r).1.candidates = ((hotspotsOf scene false scene.components).take
        Limits.kMaxHotspots).map (fun h ↦ { h with authority }) ∧
      (localize input ev r).1.saturatedCount = r.saturatedCount ∧
      (localize input ev r).2 = input.tracker.map (fun _ ↦ SaturationTracker.replace
        ((scene.components.flatMap scene.history).take Limits.kMaxHistoryResources)) := by
  obtain ⟨hbinding, hcount⟩ := trackingRecord_facts input r
  dsimp only
  rw [← hbinding, ← hcount]
  set r' := trackingRecord input r with hr'
  set st := collectAll (sceneOf input ev r'.binding) r'.authority with hst
  set q := historyRecord input st
    { r' with hotspots := st.hotspots, candidates := st.candidates, authority := st.authority } with hq
  have hrep : reported (escalate input (verdict q)) = (st.hotspots, st.candidates, r'.saturatedCount) := by
    rw [reported_escalate, reported_verdict, hq, reported_historyRecord]
    rfl
  have hout : localize input ev r = (close (escalate input (verdict q)), input.tracker.map (fun _ ↦
      SaturationTracker.replace (st.history.take Limits.kMaxHistoryResources))) := rfl
  simp only [reported, Prod.mk.injEq] at hrep
  obtain ⟨hh, hc, hs⟩ := hrep
  refine ⟨(escalate input (verdict q)).authority.sealGrants, ?_, ?_, ?_, ?_⟩
  · rw [hout, ← collectAll_hotspots, ← hst, ← hh]
    rfl
  · rw [hout, ← collectAll_candidates, ← hst, ← hc]
    rfl
  · rw [hout]
    exact hs
  · rw [hout, hst, collectAll_history]

theorem step_saturatedCount (t : Thresholds) (tally : Tally) (r : Resource) (o : Observation) :
    (Tally.step t tally (r, o)).saturatedCount =
      tally.saturatedCount + ((o.cell t).saturated).toNat := by
  cases o <;> rfl

theorem tally_saturatedCount (t : Thresholds) (obs : List (Resource × Observation)) (tally : Tally) :
    (obs.foldl (Tally.step t) tally).saturatedCount =
      tally.saturatedCount + obs.countP (fun o ↦ (o.2.cell t).saturated) := by
  induction obs generalizing tally with
  | nil => rfl
  | cons o obs ih =>
    rw [List.foldl_cons, ih, step_saturatedCount, List.countP_cons]
    cases (o.2.cell t).saturated
    · rfl
    · simp only [Bool.toNat_true, if_true]
      omega

theorem countP_range {α : Type} (xs : List α) (d : α) (p : α → Bool) :
    (List.range xs.length).countP (fun i ↦ p (xs.getD i d)) = xs.countP p := by
  have hmap : (List.range xs.length).map (fun i ↦ xs.getD i d) = xs := by
    apply List.ext_getElem
    · simp
    · intro i h₁ h₂
      simp [List.getD_eq_getElem?_getD, h₂]
  conv_rhs => rw [← hmap, List.countP_map]
  rfl

variable {input : DecisionInput} {ev : BoundEvidence} {binding : EvidenceBinding}

theorem length_components (hbuilt : ev.topology.built = true) :
    (sceneOf input ev binding).components.flatten.length =
      (tallyOf ev input.thresholds input.now).saturatedCount := by
  have hg : Grouped input ev binding := grouped hbuilt
  have hlen : (cellsOf ev input.thresholds input.now).length = ev.topology.resources.length := by
    simp [cellsOf, observations]
  have hperm : (sceneOf input ev binding).components.flatten.Perm
      ((List.range ev.topology.resources.length).filter (sceneOf input ev binding).saturatedAt) := by
    refine (List.perm_ext_iff_of_nodup hg.nodup (List.nodup_range.filter _)).mpr (fun i ↦ ?_)
    rw [hg.mem_iff, List.mem_filter]
    refine ⟨fun hi ↦ ⟨?_, hi⟩, And.right⟩
    obtain ⟨r, hr, -⟩ := saturatedAt_iff.mp hi
    exact List.mem_range.mpr (List.getElem?_eq_some_iff.mp hr).1
  have hcount := countP_range (cellsOf ev input.thresholds input.now) {} Cell.saturated
  rw [hperm.length_eq, ← List.countP_eq_length_filter, ← hlen, tallyOf, tally_saturatedCount]
  refine hcount.trans ?_
  simp [cellsOf, List.countP_map, Function.comp_def]

theorem sum_saturatedCount (scene : Scene) (comps : List (List ℕ)) :
    ((hotspotsOf scene true comps).map Hotspot.saturatedCount).sum +
      ((hotspotsOf scene false comps).map Hotspot.saturatedCount).sum = comps.flatten.length := by
  induction comps using List.reverseRecOn with
  | nil => rfl
  | append_singleton comps c ih =>
    have hc : (scene.hotspotOf c).saturatedCount = c.length := rfl
    rw [hotspotsOf_concat, hotspotsOf_concat, List.flatten_append, List.length_append, ← ih]
    cases (scene.hotspotOf c).persistent <;> simp [hc] <;> omega

theorem detect_localized (h : admittedEvidence input = some ev) : Localized input ev (detect input) := by
  have hcases := detect_cases input
  rwa [h] at hcases

theorem componentIds_unique (hbuilt : ev.topology.built = true) {c c' : List ResourceId}
    (hc : c ∈ componentIds (sceneOf input ev binding)) (hc' : c' ∈ componentIds (sceneOf input ev binding))
    {id : ResourceId} (hid : id ∈ c) (hid' : id ∈ c') : c = c' := by
  by_contra hne
  have hnodup : (componentIds (sceneOf input ev binding)).flatten.Nodup := componentIds_nodup hbuilt
  have hdisjoint := (List.nodup_flatten.mp hnodup).2
  have : Std.Symm (fun c c' : List ResourceId ↦ c.Disjoint c') := ⟨fun _ _ h _ ha hb ↦ h hb ha⟩
  exact hdisjoint.forall hc hc' hne hid hid'

/-- For every evaluation that is not rejected, the components collected by the seed loop partition
the admissibly saturated resources, two of them share a component exactly when a chain of links
inside the saturated set joins them, and, unless the reporting bound cuts in, the counts of the
reported hotspots and candidates add up to the saturated count of the assessment. -/
theorem components_partition_saturated (h : admittedEvidence input = some ev) :
    let scene := sceneOf input ev (recordBinding input)
    let Saturated := AdmissiblySaturated ev input.thresholds input.now
    (∀ id, Saturated id → ∃! c, c ∈ componentIds scene ∧ id ∈ c) ∧
    (componentIds scene).flatten.Nodup ∧
    (∀ c ∈ componentIds scene, ∀ id ∈ c, Saturated id) ∧
    (∀ a b, Saturated a → Saturated b → ((∃ c ∈ componentIds scene, a ∈ c ∧ b ∈ c) ↔
      Relation.ReflTransGen (SaturatedLink ev input.thresholds input.now) a b)) ∧
    ((hotspotsOf scene true scene.components).length ≤ Limits.kMaxHotspots →
      (hotspotsOf scene false scene.components).length ≤ Limits.kMaxHotspots →
      ((detect input).1.hotspots.map Hotspot.saturatedCount).sum +
        ((detect input).1.candidates.map Hotspot.saturatedCount).sum =
          (detect input).1.saturatedCount) := by
  have hbuilt := (gates_of_admitted h).built
  refine ⟨?_, componentIds_nodup hbuilt, ?_, ?_, ?_⟩
  · intro id hid
    obtain ⟨c, hc, hidc⟩ := (mem_componentIds hbuilt).mpr hid
    exact ⟨c, ⟨hc, hidc⟩, fun c' hc' ↦ componentIds_unique hbuilt hc'.1 hc hc'.2 hidc⟩
  · intro c hc id hid
    exact (mem_componentIds hbuilt).mp ⟨c, hc, hid⟩
  · intro a b ha _
    constructor
    · intro h
      obtain ⟨c, hc, hac, hbc⟩ := h
      exact (mem_componentIds_iff_chain hbuilt hc hac b).mp hbc
    · intro hchain
      obtain ⟨c, hc, hac⟩ := (mem_componentIds hbuilt).mpr ha
      exact ⟨c, hc, hac, (mem_componentIds_iff_chain hbuilt hc hac b).mpr hchain⟩
  · intro hhot hcand
    obtain ⟨r, hdet, hcore⟩ := detect_localized h
    have hbinding : r.binding = recordBinding input := congrArg (fun c ↦ c.2.2.2) hcore
    obtain ⟨authority, hh, hc, hs, -⟩ :=
      localize_spec input ev (account r (tallyOf ev input.thresholds input.now))
    rw [← hdet] at hh hc hs
    rw [show (account r (tallyOf ev input.thresholds input.now)).binding = recordBinding input from
      hbinding] at hh hc
    rw [hh, hc, hs, List.take_of_length_le hhot, List.take_of_length_le hcand, List.map_map, List.map_map]
    exact (sum_saturatedCount _ _).trans (length_components hbuilt)

def threeSwitches : Result TopologySnapshot :=
  let s : TopologySnapshot := default
  let s := s.addRegion ⟨1⟩ [] ⟨0⟩
  let s := ((s.addResource ⟨1⟩ ⟨1⟩ .switch []).addResource ⟨2⟩ ⟨1⟩ .switch []).addResource
    ⟨3⟩ ⟨1⟩ .switch []
  ((s.addLink ⟨1⟩ ⟨1⟩ ⟨2⟩).addLink ⟨2⟩ ⟨2⟩ ⟨3⟩).build

def threeCapacities : Result CapacitySnapshot :=
  let s := { (default : CapacitySnapshot) with observedAt := 1000 }
  (((s.add { resource := ⟨1⟩, capacityUnits := 100 }).add { resource := ⟨2⟩, capacityUnits := 100 }).add
    { resource := ⟨3⟩, capacityUnits := 100 }).build

def switchSample (id : UInt64) (utilizedUnits : UInt64) : ResourceSignals :=
  { resource := ⟨id⟩, utilizedUnits, confidencePpm := 1000000, quality := .healthy, observedAt := 1000 }

def threeSamples : Result SignalSnapshot :=
  let s : SignalSnapshot := default
  (((s.add (switchSample 1 95)).add (switchSample 2 95)).add (switchSample 3 10)).build

def threeSwitchInput : DecisionInput :=
  { topology := threeSwitches.toOption, capacity := threeCapacities.toOption
    signals := threeSamples.toOption, now := 1000, tracker := some default }

def threeSwitchEvidence : BoundEvidence := (admittedEvidence threeSwitchInput).get (by decide +kernel)

theorem components_partition_threeSwitches :
    (∀ c ∈ componentIds (sceneOf threeSwitchInput threeSwitchEvidence (recordBinding threeSwitchInput)),
      ∀ id ∈ c, AdmissiblySaturated threeSwitchEvidence threeSwitchInput.thresholds 1000 id) ∧
    ((detect threeSwitchInput).1.hotspots.map Hotspot.saturatedCount).sum +
      ((detect threeSwitchInput).1.candidates.map Hotspot.saturatedCount).sum =
        (detect threeSwitchInput).1.saturatedCount := by
  have hev : admittedEvidence threeSwitchInput = some threeSwitchEvidence := (Option.some_get _).symm
  have h := components_partition_saturated hev
  exact ⟨h.2.2.1, h.2.2.2.2 (by decide +kernel) (by decide +kernel)⟩

end HotspotGovernor.Reporting
