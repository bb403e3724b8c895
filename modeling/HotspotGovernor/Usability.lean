import HotspotGovernor.Containment
import HotspotGovernor.Ranking
import HotspotGovernor.Rows

namespace HotspotGovernor.Usability

open Foundation Lib Topology Evidence Detection Sampling Hotspots Detect Admissibility Demand Ranking
open Classification Verdicts Intervention Decisions Mitigation Suppression Turns SortedList Rows

/-- The intent names flows or paths because of the attribution of its hotspot. -/
def Attributes (intent : MitigationIntent) : Prop :=
  intent.kind = .pathRebalance ∨ (intent.kind = .flowRelocation ∧ intent.affectedFlows ≠ [])

def ConsideredUsable (input : DecisionInput) (hotspot : Hotspot) : Prop :=
  ∃ ev, admittedEvidence input = some ev ∧
    ∃ component ∈ (sceneOf input ev (recordBinding input)).components,
      Reports (sceneOf input ev (recordBinding input)) hotspot component ∧
      (sceneOf input ev (recordBinding input)).usable
        ((sceneOf input ev (recordBinding input)).attribution component) = true

/-- Every flow on paths through the component of the hotspot gets an accumulator. -/
def PopulationFits (input : DecisionInput) (hotspot : Hotspot) : Prop :=
  ∃ ev, admittedEvidence input = some ev ∧
    ∃ component ∈ (sceneOf input ev (recordBinding input)).components,
      Reports (sceneOf input ev (recordBinding input)) hotspot component ∧
      (flowsThrough ev (component.map (sceneOf input ev (recordBinding input)).resourceId)).card ≤
        Limits.kMaxContributorAccumulators

def AttributionAgrees (engine : Engine) (input : DecisionInput) : Prop :=
  ∀ intent ∈ (engine.decide input).1.plan.intents, Attributes intent → ∀ p,
    localPlanning (detect input).1 input.topology input.capacity input.policy input.now = some p →
      ∀ hotspot, PlannedFor p hotspot intent → ConsideredUsable input hotspot

theorem confidencePpm_of_incomplete {a : Attribution} (h : a.incomplete = true) : a.confidencePpm = 0 := by
  simp only [Attribution.confidencePpm, h, if_true]

theorem not_usable_of_incomplete (scene : Scene) {a : Attribution} (h : a.incomplete = true) :
    scene.usable a = false := by
  simp only [Scene.usable, h, Bool.not_true, Bool.and_false, Bool.false_and]

section Component

variable {input : DecisionInput} {ev : BoundEvidence} {component : List ℕ}
  (hadm : admittedEvidence input = some ev) {binding : EvidenceBinding}
include hadm

theorem incomplete_eq_false_iff : ((sceneOf input ev binding).attribution component).incomplete = false ↔
    (flowsThrough ev (component.map (sceneOf input ev binding).resourceId)).card ≤
      Limits.kMaxContributorAccumulators := by
  have hledger := ledger_attribution hadm binding component
  rw [← Bool.not_eq_true, hledger.incomplete_iff, toFinset_visited hadm, not_lt]

theorem bound_of_contributors (h : ((sceneOf input ev binding).attribution component).contributors ≠ []) :
    ev.paths.isSome = true ∧ ev.traffic.isSome = true := by
  rcases bound_cases hadm with htraffic | ⟨paths, traffic, hpaths, htraffic, -, -⟩
  · exfalso
    obtain ⟨c, hc⟩ := List.exists_mem_of_ne_nil _ h
    obtain ⟨a, ha, -⟩ := mem_contributors_iff.mp hc
    have hledger := ledger_attribution hadm binding component
    rw [visited_nil htraffic] at hledger
    have hflow := hledger.entered a.flow
      (List.mem_map_of_mem (mem_positive.mp (List.mem_of_mem_take ha)).1)
    cases hflow
  · rw [hpaths, htraffic]
    exact ⟨rfl, rfl⟩

theorem usable_iff (hc : ((sceneOf input ev binding).attribution component).contributors ≠ [])
    (hfloor : input.thresholds.minAttributionConfidencePpm ≤
      ((sceneOf input ev binding).attribution component).confidencePpm) :
    (sceneOf input ev binding).usable ((sceneOf input ev binding).attribution component) = true ↔
      (flowsThrough ev (component.map (sceneOf input ev binding).resourceId)).card ≤
        Limits.kMaxContributorAccumulators := by
  obtain ⟨hpaths, htraffic⟩ := bound_of_contributors hadm hc
  rw [← incomplete_eq_false_iff hadm]
  set scene := sceneOf input ev binding with hscene
  have hfloor' : scene.thresholds.minAttributionConfidencePpm ≤ (scene.attribution component).confidencePpm :=
    hfloor
  have hp : scene.evidence.paths.isSome = true := hpaths
  have ht : scene.evidence.traffic.isSome = true := htraffic
  simp only [Scene.usable, hp, ht, Bool.true_and, Bool.and_eq_true, Bool.not_eq_true', decide_eq_true_eq,
    ge_iff_le, hfloor', and_true]

theorem fits_of_floor (hne : input.thresholds.minAttributionConfidencePpm ≠ 0)
    (hfloor : input.thresholds.minAttributionConfidencePpm ≤
      ((sceneOf input ev binding).attribution component).confidencePpm) :
    (flowsThrough ev (component.map (sceneOf input ev binding).resourceId)).card ≤
      Limits.kMaxContributorAccumulators := by
  rw [← incomplete_eq_false_iff hadm, ← Bool.not_eq_true]
  intro hinc
  apply hne
  rw [confidencePpm_of_incomplete hinc] at hfloor
  exact UInt32.le_antisymm hfloor (UInt32.le_iff_toNat_le.mpr (Nat.zero_le _))

end Component

section Planner

variable {p : Planning} {plan : InterventionPlan} {hotspot : Hotspot} {kind : MitigationKind}
  {intent : MitigationIntent}

theorem attributionUsable_of_drafted (h : DraftedAs p plan hotspot kind intent) (hattr : Attributes intent) :
    p.attributionUsable hotspot = true := by
  by_contra hnot
  rw [Bool.not_eq_true] at hnot
  rcases hattr with hkind | ⟨hkind, hflows⟩
  · obtain rfl : kind = .pathRebalance := h.kind_eq.symm.trans hkind
    obtain ⟨draft, hdraft, -, -⟩ := h
    simp only [Planning.draftOf, hnot] at hdraft
    cases hdraft
  · obtain rfl : kind = .flowRelocation := h.kind_eq.symm.trans hkind
    obtain ⟨draft, hdraft, -, rfl⟩ := h
    apply hflows
    simp only [Planning.draftOf, hnot, Bool.false_eq_true, if_false] at hdraft
    split_ifs at hdraft
    obtain rfl := Except.ok.inj hdraft
    rfl

theorem attributionUsable_iff : p.attributionUsable hotspot = true ↔
    p.policy.thresholds.minAttributionConfidencePpm ≤ hotspot.attributionConfidencePpm ∧
      hotspot.contributors ≠ [] := by
  simp only [Planning.attributionUsable, Bool.and_eq_true, decide_eq_true_eq, Bool.not_eq_true',
    List.isEmpty_eq_false_iff]
  rfl

end Planner

/-- For every input and every intent that names flows or paths for a hotspot because of its attribution:
the detector considered that attribution usable exactly when the policy has a floor for the confidence or
every flow gets an accumulator. -/
theorem usable_for_planned_iff (engine : Engine) (input : DecisionInput) (intent : MitigationIntent)
    (hin : intent ∈ (engine.decide input).1.plan.intents) (hattr : Attributes intent) :
    ∃ p, localPlanning (detect input).1 input.topology input.capacity input.policy input.now = some p ∧
      (∃ hotspot, PlannedFor p hotspot intent) ∧ ∀ hotspot, PlannedFor p hotspot intent →
        (ConsideredUsable input hotspot ↔
          input.thresholds.minAttributionConfidencePpm ≠ 0 ∨ PopulationFits input hotspot) := by
  have hin : intent ∈
    (planInterventions (detect input).1 input.topology input.capacity input.policy input.now).intents := hin
  have hlocal : intent.kind ≠ .escalateGlobalCongestion := by
    intro hkind
    rcases hattr with h | ⟨h, -⟩ <;> cases hkind.symm.trans h
  obtain ⟨p, hp, hsame⟩ := localPlanning_of_mem hin (.inl hlocal)
  refine ⟨p, hp, (mem_intents_iff hp).mp hin, ?_⟩
  intro hotspot hplanned
  have hthresholds : input.thresholds = p.policy.thresholds := by
    rw [DecisionInput.thresholds, policy_of_localPlanning hp]
    rfl
  have hmem : hotspot ∈ (detect input).1.hotspots := hsame ▸ hplanned.mem
  obtain ⟨before, after, kind, -, -, hdraft⟩ := plannedFor_iff.mp hplanned
  obtain ⟨hfloor, hcontributors⟩ := attributionUsable_iff.mp (attributionUsable_of_drafted hdraft hattr)
  rw [← hthresholds] at hfloor
  have hagree : ∀ ev, admittedEvidence input = some ev → ∀ component,
      Reports (sceneOf input ev (recordBinding input)) hotspot component →
      ((sceneOf input ev (recordBinding input)).usable
        ((sceneOf input ev (recordBinding input)).attribution component) = true ↔
        (flowsThrough ev (component.map (sceneOf input ev (recordBinding input)).resourceId)).card ≤
          Limits.kMaxContributorAccumulators) := by
    rintro ev hadm component ⟨authority, rfl⟩
    exact usable_iff hadm hcontributors hfloor
  constructor
  · rintro ⟨ev, hadm, component, hc, hreports, husable⟩
    exact .inr ⟨ev, hadm, component, hc, hreports, (hagree ev hadm component hreports).mp husable⟩
  · rintro (hne | ⟨ev, hadm, component, hc, hreports, hfits⟩)
    · obtain ⟨ev, hadm, component, hc, authority, rfl⟩ :=
        Persistence.reported_component (List.mem_append_left _ hmem)
      have hreports : Reports (sceneOf input ev (recordBinding input)) _ component := ⟨authority, rfl⟩
      refine ⟨ev, hadm, component, hc, hreports, (hagree ev hadm component hreports).mpr ?_⟩
      exact fits_of_floor hadm hne hfloor
    · exact ⟨ev, hadm, component, hc, hreports, (hagree ev hadm component hreports).mpr hfits⟩

def crowdCapacities : Result CapacitySnapshot :=
  let s := { (default : CapacitySnapshot) with observedAt := 10000 }
  let s := s.add { resource := ⟨1⟩, capacityUnits := 100, queueLimitUnits := 100 }
  let s := (s.add { resource := ⟨2⟩, capacityUnits := 100 }).add { resource := ⟨3⟩, capacityUnits := 100 }
  (s.add { resource := ⟨4⟩, capacityUnits := 100 }).build

def crowdSamples : Result SignalSnapshot :=
  let s := (default : SignalSnapshot).add { islandSample 1 50 with queueDepthUnits := 90 }
  (((s.add (islandSample 2 10)).add (islandSample 3 10)).add (islandSample 4 10)).build

/-- A policy without a floor for the confidence, which allows rebalancing only. -/
def noFloor : PolicySnapshot :=
  { issuedAt := 9000, ttlMs := 60000
    thresholds := { minAttributionConfidencePpm := 0 }
    budget :=
      { maxAffectedPaths := 256, maxAffectedFlows := 256, allowFlowRelocation := false
        allowAdmissionReduction := false, allowRateChange := false, allowResourceIsolation := false } }

/-- Two separate pairs of switches; the queue of the first switch has been full for long. -/
def quietInput : DecisionInput :=
  { topology := Justification.fourSwitches.toOption, capacity := crowdCapacities.toOption
    signals := crowdSamples.toOption, paths := (onePath [⟨1⟩, ⟨2⟩]).toOption, policy := some noFloor
    now := 10000
    tracker := some Justification.firstTracked }

def crowdRecord (i : ℕ) : TrafficRecord :=
  { flow := numbered i, path := ⟨1⟩, demandBps := 1, quality := .healthy, observedAt := 10000 }

def crowdTraffic (n : ℕ) : Result TrafficSnapshot :=
  ({ records := (List.range n).map crowdRecord } : TrafficSnapshot).build

def crowdInput (n : ℕ) : DecisionInput := { quietInput with traffic := (crowdTraffic n).toOption }

theorem crowdTraffic_built {n : ℕ} (hn : n ≤ Limits.kMaxTrafficRecords) : ∃ s, crowdTraffic n = .ok s ∧
    s.built = true ∧ s.pathGeneration = default ∧ s.records = (List.range n).map crowdRecord := by
  have hmax : Limits.kMaxTrafficRecords = 2 ^ 20 := rfl
  have hb : buildTraffic ((List.range n).map crowdRecord) = .ok ((List.range n).map crowdRecord) := by
    apply sortChecked_of_strict
    · apply strict_range
      intro i j hij hj
      apply Prod.Lex.toLex_lt_toLex.mpr
      exact .inr ⟨rfl, numbered_lt hij (by omega)⟩
    · rw [List.length_map, List.length_range]
      exact hn
    · intro record hrecord prev hprev
      obtain ⟨i, -, rfl⟩ := List.mem_map.mp hrecord
      have hvalid : (crowdRecord i).path.valid = true := rfl
      have hfresh : prev.any (fun p ↦ (crowdRecord i).path = p.path ∧ (crowdRecord i).flow = p.flow) = false := by
        rw [Option.any_eq_false]
        intro p hp
        have hne := (hprev p hp).ne
        rw [decide_eq_false_iff_not]
        rintro ⟨hpath, hflow⟩
        apply hne
        rw [TrafficRecord.key, TrafficRecord.key, hpath, hflow]
      simp only [checkTraffic, hvalid, hfresh, Bool.not_true, Bool.false_eq_true, if_false]
  exact ⟨_, TrafficSnapshot.build_iff.mpr ⟨_, hb, rfl⟩, rfl, rfl, rfl⟩

section Traffic

variable {input : DecisionInput} {ev : BoundEvidence} {paths : PathSnapshot} {traffic : TrafficSnapshot}

theorem admittedEvidence_traffic (hadm : admittedEvidence input = some ev) (hpaths : ev.paths = some paths)
    (hbuilt : traffic.built = true) (hgeneration : traffic.pathGeneration = paths.generation) :
    admittedEvidence { input with traffic := some traffic } = some { ev with traffic := some traffic } := by
  obtain ⟨hpresented, hfabric, hfloor⟩ := Coverage.admittedEvidence_iff.mp hadm
  obtain ⟨htopology, hfresh, hevidence, hpopulated, hreferences, hcapacity⟩ := hpresented
  refine Coverage.admittedEvidence_iff.mpr ⟨⟨htopology, hfresh, ?_, hpopulated, hreferences, hcapacity⟩, hfabric,
    hfloor⟩
  obtain ⟨hc, hs, hp⟩ := evidence_eq_some hevidence
  set input' := { input with traffic := some traffic } with hinput
  have hc' : (findingsOf input' ev.topology).capacity.admitted = some ev.capacity := hc
  have hs' : (findingsOf input' ev.topology).signals.admitted = some ev.signals := hs
  have hp' : (findingsOf input' ev.topology).paths.admitted = ev.paths := hp
  have ht' : (findingsOf input' ev.topology).traffic.admitted = some traffic := by
    have hfound : (findingsOf input' ev.topology).traffic = trafficFinding input' (some paths) := by
      rw [← hpaths, ← hp']
      rfl
    have hsupplied : input'.traffic.filter TrafficSnapshot.built = some traffic :=
      Option.filter_eq_some_iff.mpr ⟨rfl, hbuilt⟩
    simp only [hfound, trafficFinding, hsupplied, ne_eq, hgeneration, not_true, if_false]
    rfl
  simp only [Findings.evidence, hc', hs', hp', ht']

end Traffic

section Rebalance

variable {p : Planning} {plan : InterventionPlan} {hotspot : Hotspot} {share : UInt32}

theorem length_sortedUnique_le {tag : IdTag} (ids : List (StrongId tag)) :
    (Planning.sortedUnique ids).length ≤ ids.length := by
  apply List.Subperm.length_le
  apply List.subperm_of_subset (nodup_sortedUnique ids)
  exact fun _ hid ↦ mem_sortedUnique.mp hid

/-- Contributors never exceed the hard bounds, so only the resources and the budget can refuse a rebalance. -/
theorem emits_pathRebalance (hallow : p.budget.allows .pathRebalance = true)
    (husable : p.attributionUsable hotspot = true)
    (hresources : (Planning.sortedUnique hotspot.saturatedResources).length ≤
      min p.budget.maxAffectedResources.toNat Limits.kMaxIntentAffectedResources)
    (hknown : (Planning.sortedUnique hotspot.saturatedResources).all p.topology.hasResource = true)
    (hpaths : Limits.kMaxIntentAffectedPaths ≤ p.budget.maxAffectedPaths.toNat)
    (hflows : Limits.kMaxIntentAffectedFlows ≤ p.budget.maxAffectedFlows.toNat)
    (hshare : shareOf p.capacity (Planning.sortedUnique hotspot.saturatedResources)
      p.assessment.fabricCapacityUnits ≤ p.budget.maxScopeSharePpm)
    (htotal : share.toUInt64 + (shareOf p.capacity (Planning.sortedUnique hotspot.saturatedResources)
      p.assessment.fabricCapacityUnits).toUInt64 ≤ p.budget.maxPlanScopeSharePpm.toUInt64) :
    emits p hotspot share .pathRebalance = true := by
  set draft : IntentDraft :=
    { resources := hotspot.saturatedResources
      paths := (hotspot.contributors.take Limits.kMaxIntentAffectedPaths).map Contributor.path
      flows := (hotspot.contributors.take
        (min Limits.kMaxIntentAffectedPaths Limits.kMaxIntentAffectedFlows)).map Contributor.flow
      rationale := "rebalance the contributing paths across their equal-cost alternatives" } with hd
  have hdraft : p.draftOf hotspot .pathRebalance = .ok draft := by
    simp only [Planning.draftOf, husable, Bool.not_true, Bool.false_eq_true, if_false]
    rfl
  have hpathCount : (Planning.ordered draft).paths.length ≤ Limits.kMaxIntentAffectedPaths := by
    apply (length_sortedUnique_le _).trans
    rw [List.length_map, List.length_take]
    exact min_le_left _ _
  have hflowCount : (Planning.ordered draft).flows.length ≤ Limits.kMaxIntentAffectedFlows := by
    apply (length_sortedUnique_le _).trans
    rw [List.length_map, List.length_take]
    exact (min_le_left _ _).trans (min_le_right _ _)
  have hresourceCount : (Planning.ordered draft).resources.length ≤
      min p.budget.maxAffectedResources.toNat Limits.kMaxIntentAffectedResources := hresources
  have hall : (Planning.ordered draft).resources.all p.topology.hasResource = true := hknown
  have hbound : p.boundRefusal (Planning.ordered draft) = none := by
    rw [le_min_iff] at hresourceCount
    rw [Planning.boundRefusal, if_neg (not_lt.mpr hresourceCount.1), if_neg (not_lt.mpr (hpathCount.trans hpaths)),
      if_neg (not_lt.mpr (hflowCount.trans hflows)), if_neg, hall]
    · rfl
    · omega
  simp only [emits, hallow, hdraft, hbound, Option.isNone_none, Bool.true_and, Bool.and_eq_true,
    decide_eq_true_eq]
  exact ⟨hshare, htotal⟩

end Rebalance

theorem fabricCapacityUnits_detect {input : DecisionInput} {ev : BoundEvidence}
    (hadm : admittedEvidence input = some ev) :
    (detect input).1.fabricCapacityUnits = (tallyOf ev input.thresholds input.now).fabricCapacity := by
  have hdiagnose : ∀ (q : FabricAssessment) (code : ErrorCode) (detail : String),
      (q.diagnose code detail).fabricCapacityUnits = q.fabricCapacityUnits := by
    intro q code detail
    simp only [FabricAssessment.diagnose]
    split <;> rfl
  have htracking : ∀ q, (trackingRecord input q).fabricCapacityUnits = q.fabricCapacityUnits := by
    intro q
    simp only [trackingRecord]
    split
    · rfl
    · exact hdiagnose _ _ _
  have hhistory : ∀ (st : Collection) (q : FabricAssessment),
      (historyRecord input st q).fabricCapacityUnits = q.fabricCapacityUnits := by
    intro st q
    simp only [historyRecord]
    split <;> split <;> simp only [hdiagnose]
  have hverdict : ∀ q : FabricAssessment, (verdict q).fabricCapacityUnits = q.fabricCapacityUnits := by
    intro q
    simp only [verdict]
    split <;> rfl
  have hescalate : ∀ q : FabricAssessment, (escalate input q).fabricCapacityUnits = q.fabricCapacityUnits := by
    intro q
    simp only [escalate]
    split <;> rfl
  obtain ⟨r, hdet, -⟩ := Reporting.detect_localized hadm
  rw [hdet]
  simp only [localize, close, hescalate, hverdict, hhistory, htracking]
  rfl

/-- What detection and planning make of a fabric in which the queue of one switch is full. -/
structure Queued (input : DecisionInput) (ev : BoundEvidence) : Prop where
  policy : input.policy = some noFloor
  now : input.now = 10000
  through : ∃ path ∈ (boundPaths ev).paths, path.id = ⟨1⟩ ∧ (⟨1⟩ : ResourceId) ∈ path.hops
  components : (sceneOf input ev (recordBinding input)).components = [[0]]
  confirmed : confirmed (sceneOf input ev (recordBinding input)) = [[0]]
  ids : [0].map (sceneOf input ev (recordBinding input)).resourceId = [⟨1⟩]
  confined : ((sceneOf input ev (recordBinding input)).hotspotOf [0]).scope ≠ .global
  eligible : ((sceneOf input ev (recordBinding input)).hotspotOf [0]).remediation = .eligible
  cause : (sceneOf input ev (recordBinding input)).pressureCause [0] = .queueBuildup
  fabric : (sceneOf input ev (recordBinding input)).tally.fabricCapacity = 400
  partly : (sceneOf input ev (recordBinding input)).tally.globalSharePpm < noFloor.thresholds.globalSharePpm
  known : ev.topology.hasResource ⟨1⟩ = true
  share : shareOf input.capacity [⟨1⟩] 400 = 250000

theorem Queued.withTraffic {input : DecisionInput} {ev : BoundEvidence} (h : Queued input ev)
    (traffic traffic' : Option TrafficSnapshot) :
    Queued { input with traffic } { ev with traffic := traffic' } :=
  ⟨h.policy, h.now, h.through, h.components, h.confirmed, h.ids, h.confined, h.eligible, h.cause, h.fabric, h.partly,
    h.known, h.share⟩

section Queue

variable {input : DecisionInput} {ev : BoundEvidence} (hq : Queued input ev)
  (hadm : admittedEvidence input = some ev)
include hq hadm

theorem hotspots_queued : ∃ authority, (detect input).1.hotspots =
    [{ (sceneOf input ev (recordBinding input)).hotspotOf [0] with authority }] := by
  obtain ⟨authority, hhotspots, -, -⟩ := detect_reports hadm
  refine ⟨authority, ?_⟩
  rw [hhotspots, hq.confirmed, List.map_cons, List.map_nil]

theorem not_escalated_queued : (detect input).1.escalationRequired = false := by
  rw [← Bool.not_eq_true]
  intro hesc
  rcases (Escalation.escalationRequired_iff hadm).mp hesc with ⟨c, hc, hspans⟩ | ⟨hglobal, -⟩ | ⟨hcount, -⟩
  · rw [hq.confirmed, List.mem_singleton] at hc
    subst hc
    exact hq.confined (Escalation.scope_hotspotOf_eq_global.mpr hspans)
  · have hthresholds : input.thresholds = noFloor.thresholds := by
      rw [DecisionInput.thresholds, hq.policy]
      rfl
    have hglobal : input.thresholds.globalSharePpm ≤
      (sceneOf input ev (recordBinding input)).tally.globalSharePpm := hglobal
    rw [hthresholds] at hglobal
    exact UInt32.not_le.mpr hq.partly hglobal
  · have hbudget : input.budget = noFloor.budget := by
      rw [DecisionInput.budget, hq.policy]
      rfl
    rw [hq.confirmed, hbudget] at hcount
    exact absurd hcount (by decide)

theorem fabric_queued : (detect input).1.fabricCapacityUnits = 400 := by
  rw [← hq.fabric]
  exact fabricCapacityUnits_detect hadm

end Queue

theorem localPlanning_of_admitted {input : DecisionInput} {ev : BoundEvidence} {policy : PolicySnapshot}
    (hadm : admittedEvidence input = some ev) (hpolicy : input.policy = some policy)
    (hlive : policy.expiredAt input.now = false) (hesc : (detect input).1.escalationRequired = false) :
    localPlanning (detect input).1 input.topology input.capacity input.policy input.now =
      some ⟨(detect input).1, ev.topology, input.capacity, policy⟩ := by
  obtain ⟨htopology, hsame⟩ := topology_of_admitted hadm
  have hfresh : input.policy.filter (fun p ↦ !p.expiredAt input.now) = some policy :=
    Option.filter_eq_some_iff.mpr ⟨hpolicy, by rw [hlive]; rfl⟩
  have hgo : ¬ (((detect input).1.binding.topology.valid ∧ (detect input).1.binding.topology ≠ ev.topology.id) ∨
      (detect input).1.escalationRequired) := by
    rw [hesc]
    rintro (⟨-, hne⟩ | h)
    · exact hne hsame
    · cases h
  rw [localPlanning, htopology, hfresh]
  dsimp only
  rw [if_neg hgo]
  rfl

theorem chosen_noFloor {p : Planning} {h : Hotspot} (hpolicy : p.policy = noFloor)
    (hknown : p.topology.hasResource ⟨1⟩ = true)
    (hshare : shareOf p.capacity [⟨1⟩] p.assessment.fabricCapacityUnits = 250000)
    (heligible : h.remediation = .eligible) (hcause : h.cause = .queueBuildup)
    (hresources : h.saturatedResources = [⟨1⟩]) (hcontributors : h.contributors ≠ []) :
    chosen p (openPlan p.assessment) h = some .pathRebalance := by
  have hbudget : p.budget = noFloor.budget := by rw [Planning.budget, hpolicy]
  have hgoes : ¬ passedOver p (openPlan p.assessment) h := by
    have hempty : (openPlan p.assessment).intents = [] := rfl
    rw [passedOver, heligible, hbudget, hempty]
    decide
  have hunused : (openPlan p.assessment).planScopeSharePpm = 0 := rfl
  have hone : Planning.sortedUnique [(⟨1⟩ : ResourceId)] = [⟨1⟩] := rfl
  have hemits : emits p h 0 .pathRebalance = true := by
    apply emits_pathRebalance
    · rw [hbudget]
      rfl
    · rw [attributionUsable_iff, hpolicy]
      exact ⟨UInt32.le_iff_toNat_le.mpr (Nat.zero_le _), hcontributors⟩
    · rw [hresources, hone, hbudget]
      decide
    · rw [hresources, hone, List.all_cons, hknown]
      rfl
    · rw [hbudget]
      decide
    · rw [hbudget]
      decide
    · rw [hresources, hone, hshare, hbudget]
      decide
    · rw [hresources, hone, hshare, hbudget]
      decide
  have hrate : emits p h 0 .ratePacingChange = false := by
    rw [emits, hbudget]
    rfl
  have hadmission : emits p h 0 .admissionReduction = false := by
    rw [emits, hbudget]
    rfl
  rw [chosen, if_neg hgoes, hcause, hunused, candidateKinds, List.find?_cons, hrate, List.find?_cons, hadmission,
    List.find?_cons, hemits]

theorem cause_of_incomplete {scene : Scene} {component : List ℕ}
    (h : (scene.attribution component).incomplete = true) :
    (scene.hotspotOf component).cause = scene.pressureCause component := by
  have hunusable := not_usable_of_incomplete scene h
  change scene.causeOf component (scene.attribution component) = _
  simp only [Scene.causeOf, hunusable, Bool.false_eq_true, false_and, if_false]

theorem plannedFor_of_single {p : Planning} {h : Hotspot} {kind : MitigationKind}
    (hhotspots : p.assessment.hotspots = [h]) (hchosen : chosen p (openPlan p.assessment) h = some kind) :
    ∃ intent, intent.kind = kind ∧ PlannedFor p h intent := by
  have hturn := planHotspot_turn p (openPlan p.assessment) h
  rw [hchosen] at hturn
  obtain ⟨intent, hdraft, hintents⟩ := hturn
  exact ⟨intent, hdraft.kind_eq, [], [], hhotspots, hintents⟩

theorem rebalanced_of_incomplete {input : DecisionInput} {ev : BoundEvidence} (hq : Queued input ev)
    (hadm : admittedEvidence input = some ev)
    (hincomplete : ((sceneOf input ev (recordBinding input)).attribution [0]).incomplete = true)
    (hcontributors : ((sceneOf input ev (recordBinding input)).attribution [0]).contributors ≠ [])
    (engine : Engine) : ¬ AttributionAgrees engine input := by
  intro hagrees
  obtain ⟨authority, hhotspots⟩ := hotspots_queued hq hadm
  have hlive : noFloor.expiredAt input.now = false := by
    rw [hq.now]
    decide
  have hlocal := localPlanning_of_admitted hadm hq.policy hlive (not_escalated_queued hq hadm)
  have hshare : shareOf input.capacity [⟨1⟩] (detect input).1.fabricCapacityUnits = 250000 := by
    rw [fabric_queued hq hadm]
    exact hq.share
  have hcause : ((sceneOf input ev (recordBinding input)).hotspotOf [0]).cause = .queueBuildup := by
    rw [cause_of_incomplete hincomplete]
    exact hq.cause
  obtain ⟨intent, hkind, hplanned⟩ := plannedFor_of_single (p := ⟨(detect input).1, ev.topology, input.capacity,
    noFloor⟩) hhotspots (chosen_noFloor rfl hq.known hshare hq.eligible hcause hq.ids hcontributors)
  have hin : intent ∈ (engine.decide input).1.plan.intents := (mem_intents_iff hlocal).mpr ⟨_, hplanned⟩
  obtain ⟨ev', hadm', component, hc, -, husable⟩ := hagrees intent hin (.inl hkind) _ hlocal _ hplanned
  obtain rfl : ev = ev' := Option.some.inj (hadm.symm.trans hadm')
  rw [hq.components, List.mem_singleton] at hc
  subst hc
  rw [not_usable_of_incomplete _ hincomplete] at husable
  cases husable

section Crowd

variable {input : DecisionInput} {ev : BoundEvidence} {n : ℕ} (hq : Queued input ev)
  (hrecords : boundRecords ev = (List.range n).map crowdRecord)
include hq hrecords

theorem recordsAcross_crowd : recordsAcross ev [⟨1⟩] = (List.range n).map crowdRecord := by
  rw [recordsAcross, hrecords, crossing, List.filter_eq_self]
  intro record hrecord
  obtain ⟨i, -, rfl⟩ := List.mem_map.mp hrecord
  have hcrosses : crosses (boundPaths ev) (crowdRecord i) ⟨1⟩ = true := crosses_iff.mpr hq.through
  rw [decide_eq_true_eq, crossings, List.countP_pos_iff]
  exact ⟨_, List.mem_singleton_self _, hcrosses⟩

theorem card_flowsThrough_crowd (hn : n ≤ Limits.kMaxTrafficRecords) : (flowsThrough ev [⟨1⟩]).card = n := by
  have hmax : Limits.kMaxTrafficRecords = 2 ^ 20 := rfl
  have hstrict : Strict (fun flow : FlowId ↦ flow) ((List.range n).map (fun i ↦ (numbered i : FlowId))) :=
    strict_range (fun i j hij hj ↦ numbered_lt hij (by omega))
  have hflows : ((List.range n).map crowdRecord).map TrafficRecord.flow =
      (List.range n).map (fun i ↦ (numbered i : FlowId)) := by
    rw [List.map_map]
    rfl
  rw [flowsThrough, recordsAcross_crowd hq hrecords, hflows, List.toFinset_card_of_nodup (hstrict.imp ne_of_lt),
    List.length_map, List.length_range]

variable (hadm : admittedEvidence input = some ev)
include hadm

theorem incomplete_crowd (hmore : Limits.kMaxContributorAccumulators < n) (hn : n ≤ Limits.kMaxTrafficRecords) :
    ((sceneOf input ev (recordBinding input)).attribution [0]).incomplete = true := by
  rw [← Bool.not_eq_false, incomplete_eq_false_iff hadm, hq.ids, card_flowsThrough_crowd hq hrecords hn]
  exact not_le.mpr hmore

theorem contributors_crowd
    (hincomplete : ((sceneOf input ev (recordBinding input)).attribution [0]).incomplete = true) :
    ((sceneOf input ev (recordBinding input)).attribution [0]).contributors ≠ [] := by
  have hledger := ledger_attribution hadm (recordBinding input) [0]
  rw [hq.ids] at hledger
  set st := (sceneOf input ev (recordBinding input)).attribution [0]
  have hsome : 0 < st.accumulators.length := (hledger.full hincomplete).1 ▸ (by decide)
  obtain ⟨a, ha⟩ := List.exists_mem_of_length_pos hsome
  obtain ⟨record, hrecord, hflow⟩ := List.mem_map.mp (hledger.entered a.flow (List.mem_map_of_mem ha))
  have hcrowd := (mem_visited hadm).mp hrecord
  rw [recordsAcross_crowd hq hrecords] at hcrowd
  obtain ⟨i, -, rfl⟩ := List.mem_map.mp hcrowd
  have hfresh : freshIn input.thresholds input.now a.flow (crowdRecord i) = true := by
    have hage : freshRecord input.thresholds input.now (crowdRecord i) = true := by
      rw [DecisionInput.thresholds, hq.policy, hq.now]
      change freshRecord noFloor.thresholds 10000 (crowdRecord 0) = true
      decide
    rw [freshIn, hage, hflow, decide_eq_true rfl]
    rfl
  have hpos : a.freshBps ≠ 0 := by
    intro hzero
    have htotal := (hledger.holds a ha).total
    have hdemand : 1 ≤ demandOf (freshIn input.thresholds input.now a.flow) (visited ev [⟨1⟩]) := by
      apply List.le_sum_of_mem
      refine List.mem_map.mpr ⟨_, hrecord, ?_⟩
      rw [if_pos hfresh]
      rfl
    rw [hzero, UInt64.toNat_zero] at htotal
    omega
  have hranked : a ∈ st.positive := mem_positive.mpr ⟨ha, hpos⟩
  intro hnil
  have hperm : (st.contributors.map Contributor.flow).length =
      ((st.positive.take Limits.kMaxContributors).map Accumulator.flow).length :=
    perm_flow_contributors.length_eq
  rw [hnil, List.length_map, List.length_map, List.length_take] at hperm
  have hlong := List.length_pos_of_mem hranked
  have hmax : Limits.kMaxContributors = 256 := rfl
  rw [List.length_nil] at hperm
  omega

end Crowd

def quietEvidence : BoundEvidence := (admittedEvidence quietInput).get (by decide +kernel)

def quietPaths : PathSnapshot := quietEvidence.paths.get (by decide +kernel)

theorem queued_quiet : Queued quietInput quietEvidence where
  policy := rfl
  now := rfl
  through := by decide +kernel
  components := by decide +kernel
  confirmed := by decide +kernel
  ids := by decide +kernel
  confined := by decide +kernel
  eligible := by decide +kernel
  cause := by decide +kernel
  fabric := by decide +kernel
  partly := by decide +kernel
  known := by decide +kernel
  share := by decide +kernel

theorem crowd_disagrees {n : ℕ} (hmore : Limits.kMaxContributorAccumulators < n)
    (hn : n ≤ Limits.kMaxTrafficRecords) (engine : Engine) : ¬ AttributionAgrees engine (crowdInput n) := by
  obtain ⟨traffic, hok, hbuilt, hgeneration, hrecords⟩ := crowdTraffic_built hn
  have hquiet : admittedEvidence quietInput = some quietEvidence := (Option.some_get _).symm
  have hpaths : quietEvidence.paths = some quietPaths := (Option.some_get _).symm
  have hbound : quietPaths.generation = default := by decide +kernel
  have hadm := admittedEvidence_traffic hquiet hpaths hbuilt (hgeneration.trans hbound.symm)
  have hq := queued_quiet.withTraffic (some traffic) (some traffic)
  rw [crowdInput, hok]
  have hincomplete := incomplete_crowd hq hrecords hadm hmore hn
  exact rebalanced_of_incomplete hq hadm hincomplete (contributors_crowd hq hrecords hadm hincomplete) engine

theorem rebalanced_on_refused_attribution :
    ¬ AttributionAgrees {} (crowdInput (Limits.kMaxContributorAccumulators + 1)) :=
  crowd_disagrees (Nat.lt_succ_self _) (by decide) {}

def floorInput : DecisionInput := { crowdInput 1 with policy := some { noFloor with thresholds := {} } }

theorem lone_flow_considered : ∃ intent ∈ (({} : Engine).decide floorInput).1.plan.intents,
    Attributes intent ∧ ∃ p hotspot, PlannedFor p hotspot intent ∧ ConsideredUsable floorInput hotspot := by
  have hany : (({} : Engine).decide floorInput).1.plan.intents.any (fun i ↦ i.kind = .pathRebalance) = true := by
    decide +kernel
  obtain ⟨intent, hin, hkind⟩ := List.any_eq_true.mp hany
  have hattr : Attributes intent := .inl (of_decide_eq_true hkind)
  obtain ⟨p, -, ⟨hotspot, hplanned⟩, hall⟩ := usable_for_planned_iff {} floorInput intent hin hattr
  have hfloor : floorInput.thresholds.minAttributionConfidencePpm ≠ 0 := by decide
  exact ⟨intent, hin, hattr, p, hotspot, hplanned, (hall hotspot hplanned).mpr (.inl hfloor)⟩

end HotspotGovernor.Usability
