import HotspotGovernor.Hotspots

namespace HotspotGovernor.Detect

open Foundation Lib Topology Evidence Authority Detection Sampling Hotspots

def countResources (r : FabricAssessment) (n : ℕ) : FabricAssessment := { r with resourceCount := n }

def account (r : FabricAssessment) (tally : Tally) : FabricAssessment :=
  { r with
    pressures := tally.pressures
    fabricCapacityUnits := tally.fabricCapacity
    coveredCapacityUnits := tally.coveredCapacity
    admissibleCapacityUnits := tally.admissibleCapacity
    saturatedCapacityUnits := tally.saturatedCapacity
    observedCount := tally.observedCount
    admissibleCount := tally.admissibleCount
    saturatedCount := tally.saturatedCount
    contradictoryCount := tally.contradictoryCount
    staleSignalCount := tally.staleCount
    unknownCapacityCount := tally.unusableCount
    coveragePpm := tally.coveragePpm
    admissibleCoveragePpm := tally.admissibleCoveragePpm
    capacityCoveragePpm := tally.capacityCoveragePpm r.resourceCount
    globalSharePpm := tally.globalSharePpm }

/-- A refusal of the evidence: the authority it denies, what it reports and the reason it gives. -/
structure Refusal where
  domain : AuthorityDomain
  denial : String
  code : ErrorCode
  detail : String
  reason : String

def refuse (input : DecisionInput) (r : FabricAssessment) (f : Refusal) :
    FabricAssessment × Option SaturationTracker :=
  reject input ((r.deny f.domain f.denial).diagnose f.code f.detail) .unknown f.reason

/-- References of the evidence into the topology, unless a caller has verified them already. -/
def referenceRefusal (input : DecisionInput) (evidence : BoundEvidence) : Option Refusal :=
  if input.referencesPreverified then none
  else if !capacityResolves evidence.topology evidence.capacity then
    some ⟨.capacity, "capacity names a resource outside the bound topology", .unknownResource,
      "capacity names a resource the topology does not define",
      "capacity evidence contradicts its topology generation binding"⟩
  else if !signalsResolve evidence.topology evidence.signals then
    some ⟨.signals, "signals name a resource outside the bound topology", .unknownResource,
      "signals name a resource the topology does not define",
      "signal evidence contradicts its topology generation binding"⟩
  else if evidence.paths.any (fun paths ↦ !pathsResolve evidence.topology paths) then
    some ⟨.paths, "a path traverses a resource outside the bound topology", .unknownResource,
      "a path traverses a resource the topology does not define",
      "path evidence contradicts its topology generation binding"⟩
  else none

def coverageRefusal (t : Thresholds) (tally : Tally) (n : ℕ) : Option Refusal :=
  if tally.fabricCapacity = 0 then
    some ⟨.signals, "no usable capacity evidence", .insufficientCoverage,
      "no resource carries usable capacity evidence",
      "no usable capacity evidence: saturation is unknown"⟩
  else if tally.capacityCoveragePpm n < t.minCoveragePpm then
    some ⟨.capacity, "capacity coverage below the policy floor", .insufficientCoverage,
      "capacity known for " ++ toString (tally.capacityCoveragePpm n).toNat ++
        " ppm of resources, below floor " ++ toString t.minCoveragePpm.toNat,
      "capacity is unknown for too much of the fabric: saturation cannot be bounded"⟩
  else if tally.admissibleCoveragePpm < t.minCoveragePpm then
    some ⟨.signals, "admissible telemetry coverage below the policy floor", .insufficientCoverage,
      "admissible capacity " ++ toString tally.admissibleCoveragePpm.toNat ++
        " ppm below floor " ++ toString t.minCoveragePpm.toNat ++ " ppm",
      "admissible telemetry covers too little of the fabric: an unobserved region could be saturated"⟩
  else none

def widest (hotspots : List Hotspot) : CongestionScope :=
  hotspots.foldl (fun widest h ↦ if h.scope.code > widest.code then h.scope else widest) .none

def verdict (r : FabricAssessment) : FabricAssessment :=
  if r.hotspots = [] then
    { r with
      scope := .none
      scopeReason :=
        if r.candidates = [] then "no resource is saturated in the admissible evidence"
        else "saturation observed but not yet persistent: no confirmed hotspot" }
  else
    let localized := r.hotspots.countP (fun h ↦ h.scope = .localized)
    let global := r.hotspots.countP (fun h ↦ h.scope = .global)
    { r with
      scope := widest r.hotspots
      scopeReason :=
        if global > 0 then
          "locality has broken: " ++ toString global ++ " hotspot(s) span the fabric"
        else if localized > 1 then
          toString localized ++ " simultaneous localized hotspots, no fabric-wide saturation"
        else "congestion is confined to a bounded set of resources"
      localizationProven := localized > 0 }

def escalation (input : DecisionInput) (r : FabricAssessment) : Option String :=
  let hotspotShare := r.hotspots.foldl (fun total h ↦ satAdd total h.sharePpm.toUInt64) 0
  if r.scope = .global then some "a hotspot spans the fabric: global congestion ownership applies"
  else if r.globalSharePpm ≥ input.thresholds.globalSharePpm ∧ r.hotspots ≠ [] then
    some "aggregate saturated capacity share exceeds the global threshold"
  else if r.hotspots.length > input.budget.maxIntentsPerPlan.toNat ∧
      hotspotShare ≥ input.budget.maxPlanScopeSharePpm.toUInt64 then
    some "simultaneous hotspot scope exceeds the whole-plan mitigation budget"
  else none

def escalate (input : DecisionInput) (r : FabricAssessment) : FabricAssessment :=
  match escalation input r with
  | some reason =>
    { r with escalationRequired := true, escalationReason := reason }.deny .mitigationBudget
      "local mitigation cannot cover the observed scope"
  | none => r.grant .mitigationBudget "observed scope fits the mitigation budget"

def close (r : FabricAssessment) : FabricAssessment :=
  let authority := r.authority.sealGrants
  { r with
    authority
    hotspots := r.hotspots.map (fun h ↦ { h with authority })
    candidates := r.candidates.map (fun h ↦ { h with authority }) }

def trackingRecord (input : DecisionInput) (r : FabricAssessment) : FabricAssessment :=
  if input.tracker.isSome then r
  else (r.deny .persistence "no saturation tracker available").diagnose .missingEvidence
    "detection ran without a saturation tracker; nothing can be confirmed as persistent"

def sceneOf (input : DecisionInput) (evidence : BoundEvidence) (binding : EvidenceBinding) : Scene :=
  { input, evidence, binding
    cells := cellsOf evidence input.thresholds input.now
    tally := tallyOf evidence input.thresholds input.now }

def collectAll (scene : Scene) (authority : AuthorityVector) : Collection :=
  scene.components.foldl (collect scene) { authority }

def historyRecord (input : DecisionInput) (st : Collection) (r : FabricAssessment) : FabricAssessment :=
  let r :=
    if input.tracker.isSome ∧ st.history.length > Limits.kMaxHistoryResources then
      r.diagnose .boundExceeded "saturation history exceeded its bound and was truncated"
    else r
  if st.truncated > 0 then
    r.diagnose .boundExceeded ("hotspot population exceeded the reporting bound; " ++
      toString st.truncated ++ " entries not reported")
  else r

def localize (input : DecisionInput) (evidence : BoundEvidence) (r : FabricAssessment) :
    FabricAssessment × Option SaturationTracker :=
  let r := trackingRecord input r
  let st := collectAll (sceneOf input evidence r.binding) r.authority
  let r := { r with hotspots := st.hotspots, candidates := st.candidates, authority := st.authority }
  let r := historyRecord input st r
  (close (escalate input (verdict r)),
    input.tracker.map (fun _ ↦
      SaturationTracker.replace (st.history.take Limits.kMaxHistoryResources)))

/-- Detection over admitted evidence: references, accounting and coverage come first. -/
def detectBound (input : DecisionInput) (evidence : BoundEvidence) (r : FabricAssessment) :
    FabricAssessment × Option SaturationTracker :=
  let n := evidence.topology.resources.length
  let r := countResources r n
  if n = 0 then reject input r .none "topology declares no resources"
  else match referenceRefusal input evidence with
    | some f => refuse input r f
    | none =>
      let tally := tallyOf evidence input.thresholds input.now
      let r := account r tally
      match coverageRefusal input.thresholds tally n with
      | some f => refuse input r f
      | none => localize input evidence r

/-- Detection over one set of generation-bound snapshots, and the tracker it leaves behind. -/
def detect (input : DecisionInput) : FabricAssessment × Option SaturationTracker :=
  let r := opening input
  match input.topology.filter TopologySnapshot.built with
  | none => refuse input r ⟨.topology, "topology evidence missing", .missingEvidence,
      "no built topology snapshot supplied", "topology evidence missing"⟩
  | some topology =>
    if !topology.freshAt input.now then
      refuse input r ⟨.topology, "topology validity window elapsed", .staleTopology,
        "topology snapshot is past its validity window", "stale topology invalidates localization"⟩
    else
      let r := recordEvidence input topology
      match (findingsOf input topology).evidence topology with
      | some evidence => detectBound input evidence r
      | none => reject input r .unknown
          "capacity or signal authority unavailable: congestion is not known"

end HotspotGovernor.Detect
