import HotspotGovernor.Detect

namespace HotspotGovernor.Intervention

open Foundation ByteIo Lib Topology Evidence Authority Detection SortedList

structure SuppressedAction where
  kind : MitigationKind := .none
  hotspot : HotspotId := default
  reason : String := ""
  deriving DecidableEq

structure MitigationIntent where
  id : InterventionId := default
  kind : MitigationKind := .none
  hotspot : HotspotId := default
  escalationHotspot : HotspotId := default
  affectedResources : List ResourceId := []
  affectedPaths : List PathId := []
  affectedFlows : List FlowId := []
  rateDeltaPpm : ℤ := 0
  rateDeltaBoundedPpm : UInt32 := 0
  scopeSharePpm : UInt32 := 0
  severity : Severity := .none
  hotspotScope : CongestionScope := .unknown
  cause : SaturationCause := .unknown
  escalation : Bool := false
  binding : EvidenceBinding := {}
  policyProvenance : Provenance := {}
  authority : AuthorityVector := {}
  rationale : String := ""
  deriving DecidableEq

structure InterventionPlan where
  intents : List MitigationIntent := []
  suppressed : List SuppressedAction := []
  authority : AuthorityVector := {}
  binding : EvidenceBinding := {}
  escalationRequired : Bool := false
  escalationReason : String := ""
  planScopeSharePpm : UInt32 := 0
  rejectedIntentCount : ℕ := 0
  deriving DecidableEq

namespace InterventionPlan

def noteSuppression (plan : InterventionPlan) (kind : MitigationKind) (hotspot : HotspotId)
    (reason : String) : InterventionPlan :=
  if plan.suppressed.length ≥ Limits.kMaxSuppressedEntries then plan
  else if plan.suppressed.any (fun s ↦ s.kind = kind && s.hotspot = hotspot) then plan
  else
    { plan with
      suppressed := plan.suppressed ++
        [⟨kind, hotspot, String.ofList (reason.toList.take Limits.kMaxReasonBytes)⟩] }

def countRejected (plan : InterventionPlan) : InterventionPlan :=
  { plan with rejectedIntentCount := plan.rejectedIntentCount + 1 }

def sealAuthority (plan : InterventionPlan) : InterventionPlan :=
  { plan with authority := plan.authority.sealGrants }

def withhold (plan : InterventionPlan) (domain : AuthorityDomain) (reason : String) :
    InterventionPlan := { plan with authority := (plan.authority.deny domain reason).sealGrants }

end InterventionPlan

def shareOf (capacity : Option CapacitySnapshot) (resources : List ResourceId)
    (fabricCapacity : UInt64) : UInt32 :=
  match capacity with
  | none => 0
  | some capacity =>
    if fabricCapacity = 0 then 0
    else
      let total := resources.foldl (fun total id ↦
        match capacity.find id with
        | none => total
        | some entry => satAdd total entry.capacityUnits) 0
      (ratioPpm total fabricCapacity).getD 0

structure IntentDraft where
  resources : List ResourceId
  paths : List PathId := []
  flows : List FlowId := []
  rateDeltaPpm : ℤ := 0
  rationale : String

structure Planning where
  assessment : FabricAssessment
  topology : TopologySnapshot
  capacity : Option CapacitySnapshot
  policy : PolicySnapshot

namespace Planning

variable (p : Planning) (hotspot : Hotspot)

def budget : MitigationBudget := p.policy.budget

def thresholds : Thresholds := p.policy.thresholds

def attributionUsable : Bool :=
  hotspot.attributionConfidencePpm ≥ p.thresholds.minAttributionConfidencePpm &&
    !hotspot.contributors.isEmpty

def excess : UInt32 :=
  let target := p.thresholds.saturationUtilizationPpm
  let excess := if hotspot.peakUtilizationPpm > target then hotspot.peakUtilizationPpm - target else 0
  if excess = 0 then
    if hotspot.peakPressurePpm > target then hotspot.peakPressurePpm - target else 0
  else excess

def hasDrops : Bool := p.assessment.pressures.any (fun r ↦ r.saturated && r.dropUnits > 0)

/-- The draft for one kind, or the reason why the evidence does not authorise it. -/
def draftOf (kind : MitigationKind) : Except String IntentDraft :=
  let resources := hotspot.saturatedResources
  match kind with
  | .flowRelocation =>
    if p.budget.requireAttributionForRelocation ∧ !p.attributionUsable hotspot then
      .error "attribution confidence below the floor: relocation is not authorised"
    else
      let targets := hotspot.healthyNeighbors.take
        (Limits.kMaxIntentAffectedResources - resources.length)
      if p.attributionUsable hotspot then
        .ok { resources := resources ++ targets
              flows := (hotspot.contributors.take Limits.kMaxIntentAffectedFlows).map Contributor.flow
              paths := (hotspot.contributors.take
                (min Limits.kMaxIntentAffectedFlows Limits.kMaxIntentAffectedPaths)).map Contributor.path
              rationale := "relocate the dominant contributing flows off the saturated resource set" }
      else
        .ok { resources := resources ++ targets
              rationale := "relocate the saturated scope wholesale (policy does not require attribution)" }
  | .pathRebalance =>
    if !p.attributionUsable hotspot then
      .error "attribution confidence below the floor: rebalance is not authorised"
    else
      .ok { resources
            paths := (hotspot.contributors.take Limits.kMaxIntentAffectedPaths).map Contributor.path
            flows := (hotspot.contributors.take
              (min Limits.kMaxIntentAffectedPaths Limits.kMaxIntentAffectedFlows)).map Contributor.flow
            rationale := "rebalance the contributing paths across their equal-cost alternatives" }
  | .ratePacingChange =>
    if p.excess hotspot = 0 then .error "no measurable rate excess to reduce"
    else
      .ok { resources
            rateDeltaPpm := -((min (p.excess hotspot) p.budget.maxRateDeltaPpm).toNat : ℤ)
            rationale := "request a bounded rate/pacing reduction at the saturated scope" }
  | .resourceIsolation =>
    if !p.hasDrops then
      .error "no drop evidence on the saturated resources: isolation is not authorised"
    else .ok { resources, rationale := "isolate the degraded resource so the fabric can drain it" }
  | .admissionReduction =>
    .ok { resources, rationale := "reduce admission within the hotspot scope only" }
  | .none | .escalateGlobalCongestion => .ok { resources, rationale := "" }

def sortedUnique {tag : IdTag} (ids : List (StrongId tag)) : List (StrongId tag) :=
  unique (fun id ↦ id) (sortBy (fun id ↦ id) ids)

def ordered (draft : IntentDraft) : IntentDraft :=
  { draft with
    resources := sortedUnique draft.resources
    paths := sortedUnique draft.paths
    flows := sortedUnique draft.flows }

/-- The bounds on an affected set: the policy's, the hard ones, and the live topology. -/
def boundRefusal (draft : IntentDraft) : Option String :=
  if draft.resources.length > p.budget.maxAffectedResources.toNat then
    some "affected resource count exceeds the per-intent budget"
  else if draft.paths.length > p.budget.maxAffectedPaths.toNat then
    some "affected path count exceeds the per-intent budget"
  else if draft.flows.length > p.budget.maxAffectedFlows.toNat then
    some "affected flow count exceeds the per-intent budget"
  else if draft.resources.length > Limits.kMaxIntentAffectedResources ∨
      draft.paths.length > Limits.kMaxIntentAffectedPaths ∨
      draft.flows.length > Limits.kMaxIntentAffectedFlows then
    some "affected set exceeds the hard bound"
  else if !draft.resources.all p.topology.hasResource then
    some "affected resource is absent from the live topology generation"
  else none

def scopeShare (draft : IntentDraft) : UInt32 :=
  shareOf p.capacity draft.resources p.assessment.fabricCapacityUnits

end Planning

def kindCode : MitigationKind → ℕ
  | .none => 0
  | .flowRelocation => 1
  | .pathRebalance => 2
  | .admissionReduction => 3
  | .ratePacingChange => 4
  | .resourceIsolation => 5
  | .escalateGlobalCongestion => 6

def intentCanonical (kind : MitigationKind) (hotspot : HotspotId) (draft : IntentDraft) : String :=
  "iv1|" ++ toString (kindCode kind) ++ "|h" ++ StrongId.hex hotspot ++ "|n" ++
    toString draft.resources.length ++ "|r" ++
    String.join (draft.resources.map (fun id ↦ hex64 id.value ++ ",")) ++ "|d" ++
    toString draft.rateDeltaPpm

def escalationCanonical (binding : EvidenceBinding) : String :=
  "iv1|esc|" ++ StrongId.hex binding.topology ++ "|" ++
    toString binding.topologyGeneration.value.toNat ++ "|" ++
    toString binding.signalsGeneration.value.toNat

namespace Planning

variable (p : Planning) (hotspot : Hotspot)

def intentOf (plan : InterventionPlan) (kind : MitigationKind) (draft : IntentDraft) :
    MitigationIntent :=
  { id := ⟨identityFromBytes (intentCanonical kind hotspot.id draft)⟩
    kind
    hotspot := hotspot.id
    affectedResources := draft.resources
    affectedPaths := draft.paths
    affectedFlows := draft.flows
    rateDeltaPpm := draft.rateDeltaPpm
    rateDeltaBoundedPpm := UInt32.ofNat draft.rateDeltaPpm.natAbs
    scopeSharePpm := p.scopeShare draft
    severity := hotspot.severity
    hotspotScope := hotspot.scope
    cause := hotspot.cause
    binding := hotspot.binding
    policyProvenance := p.policy.provenance
    rationale := draft.rationale
    authority := (plan.authority.grant .mitigationBudget
      "intent within the per-intent and whole-plan budget").sealGrants }

def escalationIntent (plan : InterventionPlan) : MitigationIntent :=
  let hotspot := (p.assessment.hotspots.head?.map Hotspot.id).getD default
  { id := ⟨identityFromBytes (escalationCanonical p.assessment.binding)⟩
    kind := .escalateGlobalCongestion
    escalation := true
    hotspot
    escalationHotspot := hotspot
    hotspotScope := p.assessment.scope
    severity := .critical
    cause := .unknown
    binding := p.assessment.binding
    policyProvenance := p.policy.provenance
    rationale :=
      if p.assessment.escalationReason.isEmpty then
        "locality has broken; escalating to global congestion ownership"
      else p.assessment.escalationReason
    authority := (plan.authority.grant .mitigationBudget "escalation is not a local action").sealGrants }

def emit (plan : InterventionPlan) (kind : MitigationKind) (draft : IntentDraft) :
    InterventionPlan × Bool :=
  match p.boundRefusal draft with
  | some reason => (plan.noteSuppression kind hotspot.id reason, false)
  | none =>
    let share := p.scopeShare draft
    let projected := plan.planScopeSharePpm.toUInt64 + share.toUInt64
    if share > p.budget.maxScopeSharePpm then
      (plan.noteSuppression kind hotspot.id "affected scope exceeds the per-intent share budget", false)
    else if projected > p.budget.maxPlanScopeSharePpm.toUInt64 then
      ((plan.noteSuppression kind hotspot.id
        "affected scope would exceed the whole-plan share budget").countRejected, false)
    else
      ({ plan with
          planScopeSharePpm := projected.toUInt32
          intents := plan.intents ++ [p.intentOf hotspot plan kind draft] }, true)

def consider (st : InterventionPlan × Bool) (kind : MitigationKind) : InterventionPlan × Bool :=
  if st.2 then
    (st.1.noteSuppression kind hotspot.id
      "a higher-priority intent was already emitted for this hotspot", true)
  else if !p.budget.allows kind then
    (st.1.noteSuppression kind hotspot.id "kind disabled by policy budget", false)
  else match p.draftOf hotspot kind with
    | .error reason => (st.1.noteSuppression kind hotspot.id reason, false)
    | .ok draft => p.emit hotspot st.1 kind (ordered draft)

end Planning

def candidateKinds : SaturationCause → List MitigationKind
  | .fanInContention => [.flowRelocation, .pathRebalance, .ratePacingChange, .admissionReduction]
  | .structuralConvergence => [.pathRebalance, .admissionReduction, .ratePacingChange]
  | .capacityExhaustion =>
    [.admissionReduction, .ratePacingChange, .flowRelocation, .resourceIsolation]
  | .queueBuildup => [.ratePacingChange, .admissionReduction, .pathRebalance]
  | .bufferExhaustion => [.admissionReduction, .resourceIsolation, .ratePacingChange]
  | .microburst | .unknown => [.admissionReduction]

namespace Planning

def planHotspot (p : Planning) (plan : InterventionPlan) (hotspot : Hotspot) : InterventionPlan :=
  if hotspot.remediation ≠ .eligible then
    plan.noteSuppression .admissionReduction hotspot.id
      (if hotspot.suppressionReason.isEmpty then "remediation not eligible" else hotspot.suppressionReason)
  else if plan.intents.length ≥ p.budget.maxIntentsPerPlan.toNat then
    (plan.noteSuppression .admissionReduction hotspot.id
      "whole-plan intent budget exhausted").countRejected
  else
    let st := (candidateKinds hotspot.cause).foldl (p.consider hotspot) (plan, false)
    if st.2 then st.1
    else st.1.countRejected.noteSuppression .none hotspot.id
      "no mitigation kind satisfied the policy budget for this hotspot"

def withheldForEscalation (plan : InterventionPlan) (hotspot : Hotspot) : InterventionPlan :=
  if hotspot.remediation = .eligible then
    plan.noteSuppression .admissionReduction hotspot.id
      "locality broke: local mitigation is withheld in favour of escalation"
  else plan

def escalationPlan (p : Planning) (plan : InterventionPlan) : InterventionPlan :=
  let plan := p.assessment.hotspots.foldl withheldForEscalation plan
  if p.budget.allowGlobalEscalation then
    { plan with intents := plan.intents ++ [p.escalationIntent plan] }.sealAuthority
  else
    (plan.noteSuppression .escalateGlobalCongestion default
      "global escalation is disabled by policy").sealAuthority

def localPlan (p : Planning) (plan : InterventionPlan) : InterventionPlan :=
  let plan := p.assessment.hotspots.foldl p.planHotspot plan
  { plan with
    authority := plan.authority.grant .mitigationBudget
      (if plan.intents.isEmpty then "no intent emitted" else "all intents within budget") }.sealAuthority

end Planning

def openPlan (assessment : FabricAssessment) : InterventionPlan :=
  { binding := assessment.binding
    escalationRequired := assessment.escalationRequired
    escalationReason := assessment.escalationReason
    authority := assessment.authority }

def planInterventions (assessment : FabricAssessment) (topology : Option TopologySnapshot)
    (capacity : Option CapacitySnapshot) (policy : Option PolicySnapshot) (now : Millis) :
    InterventionPlan :=
  let plan := openPlan assessment
  match topology.filter TopologySnapshot.built with
  | none => plan.withhold .topology "topology unavailable: the affected scope cannot be validated"
  | some topology =>
    if assessment.binding.topology.valid ∧ assessment.binding.topology ≠ topology.id then
      plan.withhold .topology "assessment was bound to a different topology generation"
    else match policy.filter (fun p ↦ !p.expiredAt now) with
      | none => plan.withhold .policy "no live policy: no mitigation may be authorised"
      | some policy =>
        let p : Planning := { assessment, topology, capacity, policy }
        if assessment.escalationRequired then p.escalationPlan plan else p.localPlan plan

theorem planInterventions_intents_eq_nil {assessment : FabricAssessment} (hh : assessment.hotspots = [])
    (he : assessment.escalationRequired = false) (topology : Option TopologySnapshot)
    (capacity : Option CapacitySnapshot) (policy : Option PolicySnapshot) (now : Millis) :
    (planInterventions assessment topology capacity policy now).intents = [] := by
  unfold planInterventions
  dsimp only
  split
  · rfl
  · split
    · rfl
    · split
      · rfl
      · simp [he, hh, Planning.localPlan, InterventionPlan.sealAuthority, openPlan]

end HotspotGovernor.Intervention
