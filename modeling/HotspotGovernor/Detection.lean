import HotspotGovernor.Authority
import HotspotGovernor.Evidence
import HotspotGovernor.Lib.DepthFirst

namespace HotspotGovernor.Detection

open Foundation ByteIo Lib Topology Evidence Authority SortedList

structure Entry where
  firstSaturated : Millis := kNoTime
  lastSaturated : Millis := kNoTime
  samples : UInt32 := 0
  deriving DecidableEq

/-- How long each resource has been continuously saturated, sorted by resource. -/
structure SaturationTracker where
  entries : List (ResourceId × Entry) := []
  sorted : Strict Prod.fst entries := by exact List.Pairwise.nil

instance : Inhabited SaturationTracker := ⟨{}⟩

namespace SaturationTracker

def find (tracker : SaturationTracker) (id : ResourceId) : Option Entry :=
  (SortedList.find Prod.fst id tracker.entries).map Prod.snd

/-- History carried forward for a resource that is saturated in this cycle. -/
def carry (tracker : SaturationTracker) (id : ResourceId) : Entry :=
  match tracker.find id with
  | none => {}
  | some entry => if entry.lastSaturated = kNoTime then {} else entry

def replace (next : List (ResourceId × Entry)) : SaturationTracker :=
  ⟨unique Prod.fst (sortBy Prod.fst next), unique_sortBy_strict next⟩

end SaturationTracker

inductive CongestionScope
  | unknown | none | localized | regional | global
  deriving DecidableEq

def CongestionScope.code : CongestionScope → ℕ
  | .unknown => 0
  | .none => 1
  | .localized => 2
  | .regional => 3
  | .global => 4

inductive SaturationCause
  | unknown | capacityExhaustion | queueBuildup | bufferExhaustion | microburst | fanInContention
  | structuralConvergence
  deriving DecidableEq

def SaturationCause.code : SaturationCause → ℕ
  | .unknown => 0
  | .capacityExhaustion => 1
  | .queueBuildup => 2
  | .bufferExhaustion => 3
  | .microburst => 4
  | .fanInContention => 5
  | .structuralConvergence => 6

inductive RemediationState
  | unknown | eligible | suppressed | notApplicable
  deriving DecidableEq

structure EvidenceBinding where
  topology : TopologyId := default
  topologyGeneration : TopologyGeneration := default
  capacity : CapacityId := default
  capacityGeneration : CapacityGeneration := default
  signals : EvidenceId := default
  signalsGeneration : EvidenceGeneration := default
  paths : PathSetId := default
  pathGeneration : PathGeneration := default
  traffic : TrafficId := default
  trafficGeneration : TrafficGeneration := default
  policy : PolicyId := default
  policyGeneration : PolicyGeneration := default
  deriving DecidableEq

structure Contributor where
  flow : FlowId
  path : PathId
  demandBps : UInt64
  sharePpm : UInt32
  fresh : Bool
  observedAt : Millis
  deriving DecidableEq

/-- Per-resource pressure derived from capacity and signal evidence. -/
structure ResourcePressure where
  resource : ResourceId
  region : RegionId
  capacityUnits : UInt64
  utilizedUnits : UInt64
  queueDepthUnits : UInt64
  queueLimitUnits : UInt64
  bufferUsedBytes : UInt64
  bufferLimitBytes : UInt64
  dropUnits : UInt64
  utilizationPpm : UInt32
  queuePpm : UInt32
  bufferPpm : UInt32
  pressurePpm : UInt32
  confidencePpm : UInt32
  quality : TelemetryQuality
  observedAt : Millis
  saturated : Bool
  admissible : Bool
  contradictory : Bool
  stale : Bool
  deriving DecidableEq

structure Hotspot where
  id : HotspotId := default
  key : String := ""
  scope : CongestionScope := .unknown
  cause : SaturationCause := .unknown
  severity : Severity := .none
  saturatedResources : List ResourceId := []
  saturatedCount : ℕ := 0
  saturatedTruncated : Bool := false
  healthyNeighbors : List ResourceId := []
  healthyNeighborCount : ℕ := 0
  healthyNeighborsTruncated : Bool := false
  regions : List RegionId := []
  contributors : List Contributor := []
  contributorCount : ℕ := 0
  contributorsTruncated : Bool := false
  saturatedCapacityUnits : UInt64 := 0
  sharePpm : UInt32 := 0
  peakPressurePpm : UInt32 := 0
  peakUtilizationPpm : UInt32 := 0
  peakQueuePpm : UInt32 := 0
  peakBufferPpm : UInt32 := 0
  attributionConfidencePpm : UInt32 := 0
  attributedDemandBps : UInt64 := 0
  unattributedDemandBps : UInt64 := 0
  persistenceMs : Millis := 0
  sampleCount : UInt32 := 0
  firstObserved : Millis := kNoTime
  lastObserved : Millis := kNoTime
  persistent : Bool := false
  remediation : RemediationState := .unknown
  suppressionReason : String := ""
  binding : EvidenceBinding := {}
  authority : AuthorityVector := {}
  deriving DecidableEq

structure Diagnostic where
  code : ErrorCode
  detail : String
  deriving DecidableEq

/-- The explainable answer to the core question for one evaluation. -/
structure FabricAssessment where
  scope : CongestionScope := .unknown
  scopeReason : String := ""
  hotspots : List Hotspot := []
  candidates : List Hotspot := []
  pressures : List ResourcePressure := []
  diagnostics : List Diagnostic := []
  authority : AuthorityVector := {}
  binding : EvidenceBinding := {}
  fabricCapacityUnits : UInt64 := 0
  coveredCapacityUnits : UInt64 := 0
  admissibleCapacityUnits : UInt64 := 0
  saturatedCapacityUnits : UInt64 := 0
  coveragePpm : UInt32 := 0
  admissibleCoveragePpm : UInt32 := 0
  capacityCoveragePpm : UInt32 := 0
  globalSharePpm : UInt32 := 0
  resourceCount : ℕ := 0
  observedCount : ℕ := 0
  admissibleCount : ℕ := 0
  saturatedCount : ℕ := 0
  contradictoryCount : ℕ := 0
  staleSignalCount : ℕ := 0
  unknownCapacityCount : ℕ := 0
  localizationProven : Bool := false
  escalationRequired : Bool := false
  escalationReason : String := ""

namespace FabricAssessment

def grant (r : FabricAssessment) (domain : AuthorityDomain) (reason : String) (binding : String := "") :
    FabricAssessment := { r with authority := r.authority.grant domain reason binding }

def deny (r : FabricAssessment) (domain : AuthorityDomain) (reason : String) (binding : String := "") :
    FabricAssessment := { r with authority := r.authority.deny domain reason binding }

def diagnose (r : FabricAssessment) (code : ErrorCode) (detail : String) : FabricAssessment :=
  if r.diagnostics.length < Limits.kMaxDiagnostics then
    { r with diagnostics := r.diagnostics ++ [⟨code, detail⟩] }
  else r

end FabricAssessment

structure DecisionInput where
  topology : Option TopologySnapshot := none
  capacity : Option CapacitySnapshot := none
  signals : Option SignalSnapshot := none
  paths : Option PathSnapshot := none
  traffic : Option TrafficSnapshot := none
  policy : Option PolicySnapshot := none
  now : Millis := kNoTime
  epoch : CoordinatorEpoch := default
  boot : BootId := default
  tracker : Option SaturationTracker := none
  referencesPreverified : Bool := false

namespace DecisionInput

def thresholds (input : DecisionInput) : Thresholds := (input.policy.map PolicySnapshot.thresholds).getD {}

def budget (input : DecisionInput) : MitigationBudget := (input.policy.map PolicySnapshot.budget).getD {}

def bands (input : DecisionInput) : SeverityBands := (input.policy.map PolicySnapshot.bands).getD {}

def policyLive (input : DecisionInput) : Bool := input.policy.any (fun p ↦ !p.expiredAt input.now)

end DecisionInput

/-- The merge of two sorted lists: every name is looked up from a cursor that only moves forward. -/
def referencesResolve : List Resource → List ResourceId → Bool
  | _, [] => true
  | resources, name :: names =>
    match resources.dropWhile (fun r ↦ r.id < name) with
    | [] => false
    | r :: rest => r.id = name && referencesResolve (r :: rest) names

def capacityResolves (topology : TopologySnapshot) (capacity : CapacitySnapshot) : Bool :=
  referencesResolve topology.resources (capacity.entries.map ResourceCapacity.resource)

def signalsResolve (topology : TopologySnapshot) (signals : SignalSnapshot) : Bool :=
  referencesResolve topology.resources (signals.records.map ResourceSignals.resource)

def pathsResolve (topology : TopologySnapshot) (paths : PathSnapshot) : Bool :=
  paths.paths.all (fun path ↦ path.hops.all topology.hasResource)

/-- The outcome of one admissibility check: what it granted or denied, what it reported, and the
evidence it admitted. -/
structure Finding (α : Type) where
  grant : AuthorityGrant
  diagnostic : Option Diagnostic := none
  admitted : Option α := none

def Finding.refuse {α : Type} (domain : AuthorityDomain) (reason : String) (code : ErrorCode)
    (detail : String) : Finding α := ⟨⟨domain, false, reason, ""⟩, some ⟨code, detail⟩, none⟩

def Finding.allow {α : Type} (domain : AuthorityDomain) (reason binding : String) (a : α) : Finding α :=
  ⟨⟨domain, true, reason, binding⟩, none, some a⟩

def FabricAssessment.record {α : Type} (r : FabricAssessment) (f : Finding α) : FabricAssessment :=
  let r := { r with authority := r.authority.push f.grant }
  match f.diagnostic with
  | none => r
  | some d => r.diagnose d.code d.detail

def genText (generation : UInt64) : String := "gen=" ++ toString generation.toNat

def recordBinding (input : DecisionInput) : EvidenceBinding :=
  { topology := (input.topology.map TopologySnapshot.id).getD default
    topologyGeneration := (input.topology.map TopologySnapshot.generation).getD default
    capacity := (input.capacity.map CapacitySnapshot.id).getD default
    capacityGeneration := (input.capacity.map CapacitySnapshot.generation).getD default
    signals := (input.signals.map SignalSnapshot.id).getD default
    signalsGeneration := (input.signals.map SignalSnapshot.generation).getD default
    paths := (input.paths.map PathSnapshot.id).getD default
    pathGeneration := (input.paths.map PathSnapshot.generation).getD default
    traffic := (input.traffic.map TrafficSnapshot.id).getD default
    trafficGeneration := (input.traffic.map TrafficSnapshot.generation).getD default
    policy := (input.policy.map PolicySnapshot.id).getD default
    policyGeneration := (input.policy.map PolicySnapshot.generation).getD default }

def generationBinding (b : EvidenceBinding) : String :=
  "t" ++ toString b.topologyGeneration.value.toNat ++ "/c" ++ toString b.capacityGeneration.value.toNat ++
  "/s" ++ toString b.signalsGeneration.value.toNat ++ "/p" ++ toString b.pathGeneration.value.toNat ++
  "/r" ++ toString b.trafficGeneration.value.toNat ++ "/y" ++ toString b.policyGeneration.value.toNat

def epochFinding (input : DecisionInput) : Finding Unit :=
  if input.epoch.valid then
    .allow .coordinatorEpoch "epoch installed" ("epoch=" ++ StrongId.hex input.epoch) ()
  else ⟨⟨.coordinatorEpoch, false, "no coordinator epoch installed", ""⟩, none, none⟩

def bootFinding (input : DecisionInput) : Finding Unit :=
  if input.boot.valid then
    .allow .bootIncarnation "boot incarnation installed" ("boot=" ++ StrongId.hex input.boot) ()
  else ⟨⟨.bootIncarnation, false, "no boot incarnation installed", ""⟩, none, none⟩

def policyFinding (input : DecisionInput) : Finding PolicySnapshot :=
  match input.policy with
  | none => .refuse .policy "policy evidence missing" .policyMissing
      "no policy supplied; thresholds defaulted, mitigation unauthorised"
  | some policy =>
    if policy.expiredAt input.now then
      ⟨⟨.policy, false, "policy expired", genText policy.generation.value⟩,
        some ⟨.policyExpired, "policy ttl elapsed; mitigation unauthorised"⟩, none⟩
    else .allow .policy "policy live" (genText policy.generation.value) policy

/-- What is recorded regardless of the evidence: bindings, coordinator, boot and policy. -/
def opening (input : DecisionInput) : FabricAssessment :=
  let r : FabricAssessment := { binding := recordBinding input }
  ((r.record (epochFinding input)).record (bootFinding input)).record (policyFinding input)

/-- An inadmissible evaluation: nothing is localized and the saturation series is broken. -/
def reject (input : DecisionInput) (r : FabricAssessment) (scope : CongestionScope) (reason : String) :
    FabricAssessment × Option SaturationTracker :=
  ({ r with
      scope
      scopeReason := reason
      localizationProven := false
      authority := r.authority.sealGrants },
    input.tracker.map (fun _ ↦ SaturationTracker.replace []))

def capacityFinding (input : DecisionInput) (topology : TopologySnapshot) : Finding CapacitySnapshot :=
  match input.capacity.filter CapacitySnapshot.built with
  | none => .refuse .capacity "capacity evidence missing" .missingEvidence
      "no built capacity snapshot supplied"
  | some capacity =>
    if capacity.topologyGeneration ≠ topology.generation then
      .refuse .capacity "capacity does not bind the live topology generation" .capacityGenerationMismatch
        "capacity snapshot names a different topology generation"
    else if ageMs capacity.observedAt input.now > millis input.thresholds.maxCapacityAgeMs then
      .refuse .capacity "capacity snapshot is stale" .staleEvidence
        "capacity snapshot is older than the policy permits"
    else
      .allow .capacity "capacity bound to topology generation" (genText capacity.generation.value) capacity

def signalsFinding (input : DecisionInput) (topology : TopologySnapshot)
    (capacity : Option CapacitySnapshot) : Finding SignalSnapshot :=
  match capacity with
  | none => ⟨⟨.signals, false, "capacity authority unavailable", ""⟩, none, none⟩
  | some capacity =>
    match input.signals.filter SignalSnapshot.built with
    | none => .refuse .signals "signal evidence missing" .missingEvidence
        "no built signal snapshot supplied"
    | some signals =>
      if signals.topologyGeneration ≠ topology.generation then
        .refuse .signals "signals do not bind the live topology generation" .topologyGenerationMismatch
          "signal snapshot names a different topology generation"
      else if signals.capacityGeneration ≠ capacity.generation then
        .refuse .signals "signals do not bind the live capacity generation" .capacityGenerationMismatch
          "signal snapshot names a different capacity generation"
      else
        .allow .signals "signals bound to topology and capacity generations"
          (genText signals.generation.value) signals

def pathsFinding (input : DecisionInput) (topology : TopologySnapshot) : Finding PathSnapshot :=
  match input.paths.filter PathSnapshot.built with
  | none => .refuse .paths "path evidence missing" .missingEvidence
      "no path snapshot supplied; attribution unavailable"
  | some paths =>
    if paths.topologyGeneration ≠ topology.generation then
      .refuse .paths "paths do not bind the live topology generation" .pathGenerationMismatch
        "path snapshot names a different topology generation"
    else if ageMs paths.observedAt input.now > millis input.thresholds.maxPathAgeMs then
      .refuse .paths "path evidence is stale" .staleEvidence
        "path snapshot is older than the policy permits"
    else .allow .paths "paths bound to topology generation" (genText paths.generation.value) paths

def trafficFinding (input : DecisionInput) (paths : Option PathSnapshot) : Finding TrafficSnapshot :=
  match paths with
  | none => ⟨⟨.traffic, false, "path authority unavailable", ""⟩, none, none⟩
  | some paths =>
    match input.traffic.filter TrafficSnapshot.built with
    | none => .refuse .traffic "traffic evidence missing" .missingEvidence
        "no traffic snapshot supplied; attribution unavailable"
    | some traffic =>
      if traffic.pathGeneration ≠ paths.generation then
        .refuse .traffic "traffic does not bind the live path generation" .trafficGenerationMismatch
          "traffic snapshot names a different path generation"
      else .allow .traffic "traffic bound to path generation" (genText traffic.generation.value) traffic

structure BoundEvidence where
  topology : TopologySnapshot
  capacity : CapacitySnapshot
  signals : SignalSnapshot
  paths : Option PathSnapshot
  traffic : Option TrafficSnapshot

/-- The four findings on the evidence, each seeing what the ones before it admitted. -/
structure Findings where
  capacity : Finding CapacitySnapshot
  signals : Finding SignalSnapshot
  paths : Finding PathSnapshot
  traffic : Finding TrafficSnapshot

def findingsOf (input : DecisionInput) (topology : TopologySnapshot) : Findings :=
  let capacity := capacityFinding input topology
  let paths := pathsFinding input topology
  { capacity, paths
    signals := signalsFinding input topology capacity.admitted
    traffic := trafficFinding input paths.admitted }

/-- Capacity and signals are required; missing paths or traffic only remove attribution. -/
def Findings.evidence (f : Findings) (topology : TopologySnapshot) : Option BoundEvidence :=
  match f.capacity.admitted, f.signals.admitted with
  | some capacity, some signals => some ⟨topology, capacity, signals, f.paths.admitted, f.traffic.admitted⟩
  | _, _ => none

def recordEvidence (input : DecisionInput) (topology : TopologySnapshot) : FabricAssessment :=
  let f := findingsOf input topology
  let r := (opening input).grant .topology "topology fresh"
    (genText topology.generation.value ++ " id=" ++ StrongId.hex topology.id)
  (((r.record f.capacity).record f.signals).record f.paths).record f.traffic

end HotspotGovernor.Detection
