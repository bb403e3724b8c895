import HotspotGovernor.Sampling

namespace HotspotGovernor.Hotspots

open Foundation ByteIo Lib Topology Evidence Authority Detection Sampling SortedList

/-- The history entry of a resource saturated in this cycle. -/
def nextEntry (tracker : Option SaturationTracker) (now : Millis) (id : ResourceId) : Entry :=
  match tracker with
  | none => ⟨now, now, 1⟩
  | some tracker =>
    let previous := tracker.carry id
    if previous.samples = 0 then ⟨now, now, 1⟩
    else ⟨previous.firstSaturated, now,
      if previous.samples = kUInt32Max then kUInt32Max else previous.samples + 1⟩

structure Scene where
  input : DecisionInput
  evidence : BoundEvidence
  cells : List Cell
  tally : Tally
  binding : EvidenceBinding

namespace Scene

def thresholds (scene : Scene) : Thresholds := scene.input.thresholds

def now (scene : Scene) : Millis := scene.input.now

def resources (scene : Scene) : List Resource := scene.evidence.topology.resources

def cell (scene : Scene) (index : ℕ) : Cell := scene.cells.getD index {}

/-- The id at a position of the resource list; the loop only asks for positions in range. -/
def resourceId (scene : Scene) (index : ℕ) : ResourceId :=
  (scene.resources[index]?.map Resource.id).getD default

def regionId (scene : Scene) (index : ℕ) : RegionId :=
  (scene.resources[index]?.map Resource.region).getD default

def indexOfResource (scene : Scene) (id : ResourceId) : Option ℕ :=
  findIndex Resource.id id scene.resources

def neighborIndices (scene : Scene) (index : ℕ) : List ℕ :=
  (scene.evidence.topology.neighbors (scene.resourceId index)).filterMap scene.indexOfResource

def saturatedAt (scene : Scene) (index : ℕ) : Bool := (scene.cell index).saturated

def components (scene : Scene) : List (List ℕ) :=
  (DepthFirst.components scene.neighborIndices scene.saturatedAt
    (List.range scene.resources.length)).map (sortBy (fun index ↦ index))

def entryState (scene : Scene) (id : ResourceId) : Entry :=
  nextEntry scene.input.tracker scene.now id

def history (scene : Scene) (component : List ℕ) : List (ResourceId × Entry) :=
  component.map (fun index ↦ (scene.resourceId index, scene.entryState (scene.resourceId index)))

/-- The latest start and the smallest sample count over the entries seen so far. -/
def spanStep (span : Option (Millis × UInt32)) (entry : Entry) : Option (Millis × UInt32) :=
  match span with
  | none => some (entry.firstSaturated, entry.samples)
  | some (latestFirst, minSamples) =>
    some (if entry.firstSaturated > latestFirst then entry.firstSaturated else latestFirst,
      if entry.samples < minSamples then entry.samples else minSamples)

def span (scene : Scene) (component : List ℕ) : Millis × UInt32 :=
  (((scene.history component).map Prod.snd).foldl spanStep none).getD (kNoTime, 0)

def componentCapacity (scene : Scene) (component : List ℕ) : UInt64 :=
  component.foldl (fun total index ↦
    match scene.evidence.capacity.find (scene.resourceId index) with
    | none => total
    | some entry => satAdd total entry.capacityUnits) 0

def peak (scene : Scene) (ppm : Cell → UInt32) (component : List ℕ) : UInt32 :=
  component.foldl (fun m index ↦ max m (ppm (scene.cell index))) 0

def healthy (scene : Scene) (component : List ℕ) : List ResourceId :=
  unique (fun id ↦ id) (sortBy (fun id ↦ id) (component.flatMap (fun index ↦
    (scene.evidence.topology.neighbors (scene.resourceId index)).filter (fun neighbour ↦
      (scene.indexOfResource neighbour).any (fun j ↦
        (scene.cell j).admissible && !(scene.cell j).saturated)))))

def regions (scene : Scene) (component : List ℕ) : List RegionId :=
  unique (fun id ↦ id) (sortBy (fun id ↦ id)
    ((component.take Limits.kMaxRegions).map scene.regionId))

end Scene

structure Accumulator where
  flow : FlowId
  path : PathId
  freshBps : UInt64 := 0
  staleBps : UInt64 := 0
  bestPathBps : UInt64 := 0
  observedAt : Millis := kNoTime
  deriving DecidableEq

structure Attribution where
  accumulators : List Accumulator := []
  freshDemand : UInt64 := 0
  staleDemand : UInt64 := 0
  distinctFreshPaths : UInt32 := 0
  incomplete : Bool := false

def freshRecord (t : Thresholds) (now : Millis) (record : TrafficRecord) : Bool :=
  ageMs record.observedAt now ≤ millis t.maxTrafficAgeMs &&
    (record.quality = .healthy || record.quality = .degraded)

def Accumulator.addFresh (path : PathId) (record : TrafficRecord) (a : Accumulator) : Accumulator :=
  { a with
    freshBps := satAdd a.freshBps record.demandBps
    observedAt := if a.observedAt < record.observedAt then record.observedAt else a.observedAt
    bestPathBps := if record.demandBps > a.bestPathBps then record.demandBps else a.bestPathBps
    path := if record.demandBps > a.bestPathBps then path else a.path }

def Accumulator.addStale (record : TrafficRecord) (a : Accumulator) : Accumulator :=
  { a with staleBps := satAdd a.staleBps record.demandBps }

def attributeRecord (t : Thresholds) (now : Millis) (path : PathId) (st : Attribution)
    (record : TrafficRecord) : Attribution :=
  let found := st.accumulators.findIdx? (fun a ↦ a.flow = record.flow)
  if found = none ∧ st.accumulators.length ≥ Limits.kMaxContributorAccumulators then
    { st with incomplete := true }
  else
    let slot := found.getD st.accumulators.length
    let accumulators :=
      if found = none then st.accumulators ++ [{ flow := record.flow, path }] else st.accumulators
    if freshRecord t now record then
      { st with
        accumulators := accumulators.modify slot (Accumulator.addFresh path record)
        freshDemand := satAdd st.freshDemand record.demandBps
        distinctFreshPaths := st.distinctFreshPaths + 1 }
    else
      { st with
        accumulators := accumulators.modify slot (Accumulator.addStale record)
        staleDemand := satAdd st.staleDemand record.demandBps }

def trafficOf (records : List TrafficRecord) (path : PathId) : List TrafficRecord :=
  (records.drop (lowerBound TrafficRecord.path path records)).takeWhile (fun r ↦ r.path = path)

namespace Scene

def attribution (scene : Scene) (component : List ℕ) : Attribution :=
  match scene.evidence.paths, scene.evidence.traffic with
  | some paths, some traffic =>
    (component.flatMap (fun index ↦ paths.pathsThrough (scene.resourceId index))).foldl
      (fun st pathIndex ↦
        let path := (paths.paths.getD pathIndex {}).id
        (trafficOf traffic.records path).foldl (attributeRecord scene.thresholds scene.now path) st) {}
  | _, _ => {}

end Scene

namespace Attribution

def confidencePpm (a : Attribution) : UInt32 :=
  let total := satAdd a.freshDemand a.staleDemand
  if a.incomplete then 0 else if total = 0 then 0 else (ratioPpm a.freshDemand total).getD 0

def ranked (a : Attribution) : List Accumulator :=
  sortBy (fun c : Accumulator ↦
    (toLex (OrderDual.toDual c.freshBps.toNat, toLex (c.flow, c.path)) : ℕᵒᵈ ×ₗ FlowId ×ₗ PathId))
    a.accumulators

def positive (a : Attribution) : List Accumulator := a.ranked.filter (fun c ↦ c.freshBps ≠ 0)

def contributor (a : Attribution) (c : Accumulator) : Contributor :=
  { flow := c.flow
    path := c.path
    demandBps := c.freshBps
    sharePpm := (ratioPpm c.freshBps a.freshDemand).getD 0
    fresh := true
    observedAt := c.observedAt }

def contributors (a : Attribution) : List Contributor :=
  sortBy (fun c : Contributor ↦
    (toLex (OrderDual.toDual c.sharePpm.toNat, toLex (c.flow, c.path)) : ℕᵒᵈ ×ₗ FlowId ×ₗ PathId))
    ((a.positive.take Limits.kMaxContributors).map a.contributor)

def topSharePpm (a : Attribution) : UInt32 := (a.contributors.head?.map Contributor.sharePpm).getD 0

end Attribution

namespace Scene

def usable (scene : Scene) (a : Attribution) : Bool :=
  scene.evidence.paths.isSome && scene.evidence.traffic.isSome && !a.incomplete &&
    a.confidencePpm ≥ scene.thresholds.minAttributionConfidencePpm

def allAdmissibleSaturated (scene : Scene) : Bool :=
  scene.tally.admissibleCount ≠ 0 && scene.tally.saturatedCount = scene.tally.admissibleCount

def classify (scene : Scene) (sharePpm : UInt32) (regionCount healthyCount : ℕ) : CongestionScope :=
  if sharePpm ≥ scene.thresholds.globalSharePpm then .global
  else if regionCount > scene.thresholds.maxRegionalRegions.toNat then .global
  else if scene.allAdmissibleSaturated then .global
  else if regionCount > scene.thresholds.maxLocalRegions.toNat then .regional
  else if healthyCount = 0 then .unknown
  else .localized

def pressureCause (scene : Scene) (component : List ℕ) : SaturationCause :=
  if (scene.peak Cell.utilizationPpm component).toUInt64 ≥ kPpmScale then .capacityExhaustion
  else if scene.peak Cell.queuePpm component ≥ scene.thresholds.queuePressurePpm then .queueBuildup
  else if scene.peak Cell.bufferPpm component ≥ scene.thresholds.bufferPressurePpm then .bufferExhaustion
  else .unknown

def causeOf (scene : Scene) (component : List ℕ) (a : Attribution) : SaturationCause :=
  if scene.usable a ∧ a.contributors ≠ [] ∧ a.topSharePpm ≥ scene.thresholds.dominantContributorPpm then
    .fanInContention
  else if scene.usable a ∧ a.distinctFreshPaths ≥ 8 ∧
      scene.pressureCause component = .capacityExhaustion then .structuralConvergence
  else scene.pressureCause component

def persistentOf (scene : Scene) (persistenceMs : Millis) (sampleCount : UInt32) : Bool :=
  scene.input.tracker.isSome && sampleCount ≥ scene.thresholds.minPersistenceSamples &&
    persistenceMs ≥ millis scene.thresholds.persistenceWindowMs

def raised : Severity → Severity
  | .none => .low
  | .low => .moderate
  | .moderate => .high
  | .high => .critical
  | .critical => .critical

def severityOf (scene : Scene) (peakPressurePpm : UInt32) (persistent : Bool) (persistenceMs : Millis) :
    Severity :=
  let severity := scene.input.bands.classify peakPressurePpm
  if persistent ∧ persistenceMs ≥ millis scene.thresholds.persistenceWindowMs * 4 then raised severity
  else severity

def remediationOf (scene : Scene) (persistent : Bool) (scope : CongestionScope) (sharePpm : UInt32) :
    RemediationState × String :=
  if !scene.input.policyLive then (.suppressed, "no live policy: mitigation is not authorised")
  else if !persistent then
    (.notApplicable, "persistence window not met: reported as a candidate only")
  else if scope = .unknown then
    (.suppressed, "scope is unknown: localized mitigation is not authorised")
  else if scope = .global then
    (.suppressed, "locality has broken: escalation, not local mitigation, is required")
  else if scope = .regional ∧ sharePpm > scene.input.budget.maxScopeSharePpm then
    (.suppressed, "regional scope exceeds the per-intent mitigation budget")
  else (.eligible, "")

def canonical (scene : Scene) (scope : CongestionScope) (cause : SaturationCause) (count : ℕ)
    (resources : List ResourceId) : String :=
  "hg1|" ++ generationBinding scene.binding ++ "|s" ++ toString scope.code ++ "|c" ++
    toString cause.code ++ "|n" ++ toString count ++ "|" ++
    String.join ((resources.take 32).map (fun id ↦ hex64 id.value ++ ",")) ++ "|m" ++
    hex64 ((resources.getLast?.map StrongId.value).getD 0)

def hotspotOf (scene : Scene) (component : List ℕ) : Hotspot :=
  let saturatedResources := (component.take Limits.kMaxHotspotResources).map scene.resourceId
  let capacityUnits := scene.componentCapacity component
  let sharePpm := (ratioPpm capacityUnits scene.tally.fabricCapacity).getD 0
  let span := scene.span component
  let persistenceMs := elapsedMs span.1 scene.now
  let healthy := scene.healthy component
  let regions := scene.regions component
  let attribution := scene.attribution component
  let scope := scene.classify sharePpm regions.length healthy.length
  let cause := scene.causeOf component attribution
  let persistent := scene.persistentOf persistenceMs span.2
  let peakPressurePpm := scene.peak Cell.pressurePpm component
  let remediation := scene.remediationOf persistent scope sharePpm
  let id : HotspotId :=
    ⟨identityFromBytes (scene.canonical scope cause component.length saturatedResources)⟩
  { id, scope, cause, saturatedResources, regions, sharePpm, persistenceMs, persistent, peakPressurePpm
    key := "hs-" ++ StrongId.hex id
    severity := scene.severityOf peakPressurePpm persistent persistenceMs
    saturatedCount := component.length
    saturatedTruncated := component.length > Limits.kMaxHotspotResources
    healthyNeighbors := healthy.take Limits.kMaxHotspotResources
    healthyNeighborCount := healthy.length
    healthyNeighborsTruncated := healthy.length > Limits.kMaxHotspotResources
    contributors := attribution.contributors
    contributorCount := attribution.positive.length
    contributorsTruncated := attribution.positive.length > Limits.kMaxContributors
    saturatedCapacityUnits := capacityUnits
    peakUtilizationPpm := scene.peak Cell.utilizationPpm component
    peakQueuePpm := scene.peak Cell.queuePpm component
    peakBufferPpm := scene.peak Cell.bufferPpm component
    attributionConfidencePpm := attribution.confidencePpm
    attributedDemandBps := attribution.freshDemand
    unattributedDemandBps := attribution.staleDemand
    sampleCount := span.2
    firstObserved := span.1
    lastObserved := scene.now
    remediation := remediation.1
    suppressionReason := remediation.2
    binding := scene.binding }

def attributionGrant (scene : Scene) (a : Attribution) : AuthorityGrant :=
  if scene.usable a then
    ⟨.attribution, true, "fresh contributor evidence", "share=" ++ toString a.topSharePpm.toNat⟩
  else
    ⟨.attribution, false,
      if a.incomplete then "contributor population exceeded the bound"
      else "contributor evidence missing, stale or below the confidence floor", ""⟩

def persistenceGrant (hotspot : Hotspot) : AuthorityGrant :=
  ⟨.persistence, hotspot.persistent,
    if hotspot.persistent then "persistence window met" else "persistence window not met",
    "ms=" ++ toString hotspot.persistenceMs.toInt ++ " samples=" ++ toString hotspot.sampleCount.toNat⟩

end Scene

structure Collection where
  hotspots : List Hotspot := []
  candidates : List Hotspot := []
  authority : AuthorityVector
  history : List (ResourceId × Entry) := []
  truncated : ℕ := 0

def report (reported : List Hotspot) (hotspot : Hotspot) : List Hotspot :=
  if reported.length < Limits.kMaxHotspots then reported ++ [hotspot] else reported

def dropped (reported : List Hotspot) : ℕ := if reported.length < Limits.kMaxHotspots then 0 else 1

def collect (scene : Scene) (st : Collection) (component : List ℕ) : Collection :=
  let hotspot := scene.hotspotOf component
  let authority := (st.authority.push (scene.attributionGrant (scene.attribution component))).push
    (Scene.persistenceGrant hotspot)
  let history := st.history ++ scene.history component
  if hotspot.persistent then
    { st with
      authority, history
      hotspots := report st.hotspots hotspot
      truncated := st.truncated + dropped st.hotspots }
  else
    { st with
      authority, history
      candidates := report st.candidates hotspot
      truncated := st.truncated + dropped st.candidates }

end HotspotGovernor.Hotspots
