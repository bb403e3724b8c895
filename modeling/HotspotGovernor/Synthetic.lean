import HotspotGovernor.Canonical
import HotspotGovernor.PathIndex
import HotspotGovernor.Unknown

namespace HotspotGovernor.Synthetic

open Foundation ByteIo Lib Topology TopologyIndex Evidence Detection SortedList

def resourceName (region index : ℕ) : String := "res-" ++ toString region ++ "-" ++ toString index

def resourceId (region index : ℕ) : ResourceId := ⟨identityFromBytes (resourceName region index)⟩

def regionName (index : ℕ) : String := "region-" ++ toString index

def regionId (index : ℕ) : RegionId := ⟨identityFromBytes (regionName index)⟩

def linkId (a b : ResourceId) : LinkId :=
  let lo := if a < b then a else b
  let hi := if a < b then b else a
  ⟨identityFromBytes ("link-" ++ hex64 lo.value ++ "-" ++ hex64 hi.value)⟩

def streamName : StreamKind → String
  | .unknown => "unknown"
  | .topology => "topology"
  | .capacity => "capacity"
  | .signals => "signals"
  | .paths => "paths"
  | .traffic => "traffic"
  | .policy => "policy"

structure SyntheticConfig where
  regionCount : UInt32 := 4
  resourcesPerRegion : UInt32 := 8
  hotspotCount : UInt32 := 1
  hotspotIndexBase : UInt32 := 1
  pathFanIn : UInt32 := 4
  pathResourceDensityPpm : UInt32 := 250000
  evidenceDensityPpm : UInt32 := 1000000
  saturatedUtilizationPpm : UInt32 := 980000
  healthyUtilizationPpm : UInt32 := 200000
  saturatedQueuePpm : UInt32 := 900000
  healthyQueuePpm : UInt32 := 50000
  confidencePpm : UInt32 := 900000
  quality : TelemetryQuality := .healthy
  globalCongestion : Bool := false
  contradictorySample : Bool := false
  staleEvidence : Bool := false
  evidenceAgeMs : UInt32 := 0
  trafficAgeMs : UInt32 := 0
  capacityUnits : UInt64 := 1000
  queueLimitUnits : UInt64 := 100
  bufferLimitBytes : UInt64 := 1000000
  saturatedDemandBps : UInt64 := 900000
  healthyDemandBps : UInt64 := 1000
  policyTtlMs : UInt32 := 60000

namespace SyntheticConfig

def clamped (config : SyntheticConfig) : SyntheticConfig :=
  { config with
    regionCount := if config.regionCount = 0 then 1 else config.regionCount
    resourcesPerRegion := if config.resourcesPerRegion = 0 then 1 else config.resourcesPerRegion
    pathFanIn := if config.pathFanIn = 0 then 1 else config.pathFanIn }

variable (config : SyntheticConfig)

def places : List (ℕ × ℕ) := (List.range config.regionCount.toNat).flatMap fun region ↦
  (List.range config.resourcesPerRegion.toNat).map fun index ↦ (region, index)

def allResources : List ResourceId := config.places.map fun place ↦ resourceId place.1 place.2

/-- The consecutive resources of a region are joined, and the first ones of consecutive regions. -/
def adjacencies : List (ResourceId × ResourceId) :=
  (config.places.filterMap fun place ↦
    let next := (place.2 + 1) % config.resourcesPerRegion.toNat
    if place.2 ≥ next then none else some (resourceId place.1 place.2, resourceId place.1 next)) ++
  (List.range (config.regionCount.toNat - 1)).map fun region ↦ (resourceId region 0, resourceId (region + 1) 0)

def designate (saturated : List ResourceId) (hotspot : ℕ) : List ResourceId :=
  let perRegion := if config.resourcesPerRegion > 1 then config.resourcesPerRegion - 1 else 1
  let region := UInt32.ofNat hotspot % config.regionCount
  let slot := UInt32.ofNat hotspot / config.regionCount
  let index := config.hotspotIndexBase + (slot * 2) % perRegion
  if index ≥ config.resourcesPerRegion then saturated
  else
    let id := resourceId region.toNat index.toNat
    if saturated.contains id then saturated else saturated ++ [id]

def saturated : List ResourceId :=
  sortBy id (if config.globalCongestion then config.allResources
    else (List.range config.hotspotCount.toNat).foldl config.designate [])

def provenance (stream : StreamKind) (now : Millis) (generation : UInt64) : Provenance :=
  { publisher := ⟨identityFromBytes ("synthetic-" ++ streamName stream)⟩
    incarnation := ⟨1⟩
    boot := ⟨1⟩
    epoch := ⟨1⟩
    sequence := 1
    generation := ⟨stream, generation⟩
    emittedAt := now }

def enterRegion (s : TopologySnapshot) (region : ℕ) : TopologySnapshot :=
  s.addRegion (regionId region) (textBytes (regionName region)) default

def enterResource (s : TopologySnapshot) (place : ℕ × ℕ) : TopologySnapshot :=
  s.addResource (resourceId place.1 place.2) (regionId place.1) (if place.2 = 0 then .switch else .port)
    (textBytes (resourceName place.1 place.2))

def enterLink (s : TopologySnapshot) (ends : ResourceId × ResourceId) : TopologySnapshot :=
  s.addLink (linkId ends.1 ends.2) ends.1 ends.2

def announceTopology (now : Millis) (generation : UInt64) : TopologySnapshot :=
  let s := config.adjacencies.foldl enterLink (config.places.foldl enterResource
    ((List.range config.regionCount.toNat).foldl enterRegion default))
  ((s.setGeneration ⟨generation⟩).setProvenance (provenance .topology now generation)).setValidity
    (now - 1000) (now + 60000)

def enterCapacity (s : CapacitySnapshot) (id : ResourceId) : CapacitySnapshot :=
  s.add
    { resource := id
      capacityUnits := config.capacityUnits
      queueLimitUnits := config.queueLimitUnits
      bufferLimitBytes := config.bufferLimitBytes
      usable := true }

def announceCapacity (now : Millis) (generation : UInt64) : CapacitySnapshot :=
  { config.allResources.foldl config.enterCapacity default with
    generation := ⟨generation⟩
    topologyGeneration := ⟨generation⟩
    provenance := provenance .capacity now generation
    observedAt := now }

def observedAt (now : Millis) : Millis :=
  if config.staleEvidence then now - millis config.evidenceAgeMs - 600000 else now - millis config.evidenceAgeMs

def signalOf (now : Millis) (id : ResourceId) : ResourceSignals :=
  let isSaturated := config.saturated.contains id
  let contradictory := config.contradictorySample && isSaturated
  let offered := if isSaturated then config.saturatedDemandBps else config.healthyDemandBps
  let utilization := if isSaturated then config.saturatedUtilizationPpm else config.healthyUtilizationPpm
  let queue := if isSaturated then config.saturatedQueuePpm else config.healthyQueuePpm
  { resource := id
    utilizedUnits := if contradictory then config.capacityUnits / 10
      else utilization.toUInt64 * config.capacityUnits / kPpmScale
    queueDepthUnits := queue.toUInt64 * config.queueLimitUnits / kPpmScale
    bufferUsedBytes := 0
    offeredBps := if contradictory then 0 else offered
    admittedBps := if contradictory then 0 else offered
    dropUnits := if isSaturated then 1 else 0
    confidencePpm := config.confidencePpm
    quality := config.quality
    observedAt := config.observedAt now }

def enterSignal (now : Millis) (s : SignalSnapshot) (id : ResourceId) : SignalSnapshot :=
  if identityFromBytes (hex64 id.value) % kPpmScale ≥ config.evidenceDensityPpm.toUInt64 then s
  else s.add (config.signalOf now id)

def announceSignals (now : Millis) (generation : UInt64) : SignalSnapshot :=
  { config.allResources.foldl (config.enterSignal now) default with
    generation := ⟨generation⟩
    topologyGeneration := ⟨generation⟩
    capacityGeneration := ⟨generation⟩
    provenance := provenance .signals now generation
    windowStart := now - 1000
    windowEnd := config.observedAt now }

structure Routing where
  paths : PathSnapshot := default
  demands : List (PathId × UInt64) := []

def routeOver (topology : TopologySnapshot) (id : ResourceId) (r : Routing) (k : ℕ) : Routing :=
  let pathId : PathId := ⟨identityFromBytes ("path-" ++ hex64 id.value ++ "-" ++ toString k)⟩
  let flowId : FlowId := ⟨identityFromBytes ("flow-" ++ hex64 id.value ++ "-" ++ toString k)⟩
  let neighbours := topology.neighbors id
  let demand := (if config.saturated.contains id then config.saturatedDemandBps else config.healthyDemandBps) /
    config.pathFanIn.toUInt64
  { paths := r.paths.add
      { id := pathId
        flow := flowId
        hops := id :: (neighbours[k % neighbours.length]?).toList }
    demands := r.demands ++ [(pathId, if demand = 0 then 1 else demand)] }

/-- Some of the resources get their paths, as long as all of them fit. -/
def routeAll (topology : TopologySnapshot) : List ResourceId → Routing → Routing
  | [], r => r
  | id :: ids, r =>
    if r.paths.paths.length + config.pathFanIn.toNat > Limits.kMaxPaths then r
    else if identityFromBytes ("p" ++ hex64 id.value) % kPpmScale ≥ config.pathResourceDensityPpm.toUInt64 then
      routeAll topology ids r
    else routeAll topology ids ((List.range config.pathFanIn.toNat).foldl (config.routeOver topology id) r)

def announcePaths (now : Millis) (generation : UInt64) (paths : PathSnapshot) : PathSnapshot :=
  { paths with
    generation := ⟨generation⟩
    topologyGeneration := ⟨generation⟩
    provenance := provenance .paths now generation
    observedAt := now }

def findPath (paths : PathSnapshot) (id : PathId) : Option PathRecord :=
  if !paths.built || !id.valid then none else SortedList.find PathRecord.id id paths.paths

def announceTraffic (now : Millis) (generation : UInt64) (paths : PathSnapshot) (demands : List (PathId × UInt64)) :
    TrafficSnapshot :=
  { demands.foldl (fun s entry ↦ s.add
      { flow := ((findPath paths entry.1).map PathRecord.flow).getD default
        path := entry.1
        demandBps := entry.2
        quality := .healthy
        observedAt := now - millis config.trafficAgeMs }) (default : TrafficSnapshot) with
    generation := ⟨generation⟩
    pathGeneration := ⟨generation⟩
    provenance := provenance .traffic now generation }

end SyntheticConfig

structure SyntheticFabric where
  topology : TopologySnapshot
  capacity : CapacitySnapshot
  signals : SignalSnapshot
  paths : PathSnapshot
  traffic : TrafficSnapshot
  buildStatus : Status

def settle {α : Type} (build : α → Result α) (s : α) (status : Status) : α × Status :=
  match status with
  | .error e => (s, .error e)
  | .ok () =>
    match build s with
    | .error e => (s, .error e)
    | .ok built => (built, .ok ())

section Stages

variable (config : SyntheticConfig) (now : Millis) (generation : UInt64)

def topologyStage : TopologySnapshot × Status :=
  settle TopologySnapshot.build (config.announceTopology now generation) (.ok ())

def capacityStage : CapacitySnapshot × Status :=
  settle CapacitySnapshot.build (config.announceCapacity now generation) (topologyStage config now generation).2

def signalStage : SignalSnapshot × Status :=
  settle SignalSnapshot.build (config.announceSignals now generation) (capacityStage config now generation).2

def routing : SyntheticConfig.Routing :=
  config.routeAll (topologyStage config now generation).1 config.allResources {}

def pathStage : PathSnapshot × Status :=
  settle PathSnapshot.build (SyntheticConfig.announcePaths now generation (routing config now generation).paths)
    (signalStage config now generation).2

def trafficStage : TrafficSnapshot × Status :=
  settle TrafficSnapshot.build (config.announceTraffic now generation (pathStage config now generation).1
    (routing config now generation).demands) (pathStage config now generation).2

end Stages

def rebuild (config : SyntheticConfig) (now : Millis) (generation : UInt64) : SyntheticFabric :=
  let config := config.clamped
  { topology := (topologyStage config now generation).1
    capacity := (capacityStage config now generation).1
    signals := (signalStage config now generation).1
    paths := (pathStage config now generation).1
    traffic := (trafficStage config now generation).1
    buildStatus := (trafficStage config now generation).2 }

def policy (config : SyntheticConfig) (rebuiltAt : Millis) (generation : UInt64) (now : Millis) : PolicySnapshot :=
  { id := ⟨identityFromBytes "synthetic-policy"⟩
    generation := ⟨generation⟩
    issuedAt := now - 100
    ttlMs := config.policyTtlMs
    provenance := SyntheticConfig.provenance .policy rebuiltAt generation }

variable {config : SyntheticConfig} {now now' : Millis} {generation generation' : UInt64}

theorem settle_built {α : Type} (build : α → Result α) (built : α → Bool) (s : α) (status : Status)
    (hs : built s = false) (h : built (settle build s status).1 = true) :
    build s = .ok (settle build s status).1 := by
  have hfailed : ¬ built s = true := by simp [hs]
  unfold settle at h ⊢
  split at h
  · exact absurd h hfailed
  · split at h
    · exact absurd h hfailed
    · next t ht =>
      rw [ht]

open SyntheticConfig RoundTrip

-- what is proved here holds for any places, and unification must not start to list them
attribute [local irreducible] SyntheticConfig.clamped SyntheticConfig.places SyntheticConfig.adjacencies

theorem announceTopology_resources : (config.announceTopology now generation).tables.resources.map Resource.id =
    config.allResources := by
  have hlinks := foldl_kept enterLink (fun s ↦ s.tables.resources.map Resource.id) (fun _ _ ↦ rfl)
    config.adjacencies
  have hplaces := foldl_appended enterResource (fun s ↦ s.tables.resources.map Resource.id)
    (fun place ↦ resourceId place.1 place.2) (fun _ _ ↦ List.map_append) config.places
  have hregions := foldl_kept enterRegion (fun s ↦ s.tables.resources.map Resource.id) (fun _ _ ↦ rfl)
    (List.range config.regionCount.toNat) default
  exact (hlinks _).trans ((hplaces _).trans (congrArg (· ++ _) hregions))

theorem announceCapacity_resources : (config.announceCapacity now generation).entries.map ResourceCapacity.resource =
    config.allResources := by
  have hentries := foldl_appended config.enterCapacity
    (fun s ↦ s.entries.map ResourceCapacity.resource) (fun id ↦ id)
    (fun _ _ ↦ List.map_append) config.allResources default
  exact hentries.trans (List.map_id _)

theorem announceSignals_resources : ∀ record ∈ (config.announceSignals now generation).records,
    record.resource ∈ config.allResources := by
  refine List.foldlRecOn config.allResources (config.enterSignal now)
    (motive := fun s : SignalSnapshot ↦ ∀ record ∈ s.records, record.resource ∈ config.allResources)
    (fun record hrecord ↦ absurd hrecord List.not_mem_nil) ?_
  intro s hs id hid record hrecord
  unfold enterSignal at hrecord
  split at hrecord
  · exact hs record hrecord
  · rcases List.mem_append.mp hrecord with hrecord | hrecord
    · exact hs record hrecord
    · rw [List.mem_singleton.mp hrecord]
      exact hid

/-- Every hop is a resource of the fabric or a neighbour of one. -/
def Routed (config : SyntheticConfig) (topology : TopologySnapshot) (hop : ResourceId) : Prop :=
  hop ∈ config.allResources ∨ ∃ id, hop ∈ topology.neighbors id

theorem routeOver_routed {topology : TopologySnapshot} {id : ResourceId} (hid : id ∈ config.allResources)
    {r : Routing} (h : ∀ path ∈ r.paths.paths, ∀ hop ∈ path.hops, Routed config topology hop) (k : ℕ) :
    ∀ path ∈ (config.routeOver topology id r k).paths.paths, ∀ hop ∈ path.hops, Routed config topology hop := by
  intro path hpath hop hhop
  rcases List.mem_append.mp hpath with hpath | hpath
  · exact h path hpath hop hhop
  · rw [List.mem_singleton.mp hpath] at hhop
    rcases List.mem_cons.mp hhop with rfl | hhop
    · exact Or.inl hid
    · exact Or.inr ⟨id, List.mem_of_getElem? (Option.mem_toList.mp hhop)⟩

theorem routeAll_routed {topology : TopologySnapshot} {ids : List ResourceId} (hids : ids ⊆ config.allResources)
    {r : Routing} (h : ∀ path ∈ r.paths.paths, ∀ hop ∈ path.hops, Routed config topology hop) :
    ∀ path ∈ (config.routeAll topology ids r).paths.paths, ∀ hop ∈ path.hops, Routed config topology hop := by
  induction ids generalizing r with
  | nil => exact h
  | cons id ids ih =>
    obtain ⟨hid, hrest⟩ := List.cons_subset.mp hids
    unfold routeAll
    split_ifs
    · exact h
    · exact ih hrest h
    · exact ih hrest (List.foldlRecOn _ _
        (motive := fun r : Routing ↦ ∀ path ∈ r.paths.paths, ∀ hop ∈ path.hops, Routed config topology hop) h
        fun r hr k _ ↦ routeOver_routed hid hr k)

theorem foldl_unbuilt {α β : Type} (built : β → Bool) (step : β → α → β)
    (hstep : ∀ s a, built s = false → built (step s a) = false) (xs : List α) {s : β} (hs : built s = false) :
    built (xs.foldl step s) = false := by
  induction xs generalizing s with
  | nil => exact hs
  | cons a xs ih => exact ih (hstep s a hs)

section Unbuilt

variable (config : SyntheticConfig) (now : Millis) (generation : UInt64)

theorem announceTopology_unbuilt : (config.announceTopology now generation).built = false := by
  unfold announceTopology
  have hregions := foldl_unbuilt TopologySnapshot.built enterRegion (fun _ _ _ ↦ rfl)
    (List.range config.regionCount.toNat) (s := default) rfl
  have hplaces := foldl_unbuilt TopologySnapshot.built enterResource (fun _ _ _ ↦ rfl) config.places hregions
  exact foldl_unbuilt TopologySnapshot.built enterLink (fun _ _ _ ↦ rfl) config.adjacencies hplaces

theorem announceCapacity_unbuilt : (config.announceCapacity now generation).built = false :=
  foldl_unbuilt CapacitySnapshot.built config.enterCapacity (fun _ _ _ ↦ rfl) config.allResources (s := default) rfl

theorem announceSignals_unbuilt : (config.announceSignals now generation).built = false := by
  refine foldl_unbuilt SignalSnapshot.built (config.enterSignal now) (fun s id hs ↦ ?_) config.allResources
    (s := default) rfl
  unfold enterSignal
  split
  · exact hs
  · rfl

theorem routeAll_unbuilt (topology : TopologySnapshot) {ids : List ResourceId} {r : Routing}
    (h : r.paths.built = false) : (config.routeAll topology ids r).paths.built = false := by
  induction ids generalizing r with
  | nil => exact h
  | cons id ids ih =>
    unfold routeAll
    split_ifs
    · exact h
    · exact ih h
    · exact ih (foldl_unbuilt (fun r : Routing ↦ r.paths.built) (config.routeOver topology id)
      (fun _ _ _ ↦ rfl) _ h)

theorem announceTraffic_unbuilt (paths : PathSnapshot) (demands : List (PathId × UInt64)) :
    (config.announceTraffic now generation paths demands).built = false := by
  unfold announceTraffic
  exact foldl_unbuilt TrafficSnapshot.built _ (fun _ _ _ ↦ rfl) demands (s := default) rfl

end Unbuilt

theorem built_topology (h : (rebuild config now generation).topology.built = true) :
    (config.clamped.announceTopology now generation).build = .ok (rebuild config now generation).topology := by
  unfold rebuild topologyStage at h ⊢
  exact settle_built _ TopologySnapshot.built _ _ (announceTopology_unbuilt _ now generation) h

theorem built_capacity (h : (rebuild config now generation).capacity.built = true) :
    (config.clamped.announceCapacity now generation).build = .ok (rebuild config now generation).capacity := by
  unfold rebuild capacityStage at h ⊢
  exact settle_built _ CapacitySnapshot.built _ _ (announceCapacity_unbuilt _ now generation) h

theorem built_signals (h : (rebuild config now generation).signals.built = true) :
    (config.clamped.announceSignals now generation).build = .ok (rebuild config now generation).signals := by
  unfold rebuild signalStage at h ⊢
  exact settle_built _ SignalSnapshot.built _ _ (announceSignals_unbuilt _ now generation) h

theorem built_paths (h : (rebuild config now generation).paths.built = true) :
    (announcePaths now generation (routing config.clamped now generation).paths).build =
      .ok (rebuild config now generation).paths := by
  unfold rebuild pathStage at h ⊢
  exact settle_built _ PathSnapshot.built _ _ (routeAll_unbuilt _ _ rfl) h

theorem built_traffic (h : (rebuild config now generation).traffic.built = true) :
    ∃ source : TrafficSnapshot, source.build = .ok (rebuild config now generation).traffic := by
  unfold rebuild trafficStage at h ⊢
  exact ⟨_, settle_built _ TrafficSnapshot.built _ _ (announceTraffic_unbuilt _ now generation _ _) h⟩

theorem resources_of_build {source s : TopologySnapshot} (h : source.build = .ok s) :
    s.resources.Perm source.tables.resources := by
  obtain ⟨tables, htables, rfl⟩ := TopologySnapshot.build_iff.mp h
  obtain ⟨degree, -, rfl⟩ := Validation.buildTables_eq htables
  exact sortBy_perm _

theorem entries_of_build {source s : CapacitySnapshot} (h : source.build = .ok s) : s.entries.Perm source.entries := by
  obtain ⟨entries, hentries, rfl⟩ := CapacitySnapshot.build_iff.mp h
  obtain ⟨-, rfl, -⟩ := sortChecked_ok hentries
  exact sortBy_perm _

theorem records_of_build {source s : SignalSnapshot} (h : source.build = .ok s) : s.records.Perm source.records := by
  obtain ⟨records, hrecords, rfl⟩ := SignalSnapshot.build_iff.mp h
  obtain ⟨-, rfl, -⟩ := sortChecked_ok hrecords
  exact sortBy_perm _

theorem defines_all (h : (rebuild config now generation).topology.built = true) {id : ResourceId}
    (hid : id ∈ config.clamped.allResources) :
    ∃ r ∈ (rebuild config now generation).topology.resources, r.id = id := by
  rw [← @announceTopology_resources _ now generation] at hid
  exact List.mem_map.mp (((resources_of_build (built_topology h)).map Resource.id).mem_iff.mpr hid)

theorem capacity_resolves (h : (rebuild config now generation).topology.built = true)
    (hc : (rebuild config now' generation').capacity.built = true) :
    capacityResolves (rebuild config now generation).topology (rebuild config now' generation').capacity = true := by
  refine Unknown.referencesResolve_of_mem (built_validated h).resourcesStrict
    (List.pairwise_map.mpr (CapacitySnapshot.strict hc)) fun id hid ↦ ?_
  refine defines_all h ?_
  rw [← @announceCapacity_resources _ now' generation']
  exact ((entries_of_build (built_capacity hc)).map ResourceCapacity.resource).mem_iff.mp hid

theorem signals_resolve (h : (rebuild config now generation).topology.built = true)
    (hs : (rebuild config now' generation').signals.built = true) :
    signalsResolve (rebuild config now generation).topology (rebuild config now' generation').signals = true := by
  refine Unknown.referencesResolve_of_mem (built_validated h).resourcesStrict
    (List.pairwise_map.mpr (SignalSnapshot.strict hs)) fun id hid ↦ ?_
  obtain ⟨record, hrecord, rfl⟩ := List.mem_map.mp hid
  exact defines_all h (announceSignals_resources record ((records_of_build (built_signals hs)).mem_iff.mp hrecord))

theorem paths_resolve (h : (rebuild config now generation).topology.built = true)
    (hp : (rebuild config now generation).paths.built = true) :
    pathsResolve (rebuild config now generation).topology (rebuild config now generation).paths = true := by
  unfold pathsResolve
  refine List.all_eq_true.mpr fun path hpath ↦ List.all_eq_true.mpr fun hop hhop ↦ ?_
  rw [hasResource_iff h]
  have hbuild := built_paths hp
  have hrouted := @routeAll_routed config.clamped (rebuild config now generation).topology _
    (List.Subset.refl config.clamped.allResources) {} (fun path hpath ↦ absurd hpath List.not_mem_nil)
  obtain ⟨-, hperm⟩ := PathIndex.built_of_build hbuild
  rcases hrouted path (hperm.mem_iff.mp hpath) hop hhop with hown | ⟨id, hneighbor⟩
  · exact defines_all h hown
  · exact known_of_adjacent h ((mem_neighbors h).mp hneighbor).symm

end HotspotGovernor.Synthetic
