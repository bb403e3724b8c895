import HotspotGovernor.TopologyIndex

namespace HotspotGovernor.Evidence

open Foundation ByteIo Lib Topology SortedList

/-- Quality of the telemetry behind a record. The wire carries any byte. -/
inductive TelemetryQuality
  | unknown | missing | suspect | degraded | healthy
  | unnamed (code : UInt8) (h : 4 < code)
  deriving DecidableEq

def TelemetryQuality.code : TelemetryQuality → UInt8
  | .unknown => 0
  | .missing => 1
  | .suspect => 2
  | .degraded => 3
  | .healthy => 4
  | .unnamed code _ => code

def TelemetryQuality.ofCode (code : UInt8) : TelemetryQuality :=
  if h : 4 < code then .unnamed code h
  else if code = 1 then .missing
  else if code = 2 then .suspect
  else if code = 3 then .degraded
  else if code = 4 then .healthy
  else .unknown

/-- The common part of every build: bound the count, sort by key, check the sorted list. -/
def sortChecked {α κ : Type} [LinearOrder κ] (key : α → κ) (limit : ℕ) (overflow : String)
    (check : Option α → α → Status) (entries : List α) : Result (List α) :=
  if entries.length > limit then Status.failure .boundExceeded overflow
  else do
    let sorted := sortBy key entries
    checkAll check none sorted
    return sorted

theorem sortChecked_ok {α κ : Type} [LinearOrder κ] {key : α → κ} {limit : ℕ} {overflow : String}
    {check : Option α → α → Status} {source entries : List α}
    (h : sortChecked key limit overflow check source = .ok entries) :
    source.length ≤ limit ∧ entries = sortBy key source ∧ checkAll check none entries = .ok () := by
  unfold sortChecked at h
  split at h
  · cases h
  · next hlen =>
    obtain ⟨_, hc, h⟩ := TopologyIndex.bind_eq_ok h
    obtain rfl := Except.ok.inj h
    exact ⟨not_lt.mp hlen, rfl, hc⟩

theorem sortChecked_strict {α κ : Type} [LinearOrder κ] {key : α → κ} {limit : ℕ} {overflow : String}
    {check : Option α → α → Status} {source entries : List α}
    (hcheck : ∀ p x, check (some p) x = .ok () → key p ≠ key x)
    (h : sortChecked key limit overflow check source = .ok entries) : Strict key entries := by
  obtain ⟨-, rfl, hc⟩ := sortChecked_ok h
  exact TopologyIndex.checkAll_strict hcheck (sortBy_pairwise _) hc

structure ResourceCapacity where
  resource : ResourceId := default
  capacityUnits : UInt64 := 0
  queueLimitUnits : UInt64 := 0
  bufferLimitBytes : UInt64 := 0
  usable : Bool := true
  deriving DecidableEq

def checkCapacity (prev : Option ResourceCapacity) (entry : ResourceCapacity) : Status :=
  if !entry.resource.valid then Status.failure .invalidArgument "capacity names resource id 0"
  else if prev.any (fun p ↦ entry.resource = p.resource) then
    Status.failure .invalidArgument ("duplicate capacity entry for " ++ StrongId.hex entry.resource)
  else if entry.capacityUnits = 0 ∧ entry.usable then
    Status.failure .invalidArgument
      ("usable capacity must be positive for " ++ StrongId.hex entry.resource)
  else .ok ()

def buildCapacity (entries : List ResourceCapacity) : Result (List ResourceCapacity) :=
  sortChecked ResourceCapacity.resource Limits.kMaxCapacityEntries "capacity entry count exceeds limit"
    checkCapacity entries

def ResourceCapacity.encode (entry : ResourceCapacity) : Bytes :=
  putU64 entry.resource.value ++ putU64 entry.capacityUnits ++ putU64 entry.queueLimitUnits ++
  putU64 entry.bufferLimitBytes ++ putBool entry.usable

structure CapacitySnapshot where
  entries : List ResourceCapacity := []
  id : CapacityId := default
  digest : Digest := {}
  generation : CapacityGeneration := default
  topologyGeneration : TopologyGeneration := default
  provenance : Provenance := {}
  observedAt : Millis := kNoTime
  built : Bool := false
  checked : built = true → ∃ source, buildCapacity source = .ok entries := by simp

instance : Inhabited CapacitySnapshot := ⟨{}⟩

namespace CapacitySnapshot

def add (s : CapacitySnapshot) (entry : ResourceCapacity) : CapacitySnapshot :=
  { s with entries := s.entries ++ [entry], built := false, checked := by simp }

def build (s : CapacitySnapshot) : Result CapacitySnapshot :=
  match h : buildCapacity s.entries with
  | .error e => .error e
  | .ok entries =>
    let digest := digestOf (putCount entries.length ++ entries.flatMap ResourceCapacity.encode)
    .ok { s with
      entries, digest
      id := ⟨digest.fnv⟩
      built := true
      checked := fun _ ↦ ⟨_, h⟩ }

theorem build_iff {s out : CapacitySnapshot} : s.build = .ok out ↔
    ∃ entries, ∃ h : buildCapacity s.entries = .ok entries, out = { s with
      entries, digest := digestOf (putCount entries.length ++ entries.flatMap ResourceCapacity.encode)
      id := ⟨(digestOf (putCount entries.length ++ entries.flatMap ResourceCapacity.encode)).fnv⟩
      built := true
      checked := fun _ ↦ ⟨_, h⟩ } := by
  unfold CapacitySnapshot.build
  split
  · next e he =>
    refine iff_of_false (fun hok ↦ by cases hok) ?_
    rintro ⟨entries, h, -⟩
    rw [he] at h
    cases h
  · next entries h =>
    constructor
    · intro hok
      exact ⟨entries, h, (Except.ok.inj hok).symm⟩
    · rintro ⟨entries', h', rfl⟩
      obtain rfl := Except.ok.inj (h.symm.trans h')
      rfl

def find (s : CapacitySnapshot) (id : ResourceId) : Option ResourceCapacity :=
  if !s.built || !id.valid then none else SortedList.find ResourceCapacity.resource id s.entries

end CapacitySnapshot

structure ResourceSignals where
  resource : ResourceId := default
  utilizedUnits : UInt64 := 0
  queueDepthUnits : UInt64 := 0
  bufferUsedBytes : UInt64 := 0
  offeredBps : UInt64 := 0
  admittedBps : UInt64 := 0
  dropUnits : UInt64 := 0
  confidencePpm : UInt32 := 0
  quality : TelemetryQuality := .unknown
  observedAt : Millis := kNoTime
  deriving DecidableEq

def checkSignals (prev : Option ResourceSignals) (record : ResourceSignals) : Status :=
  if !record.resource.valid then Status.failure .invalidArgument "signal names resource id 0"
  else if prev.any (fun p ↦ record.resource = p.resource) then
    Status.failure .invalidArgument ("duplicate signal record for " ++ StrongId.hex record.resource)
  else if record.confidencePpm.toUInt64 > kPpmScale then
    Status.failure .outOfRange ("confidence above 1e6 for " ++ StrongId.hex record.resource)
  else if record.admittedBps > record.offeredBps ∧ record.offeredBps ≠ 0 then
    Status.failure .contradictoryEvidence
      ("admitted exceeds offered for " ++ StrongId.hex record.resource)
  else .ok ()

def buildSignals (records : List ResourceSignals) : Result (List ResourceSignals) :=
  sortChecked ResourceSignals.resource Limits.kMaxSignalRecords "signal record count exceeds limit"
    checkSignals records

def ResourceSignals.encode (record : ResourceSignals) : Bytes :=
  putU64 record.resource.value ++ putU64 record.utilizedUnits ++ putU64 record.queueDepthUnits ++
  putU64 record.bufferUsedBytes ++ putU64 record.offeredBps ++ putU64 record.admittedBps ++
  putU64 record.dropUnits ++ putU32 record.confidencePpm ++ putU8 record.quality.code ++
  putI64 record.observedAt

structure SignalSnapshot where
  records : List ResourceSignals := []
  id : EvidenceId := default
  digest : Digest := {}
  generation : EvidenceGeneration := default
  topologyGeneration : TopologyGeneration := default
  capacityGeneration : CapacityGeneration := default
  provenance : Provenance := {}
  windowStart : Millis := kNoTime
  windowEnd : Millis := kNoTime
  built : Bool := false
  checked : built = true → ∃ source, buildSignals source = .ok records := by simp

instance : Inhabited SignalSnapshot := ⟨{}⟩

namespace SignalSnapshot

def add (s : SignalSnapshot) (record : ResourceSignals) : SignalSnapshot :=
  { s with records := s.records ++ [record], built := false, checked := by simp }

def build (s : SignalSnapshot) : Result SignalSnapshot :=
  match h : buildSignals s.records with
  | .error e => .error e
  | .ok records =>
    let digest := digestOf (putCount records.length ++ records.flatMap ResourceSignals.encode)
    .ok { s with
      records, digest
      id := ⟨digest.fnv⟩
      built := true
      checked := fun _ ↦ ⟨_, h⟩ }

theorem build_iff {s out : SignalSnapshot} : s.build = .ok out ↔
    ∃ records, ∃ h : buildSignals s.records = .ok records, out = { s with
      records, digest := digestOf (putCount records.length ++ records.flatMap ResourceSignals.encode)
      id := ⟨(digestOf (putCount records.length ++ records.flatMap ResourceSignals.encode)).fnv⟩
      built := true
      checked := fun _ ↦ ⟨_, h⟩ } := by
  unfold SignalSnapshot.build
  split
  · next e he =>
    refine iff_of_false (fun hok ↦ by cases hok) ?_
    rintro ⟨records, h, -⟩
    rw [he] at h
    cases h
  · next records h =>
    constructor
    · intro hok
      exact ⟨records, h, (Except.ok.inj hok).symm⟩
    · rintro ⟨records', h', rfl⟩
      obtain rfl := Except.ok.inj (h.symm.trans h')
      rfl

def find (s : SignalSnapshot) (id : ResourceId) : Option ResourceSignals :=
  if !s.built || !id.valid then none else SortedList.find ResourceSignals.resource id s.records

end SignalSnapshot

structure PathRecord where
  id : PathId := default
  flow : FlowId := default
  hops : List ResourceId := []
  deriving DecidableEq

def checkPath (prev : Option PathRecord) (path : PathRecord) : Status :=
  if !path.id.valid then Status.failure .invalidArgument "path id 0 is reserved"
  else if prev.any (fun p ↦ path.id = p.id) then
    Status.failure .invalidArgument ("duplicate path id " ++ StrongId.hex path.id)
  else if path.hops.isEmpty then
    Status.failure .invalidArgument ("path " ++ StrongId.hex path.id ++ " has no hops")
  else if path.hops.length > Limits.kMaxHopsPerPath then
    Status.failure .boundExceeded "path hop count exceeds limit"
  else if path.hops.any (fun hop ↦ !hop.valid) then
    Status.failure .invalidArgument ("path " ++ StrongId.hex path.id ++ " names resource 0")
  else .ok ()

def uniqueHops (hops : List ResourceId) : List ResourceId := unique id (sortBy id hops)

/-- The table entries of the reverse index: one per path and distinct hop, in path order. -/
def hopEntries (listed : List ResourceId) (paths : List PathRecord) : List (ℕ × ℕ) :=
  paths.zipIdx.flatMap (fun p ↦
    (uniqueHops p.1.hops).map (fun hop ↦ (lowerBound id hop listed, p.2)))

/-- The sorted paths and the reverse index from a resource to the paths through it. -/
structure PathTables where
  paths : List PathRecord := []
  throughOffsets : List ℕ := []
  throughResources : List ResourceId := []
  throughPaths : List ℕ := []

def indexPaths (paths : List PathRecord) : PathTables :=
  let listed := uniqueHops (paths.flatMap PathRecord.hops)
  let entries := hopEntries listed paths
  let offsets := Csr.offsets (Csr.counts listed.length entries)
  { paths
    throughOffsets := offsets
    throughResources := listed
    throughPaths := Csr.sortRows id listed.length offsets (Csr.fill offsets 0 entries) }

def throughRow (t : PathTables) (resource : ResourceId) : List ℕ :=
  match findIndex id resource t.throughResources with
  | none => []
  | some index => Csr.row t.throughOffsets t.throughPaths index

def buildPaths (paths : List PathRecord) : Result PathTables := do
  let sorted ← sortChecked PathRecord.id Limits.kMaxPaths "path count exceeds limit" checkPath paths
  return indexPaths sorted

def PathRecord.encode (path : PathRecord) : Bytes :=
  putU64 path.id.value ++ putU64 path.flow.value ++ putCount path.hops.length ++
  path.hops.flatMap (fun hop ↦ putU64 hop.value)

structure PathSnapshot where
  tables : PathTables := {}
  id : PathSetId := default
  digest : Digest := {}
  generation : PathGeneration := default
  topologyGeneration : TopologyGeneration := default
  provenance : Provenance := {}
  observedAt : Millis := kNoTime
  built : Bool := false
  indexed : built = true → ∃ source, buildPaths source = .ok tables := by simp

instance : Inhabited PathSnapshot := ⟨{}⟩

namespace PathSnapshot

def add (s : PathSnapshot) (path : PathRecord) : PathSnapshot :=
  { s with
    tables := { s.tables with paths := s.tables.paths ++ [path] }
    built := false
    indexed := by simp }

def build (s : PathSnapshot) : Result PathSnapshot :=
  match h : buildPaths s.tables.paths with
  | .error e => .error e
  | .ok tables =>
    let digest := digestOf (putCount tables.paths.length ++ tables.paths.flatMap PathRecord.encode)
    .ok { s with
      tables, digest
      id := ⟨digest.fnv⟩
      built := true
      indexed := fun _ ↦ ⟨_, h⟩ }

theorem build_iff {s out : PathSnapshot} : s.build = .ok out ↔
    ∃ tables, ∃ h : buildPaths s.tables.paths = .ok tables, out = { s with
      tables, digest := digestOf (putCount tables.paths.length ++ tables.paths.flatMap PathRecord.encode)
      id := ⟨(digestOf (putCount tables.paths.length ++ tables.paths.flatMap PathRecord.encode)).fnv⟩
      built := true
      indexed := fun _ ↦ ⟨_, h⟩ } := by
  unfold PathSnapshot.build
  split
  · next e he =>
    refine iff_of_false (fun hok ↦ by cases hok) ?_
    rintro ⟨tables, h, -⟩
    rw [he] at h
    cases h
  · next tables h =>
    constructor
    · intro hok
      exact ⟨tables, h, (Except.ok.inj hok).symm⟩
    · rintro ⟨tables', h', rfl⟩
      obtain rfl := Except.ok.inj (h.symm.trans h')
      rfl

def paths (s : PathSnapshot) : List PathRecord := s.tables.paths

/-- Positions of the paths that traverse a resource, in ascending order. -/
def pathsThrough (s : PathSnapshot) (resource : ResourceId) : List ℕ :=
  if !s.built || !resource.valid then []
  else throughRow s.tables resource

end PathSnapshot

structure TrafficRecord where
  flow : FlowId := default
  path : PathId := default
  demandBps : UInt64 := 0
  quality : TelemetryQuality := .unknown
  observedAt : Millis := kNoTime
  deriving DecidableEq

def TrafficRecord.key (record : TrafficRecord) : PathId ×ₗ FlowId := toLex (record.path, record.flow)

def checkTraffic (prev : Option TrafficRecord) (record : TrafficRecord) : Status :=
  if !record.path.valid then Status.failure .invalidArgument "traffic record names path id 0"
  else if prev.any (fun p ↦ record.path = p.path ∧ record.flow = p.flow) then
    Status.failure .invalidArgument ("duplicate traffic record for path " ++ StrongId.hex record.path)
  else .ok ()

def buildTraffic (records : List TrafficRecord) : Result (List TrafficRecord) :=
  sortChecked TrafficRecord.key Limits.kMaxTrafficRecords "traffic record count exceeds limit"
    checkTraffic records

def TrafficRecord.encode (record : TrafficRecord) : Bytes :=
  putU64 record.flow.value ++ putU64 record.path.value ++ putU64 record.demandBps ++
  putU8 record.quality.code ++ putI64 record.observedAt

structure TrafficSnapshot where
  records : List TrafficRecord := []
  id : TrafficId := default
  digest : Digest := {}
  generation : TrafficGeneration := default
  pathGeneration : PathGeneration := default
  provenance : Provenance := {}
  built : Bool := false
  checked : built = true → ∃ source, buildTraffic source = .ok records := by simp

instance : Inhabited TrafficSnapshot := ⟨{}⟩

namespace TrafficSnapshot

def add (s : TrafficSnapshot) (record : TrafficRecord) : TrafficSnapshot :=
  { s with records := s.records ++ [record], built := false, checked := by simp }

def build (s : TrafficSnapshot) : Result TrafficSnapshot :=
  match h : buildTraffic s.records with
  | .error e => .error e
  | .ok records =>
    let digest := digestOf (putCount records.length ++ records.flatMap TrafficRecord.encode)
    .ok { s with
      records, digest
      id := ⟨digest.fnv⟩
      built := true
      checked := fun _ ↦ ⟨_, h⟩ }

theorem build_iff {s out : TrafficSnapshot} : s.build = .ok out ↔
    ∃ records, ∃ h : buildTraffic s.records = .ok records, out = { s with
      records, digest := digestOf (putCount records.length ++ records.flatMap TrafficRecord.encode)
      id := ⟨(digestOf (putCount records.length ++ records.flatMap TrafficRecord.encode)).fnv⟩
      built := true
      checked := fun _ ↦ ⟨_, h⟩ } := by
  unfold TrafficSnapshot.build
  split
  · next e he =>
    refine iff_of_false (fun hok ↦ by cases hok) ?_
    rintro ⟨records, h, -⟩
    rw [he] at h
    cases h
  · next records h =>
    constructor
    · intro hok
      exact ⟨records, h, (Except.ok.inj hok).symm⟩
    · rintro ⟨records', h', rfl⟩
      obtain rfl := Except.ok.inj (h.symm.trans h')
      rfl

end TrafficSnapshot

inductive Severity
  | none | low | moderate | high | critical
  deriving DecidableEq

inductive MitigationKind
  | none | flowRelocation | pathRebalance | admissionReduction | ratePacingChange
  | resourceIsolation | escalateGlobalCongestion
  deriving DecidableEq

/-- Pressure thresholds in parts per million, ages and windows in milliseconds. -/
structure Thresholds where
  saturationUtilizationPpm : UInt32 := 900000
  queuePressurePpm : UInt32 := 850000
  bufferPressurePpm : UInt32 := 900000
  minConfidencePpm : UInt32 := 700000
  maxSignalAgeMs : UInt32 := 5000
  maxCapacityAgeMs : UInt32 := 30000
  maxTopologyAgeMs : UInt32 := 60000
  maxPathAgeMs : UInt32 := 30000
  maxTrafficAgeMs : UInt32 := 5000
  persistenceWindowMs : UInt32 := 2000
  minPersistenceSamples : UInt32 := 3
  maxLocalSharePpm : UInt32 := 250000
  globalSharePpm : UInt32 := 600000
  maxLocalRegions : UInt32 := 1
  maxRegionalRegions : UInt32 := 4
  minCoveragePpm : UInt32 := 600000
  minAttributionConfidencePpm : UInt32 := 500000
  dominantContributorPpm : UInt32 := 500000
  contradictionUtilizationPpm : UInt32 := 400000
  deriving DecidableEq

/-- The caps that keep a local intent from becoming global policy. -/
structure MitigationBudget where
  maxAffectedResources : UInt32 := 16
  maxAffectedPaths : UInt32 := 32
  maxAffectedFlows : UInt32 := 32
  maxRateDeltaPpm : UInt32 := 250000
  maxScopeSharePpm : UInt32 := 250000
  maxPlanScopeSharePpm : UInt32 := 400000
  maxIntentsPerPlan : UInt32 := 8
  allowFlowRelocation : Bool := true
  allowPathRebalance : Bool := true
  allowAdmissionReduction : Bool := true
  allowRateChange : Bool := true
  allowResourceIsolation : Bool := true
  allowGlobalEscalation : Bool := true
  requireAttributionForRelocation : Bool := true
  deriving DecidableEq

def MitigationBudget.allows (budget : MitigationBudget) : MitigationKind → Bool
  | .flowRelocation => budget.allowFlowRelocation
  | .pathRebalance => budget.allowPathRebalance
  | .admissionReduction => budget.allowAdmissionReduction
  | .ratePacingChange => budget.allowRateChange
  | .resourceIsolation => budget.allowResourceIsolation
  | .escalateGlobalCongestion => budget.allowGlobalEscalation
  | .none => false

structure SeverityBands where
  lowPpm : UInt32 := 900000
  moderatePpm : UInt32 := 950000
  highPpm : UInt32 := 990000
  criticalPpm : UInt32 := 1100000
  deriving DecidableEq

def SeverityBands.classify (bands : SeverityBands) (peakPressurePpm : UInt32) : Severity :=
  if peakPressurePpm ≥ bands.criticalPpm then .critical
  else if peakPressurePpm ≥ bands.highPpm then .high
  else if peakPressurePpm ≥ bands.moderatePpm then .moderate
  else if peakPressurePpm ≥ bands.lowPpm then .low
  else .none

structure PolicySnapshot where
  id : PolicyId := default
  generation : PolicyGeneration := default
  provenance : Provenance := {}
  issuedAt : Millis := kNoTime
  ttlMs : UInt32 := 0
  thresholds : Thresholds := {}
  budget : MitigationBudget := {}
  bands : SeverityBands := {}
  deriving DecidableEq

def PolicySnapshot.expiredAt (policy : PolicySnapshot) (now : Millis) : Bool :=
  policy.ttlMs = 0 || policy.issuedAt = kNoTime || now < policy.issuedAt ||
    elapsedMs policy.issuedAt now > millis policy.ttlMs

theorem checkCapacity_ok {prev : Option ResourceCapacity} {entry : ResourceCapacity}
    (h : checkCapacity prev entry = .ok ()) :
    entry.resource.valid = true ∧ (∀ p, prev = some p → p.resource ≠ entry.resource) ∧
      (entry.usable = true → entry.capacityUnits ≠ 0) := by
  unfold checkCapacity at h
  split at h
  · cases h
  · next hv =>
    split at h
    · cases h
    · next hp =>
      split at h
      · cases h
      · next hc =>
        refine ⟨by simpa using hv, ?_, fun hu h0 ↦ hc ⟨h0, hu⟩⟩
        rintro p rfl
        simpa [eq_comm] using hp

theorem checkSignals_ok {prev : Option ResourceSignals} {record : ResourceSignals}
    (h : checkSignals prev record = .ok ()) :
    record.resource.valid = true ∧ ∀ p, prev = some p → p.resource ≠ record.resource := by
  unfold checkSignals at h
  split at h
  · cases h
  · next hv =>
    split at h
    · cases h
    · next hp =>
      refine ⟨by simpa using hv, ?_⟩
      rintro p rfl
      simpa [eq_comm] using hp

variable {s : CapacitySnapshot} {g : SignalSnapshot}

theorem CapacitySnapshot.strict (hs : s.built = true) : Strict ResourceCapacity.resource s.entries := by
  obtain ⟨source, h⟩ := s.checked hs
  exact sortChecked_strict (fun p x hx ↦ (checkCapacity_ok hx).2.1 p rfl) h

theorem SignalSnapshot.strict (hg : g.built = true) : Strict ResourceSignals.resource g.records := by
  obtain ⟨source, h⟩ := g.checked hg
  exact sortChecked_strict (fun p x hx ↦ (checkSignals_ok hx).2 p rfl) h

end HotspotGovernor.Evidence
