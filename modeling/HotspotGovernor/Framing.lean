import HotspotGovernor.Evidence

namespace HotspotGovernor.Framing

open Foundation ByteIo Topology Evidence

def kFrameMagic : UInt32 := 0x464D4748

def kFrameHeaderBytes : ℕ := 88

def kFrameProtocolVersion : UInt32 := 1

/-- Message types. The wire carries any 16-bit code. -/
inductive MessageType
  | unknown | hello | welcome | rejected | accepted | goodbye
  | topology | capacity | signals | paths | traffic | policy | heartbeat
  | unnamed (code : UInt16) (h : code ∉ [0, 1, 2, 3, 4, 5, 10, 11, 12, 13, 14, 15, 20])
  deriving DecidableEq

def MessageType.code : MessageType → UInt16
  | .unknown => 0
  | .hello => 1
  | .welcome => 2
  | .rejected => 3
  | .accepted => 4
  | .goodbye => 5
  | .topology => 10
  | .capacity => 11
  | .signals => 12
  | .paths => 13
  | .traffic => 14
  | .policy => 15
  | .heartbeat => 20
  | .unnamed code _ => code

def MessageType.ofCode (code : UInt16) : MessageType :=
  if h : code ∉ [0, 1, 2, 3, 4, 5, 10, 11, 12, 13, 14, 15, 20] then .unnamed code h
  else if code = 1 then .hello
  else if code = 2 then .welcome
  else if code = 3 then .rejected
  else if code = 4 then .accepted
  else if code = 5 then .goodbye
  else if code = 10 then .topology
  else if code = 11 then .capacity
  else if code = 12 then .signals
  else if code = 13 then .paths
  else if code = 14 then .traffic
  else if code = 15 then .policy
  else if code = 20 then .heartbeat
  else .unknown

def streamOf : MessageType → StreamKind
  | .topology => .topology
  | .capacity => .capacity
  | .signals => .signals
  | .paths => .paths
  | .traffic => .traffic
  | .policy => .policy
  | _ => .unknown

structure FrameHeader where
  version : UInt16 := 0
  type : MessageType := .unknown
  flags : UInt32 := 0
  payloadLength : UInt32 := 0
  epoch : CoordinatorEpoch := default
  publisher : PublisherId := default
  incarnation : Incarnation := default
  boot : BootId := default
  sequence : Sequence := 0
  generation : UInt64 := 0
  emittedAt : Millis := kNoTime
  payloadCrc : UInt64 := 0
  headerCrc : UInt64 := 0
  deriving DecidableEq

structure Frame where
  header : FrameHeader := {}
  payload : Bytes := []
  deriving DecidableEq

/-- A decoder consumes bytes from the front and refuses with a code and a text. -/
abbrev Decoder (α : Type) := StateT Bytes (Except Failure) α

def field {α : Type} (reader : Reader α) (code : ErrorCode) (detail : String) : Decoder α := fun bytes ↦
  match reader bytes with
  | none => Status.failure code detail
  | some read => .ok read

def repeatField {α : Type} (decoder : Decoder α) : ℕ → Decoder (List α)
  | 0 => pure []
  | n + 1 => do
    let x ← decoder
    let xs ← repeatField decoder n
    return x :: xs

def requireEnd : Decoder Unit := fun bytes ↦
  if bytes.isEmpty then .ok ((), bytes)
  else Status.failure .malformedFrame "payload has trailing bytes"

def checkCount (count : UInt32) (limit : ℕ) (what : String) : Status :=
  if count.toNat > limit then Status.failure .boundExceeded (what ++ " count exceeds limit") else .ok ()

def decodeAll {α : Type} (decoder : Decoder α) (bytes : Bytes) : Result α :=
  (decoder.run bytes).map Prod.fst

def encodeHeaderFields (header : FrameHeader) : Bytes :=
  putU32 kFrameMagic ++ putU16 header.version ++ putU16 header.type.code ++ putU32 header.flags ++
  putU32 header.payloadLength ++ putU64 header.epoch.value ++ putU64 header.publisher.value ++
  putU64 header.incarnation.value ++ putU64 header.boot.value ++ putU64 header.sequence ++
  putU64 header.generation ++ putI64 header.emittedAt ++ putU64 header.payloadCrc

def encodeHeader (header : FrameHeader) : Bytes :=
  encodeHeaderFields header ++ putU64 (crc64 (encodeHeaderFields header))

def headerDecoder (expectedCrc : UInt64) : Decoder FrameHeader := do
  let undecoded := "header fields could not be decoded"
  let magic ← field readU32 .malformedFrame undecoded
  let version ← field readU16 .malformedFrame undecoded
  let type ← field readU16 .malformedFrame undecoded
  let flags ← field readU32 .malformedFrame undecoded
  let payloadLength ← field readU32 .malformedFrame undecoded
  if magic ≠ kFrameMagic then
    throw ⟨.malformedFrame, "bad frame magic"⟩
  if version.toUInt32 ≠ kFrameProtocolVersion then
    throw ⟨.unsupportedVersion,
      "frame protocol version " ++ toString version.toNat ++ " is not supported"⟩
  if payloadLength.toNat > Limits.kMaxFrameBytes then
    throw ⟨.frameTooLarge, "declared payload exceeds the frame bound"⟩
  let epoch ← field readU64 .malformedFrame undecoded
  let publisher ← field readU64 .malformedFrame undecoded
  let incarnation ← field readU64 .malformedFrame undecoded
  let boot ← field readU64 .malformedFrame undecoded
  let sequence ← field readU64 .malformedFrame undecoded
  let generation ← field readU64 .malformedFrame undecoded
  let emittedAt ← field readI64 .malformedFrame undecoded
  let payloadCrc ← field readU64 .malformedFrame undecoded
  let headerCrc ← field readU64 .malformedFrame undecoded
  if headerCrc ≠ expectedCrc then
    throw ⟨.integrityMismatch, "header CRC does not match the header bytes"⟩
  return { version, flags, payloadLength, sequence, generation, emittedAt, payloadCrc, headerCrc
           type := MessageType.ofCode type
           epoch := ⟨epoch⟩
           publisher := ⟨publisher⟩
           incarnation := ⟨incarnation⟩
           boot := ⟨boot⟩ }

def decodeHeader (bytes : Bytes) : Result FrameHeader :=
  if bytes.length < kFrameHeaderBytes then
    Status.failure .truncatedFrame "fewer header bytes available than the fixed frame header"
  else
    decodeAll (headerDecoder (crc64 (bytes.take (kFrameHeaderBytes - 8)))) (bytes.take kFrameHeaderBytes)

def verifyPayload (header : FrameHeader) (payload : Bytes) : Status :=
  if payload.length ≠ header.payloadLength.toNat then
    Status.failure .truncatedFrame "payload length does not match the header"
  else if payload.length > Limits.kMaxFrameBytes then
    Status.failure .frameTooLarge "payload exceeds the frame bound"
  else if crc64 payload ≠ header.payloadCrc then
    Status.failure .integrityMismatch "payload CRC does not match the payload bytes"
  else .ok ()

/-- The header as it goes on the wire: length and CRC of the payload, version filled in if absent. -/
def stampHeader (frame : Frame) : FrameHeader :=
  { frame.header with
    payloadLength := UInt32.ofNat frame.payload.length
    payloadCrc := crc64 frame.payload
    version := if frame.header.version = 0 then kFrameProtocolVersion.toUInt16 else frame.header.version }

def encodeFrame (frame : Frame) : Result Bytes :=
  if frame.payload.length > Limits.kMaxFrameBytes then
    Status.failure .frameTooLarge "payload exceeds the frame bound"
  else .ok (encodeHeader (stampHeader frame) ++ frame.payload)

def makeFrame (type : MessageType) (provenance : Provenance) (payload : Bytes) : Frame :=
  { header :=
      { version := kFrameProtocolVersion.toUInt16
        type
        epoch := provenance.epoch
        publisher := provenance.publisher
        incarnation := provenance.incarnation
        boot := provenance.boot
        sequence := provenance.sequence
        generation := provenance.generation.value
        emittedAt := provenance.emittedAt
        payloadLength := UInt32.ofNat payload.length
        payloadCrc := crc64 payload }
    payload }

def encodeStreamHeader (stream : StreamKind) (generation : UInt64) (observedAt : Millis) : Bytes :=
  putU16 stream.code ++ putU64 generation ++ putI64 observedAt

structure StreamHeader where
  stream : StreamKind
  generation : UInt64
  observedAt : Millis

def decodeStreamHeader (expected : StreamKind) : Decoder StreamHeader := do
  let stream ← field readU16 .truncatedFrame "stream header truncated"
  if stream ≠ expected.code then
    throw ⟨.malformedFrame, "payload stream kind does not match the message type"⟩
  let generation ← field readU64 .truncatedFrame "stream generation truncated"
  let observedAt ← field readI64 .truncatedFrame "stream timestamp truncated"
  return ⟨expected, generation, observedAt⟩

def encodeTopologyPayload (s : TopologySnapshot) : Result Bytes :=
  if !s.built then Status.failure .invalidArgument "cannot encode an unbuilt topology"
  else .ok (encodeStreamHeader .topology s.generation.value s.validFrom ++ putI64 s.validUntil ++
    s.tables.encode)

def decodeRegion : Decoder Region := do
  let truncated := "topology region entry truncated"
  let id ← field readU64 .truncatedFrame truncated
  let parent ← field readU64 .truncatedFrame truncated
  let name ← field (readText Limits.kMaxRegionNameBytes) .truncatedFrame truncated
  return ⟨⟨id⟩, name, ⟨parent⟩⟩

def decodeResource : Decoder Resource := do
  let truncated := "topology resource entry truncated"
  let id ← field readU64 .truncatedFrame truncated
  let region ← field readU64 .truncatedFrame truncated
  let kind ← field readU8 .truncatedFrame truncated
  let name ← field (readText Limits.kMaxResourceNameBytes) .truncatedFrame truncated
  return ⟨⟨id⟩, ⟨region⟩, ResourceKind.ofCode kind, name⟩

def decodeLink : Decoder Link := do
  let truncated := "topology link entry truncated"
  let id ← field readU64 .truncatedFrame truncated
  let a ← field readU64 .truncatedFrame truncated
  let b ← field readU64 .truncatedFrame truncated
  return ⟨⟨id⟩, ⟨a⟩, ⟨b⟩⟩

def decodeList {α : Type} (truncated : String) (limit : ℕ) (what : String) (entry : Decoder α) :
    Decoder (List α) := do
  let count ← field readU32 .truncatedFrame truncated
  checkCount count limit what
  repeatField entry count.toNat

def topologyDecoder : Decoder TopologySnapshot := do
  let header ← decodeStreamHeader .topology
  let validUntil ← field readI64 .truncatedFrame "topology validity truncated"
  let regions ← decodeList "topology region count truncated" Limits.kMaxRegions "region" decodeRegion
  let resources ←
    decodeList "topology resource count truncated" Limits.kMaxResources "resource" decodeResource
  let links ← decodeList "topology link count truncated" Limits.kMaxLinks "link" decodeLink
  requireEnd
  let s : TopologySnapshot := TopologySnapshot.setValidity default header.observedAt validUntil
  let s := regions.foldl (fun s r ↦ s.addRegion r.id r.name r.parent) s
  let s := resources.foldl (fun s r ↦ s.addResource r.id r.region r.kind r.name) s
  let s := links.foldl (fun s l ↦ s.addLink l.id l.endpointA l.endpointB) s
  let s ← s.build
  return s.setGeneration ⟨header.generation⟩

def decodeTopologyPayload (payload : Bytes) : Result TopologySnapshot := decodeAll topologyDecoder payload

def encodeCapacityPayload (s : CapacitySnapshot) : Result Bytes :=
  if !s.built then Status.failure .invalidArgument "cannot encode an unbuilt capacity snapshot"
  else .ok (encodeStreamHeader .capacity s.generation.value s.observedAt ++
    putU64 s.topologyGeneration.value ++ putCount s.entries.length ++
    s.entries.flatMap ResourceCapacity.encode)

def decodeCapacityEntry : Decoder ResourceCapacity := do
  let truncated := "capacity entry truncated"
  let resource ← field readU64 .truncatedFrame truncated
  let capacityUnits ← field readU64 .truncatedFrame truncated
  let queueLimitUnits ← field readU64 .truncatedFrame truncated
  let bufferLimitBytes ← field readU64 .truncatedFrame truncated
  let usable ← field readU8 .truncatedFrame truncated
  return { resource := ⟨resource⟩, capacityUnits, queueLimitUnits, bufferLimitBytes, usable := usable ≠ 0 }

def capacityDecoder : Decoder CapacitySnapshot := do
  let header ← decodeStreamHeader .capacity
  let topologyGeneration ← field readU64 .truncatedFrame "capacity topology generation truncated"
  let entries ← decodeList "capacity entry count truncated" Limits.kMaxCapacityEntries "capacity entry"
    decodeCapacityEntry
  requireEnd
  let s ← (entries.foldl CapacitySnapshot.add default).build
  return { s with
    generation := ⟨header.generation⟩
    topologyGeneration := ⟨topologyGeneration⟩
    observedAt := header.observedAt }

def decodeCapacityPayload (payload : Bytes) : Result CapacitySnapshot := decodeAll capacityDecoder payload

def encodeSignalsPayload (s : SignalSnapshot) : Result Bytes :=
  if !s.built then Status.failure .invalidArgument "cannot encode an unbuilt signal snapshot"
  else .ok (encodeStreamHeader .signals s.generation.value s.windowEnd ++
    putU64 s.topologyGeneration.value ++ putU64 s.capacityGeneration.value ++ putI64 s.windowStart ++
    putCount s.records.length ++ s.records.flatMap ResourceSignals.encode)

def decodeSignalRecord : Decoder ResourceSignals := do
  let truncated := "signal record truncated"
  let resource ← field readU64 .truncatedFrame truncated
  let utilizedUnits ← field readU64 .truncatedFrame truncated
  let queueDepthUnits ← field readU64 .truncatedFrame truncated
  let bufferUsedBytes ← field readU64 .truncatedFrame truncated
  let offeredBps ← field readU64 .truncatedFrame truncated
  let admittedBps ← field readU64 .truncatedFrame truncated
  let dropUnits ← field readU64 .truncatedFrame truncated
  let confidencePpm ← field readU32 .truncatedFrame truncated
  let quality ← field readU8 .truncatedFrame truncated
  let observedAt ← field readI64 .truncatedFrame truncated
  return { resource := ⟨resource⟩, utilizedUnits, queueDepthUnits, bufferUsedBytes, offeredBps
           admittedBps, dropUnits, confidencePpm, quality := TelemetryQuality.ofCode quality, observedAt }

def signalsDecoder : Decoder SignalSnapshot := do
  let header ← decodeStreamHeader .signals
  let topologyGeneration ← field readU64 .truncatedFrame "signal header truncated"
  let capacityGeneration ← field readU64 .truncatedFrame "signal header truncated"
  let windowStart ← field readI64 .truncatedFrame "signal header truncated"
  let records ← decodeList "signal record count truncated" Limits.kMaxSignalRecords "signal record"
    decodeSignalRecord
  requireEnd
  let s ← (records.foldl SignalSnapshot.add default).build
  return { s with
    generation := ⟨header.generation⟩
    topologyGeneration := ⟨topologyGeneration⟩
    capacityGeneration := ⟨capacityGeneration⟩
    windowStart
    windowEnd := header.observedAt }

def decodeSignalsPayload (payload : Bytes) : Result SignalSnapshot := decodeAll signalsDecoder payload

def encodePathsPayload (s : PathSnapshot) : Result Bytes :=
  if !s.built then Status.failure .invalidArgument "cannot encode an unbuilt path snapshot"
  else .ok (encodeStreamHeader .paths s.generation.value s.observedAt ++
    putU64 s.topologyGeneration.value ++ putCount s.paths.length ++ s.paths.flatMap PathRecord.encode)

def decodePathRecord : Decoder PathRecord := do
  let truncated := "path entry truncated"
  let id ← field readU64 .truncatedFrame truncated
  let flow ← field readU64 .truncatedFrame truncated
  let hops ← field readU32 .truncatedFrame truncated
  if hops.toNat > Limits.kMaxHopsPerPath then
    throw ⟨.boundExceeded, "path hop count exceeds limit"⟩
  let hops ← repeatField (field readU64 .truncatedFrame "path hop truncated") hops.toNat
  return { id := ⟨id⟩, flow := ⟨flow⟩, hops := hops.map StrongId.mk }

def pathsDecoder : Decoder PathSnapshot := do
  let header ← decodeStreamHeader .paths
  let topologyGeneration ← field readU64 .truncatedFrame "path topology generation truncated"
  let paths ← decodeList "path count truncated" Limits.kMaxPaths "path" decodePathRecord
  requireEnd
  let s ← (paths.foldl PathSnapshot.add default).build
  return { s with
    generation := ⟨header.generation⟩
    topologyGeneration := ⟨topologyGeneration⟩
    observedAt := header.observedAt }

def decodePathsPayload (payload : Bytes) : Result PathSnapshot := decodeAll pathsDecoder payload

def encodeTrafficPayload (s : TrafficSnapshot) : Result Bytes :=
  if !s.built then Status.failure .invalidArgument "cannot encode an unbuilt traffic snapshot"
  else .ok (encodeStreamHeader .traffic s.generation.value kNoTime ++ putU64 s.pathGeneration.value ++
    putCount s.records.length ++ s.records.flatMap TrafficRecord.encode)

def decodeTrafficRecord : Decoder TrafficRecord := do
  let truncated := "traffic record truncated"
  let flow ← field readU64 .truncatedFrame truncated
  let path ← field readU64 .truncatedFrame truncated
  let demandBps ← field readU64 .truncatedFrame truncated
  let quality ← field readU8 .truncatedFrame truncated
  let observedAt ← field readI64 .truncatedFrame truncated
  return { flow := ⟨flow⟩, path := ⟨path⟩, demandBps, quality := TelemetryQuality.ofCode quality, observedAt }

def trafficDecoder : Decoder TrafficSnapshot := do
  let header ← decodeStreamHeader .traffic
  let pathGeneration ← field readU64 .truncatedFrame "traffic path generation truncated"
  let records ← decodeList "traffic record count truncated" Limits.kMaxTrafficRecords "traffic record"
    decodeTrafficRecord
  requireEnd
  let s ← (records.foldl TrafficSnapshot.add default).build
  return { s with generation := ⟨header.generation⟩, pathGeneration := ⟨pathGeneration⟩ }

def decodeTrafficPayload (payload : Bytes) : Result TrafficSnapshot := decodeAll trafficDecoder payload

def Thresholds.words (t : Thresholds) : List UInt32 :=
  [t.saturationUtilizationPpm, t.queuePressurePpm, t.bufferPressurePpm, t.minConfidencePpm,
    t.maxSignalAgeMs, t.maxCapacityAgeMs, t.maxTopologyAgeMs, t.maxPathAgeMs, t.maxTrafficAgeMs,
    t.persistenceWindowMs, t.minPersistenceSamples, t.maxLocalSharePpm, t.globalSharePpm,
    t.maxLocalRegions, t.maxRegionalRegions, t.minCoveragePpm, t.minAttributionConfidencePpm,
    t.dominantContributorPpm, t.contradictionUtilizationPpm]

def MitigationBudget.words (b : MitigationBudget) : List UInt32 :=
  [b.maxAffectedResources, b.maxAffectedPaths, b.maxAffectedFlows, b.maxRateDeltaPpm,
    b.maxScopeSharePpm, b.maxPlanScopeSharePpm, b.maxIntentsPerPlan]

def MitigationBudget.flags (b : MitigationBudget) : List Bool :=
  [b.allowFlowRelocation, b.allowPathRebalance, b.allowAdmissionReduction, b.allowRateChange,
    b.allowResourceIsolation, b.allowGlobalEscalation, b.requireAttributionForRelocation]

def SeverityBands.words (b : SeverityBands) : List UInt32 :=
  [b.lowPpm, b.moderatePpm, b.highPpm, b.criticalPpm]

def encodePolicyPayload (s : PolicySnapshot) : Bytes :=
  encodeStreamHeader .policy s.generation.value s.issuedAt ++ putU64 s.id.value ++ putI64 s.issuedAt ++
  putU32 s.ttlMs ++ (Thresholds.words s.thresholds).flatMap putU32 ++
  (MitigationBudget.words s.budget).flatMap putU32 ++ (MitigationBudget.flags s.budget).flatMap putBool ++
  (SeverityBands.words s.bands).flatMap putU32

def decodeThresholds : Decoder Thresholds := do
  let word : Decoder UInt32 := field readU32 .truncatedFrame "policy thresholds truncated"
  return { saturationUtilizationPpm := ← word, queuePressurePpm := ← word, bufferPressurePpm := ← word
           minConfidencePpm := ← word, maxSignalAgeMs := ← word, maxCapacityAgeMs := ← word
           maxTopologyAgeMs := ← word, maxPathAgeMs := ← word, maxTrafficAgeMs := ← word
           persistenceWindowMs := ← word, minPersistenceSamples := ← word, maxLocalSharePpm := ← word
           globalSharePpm := ← word, maxLocalRegions := ← word, maxRegionalRegions := ← word
           minCoveragePpm := ← word, minAttributionConfidencePpm := ← word
           dominantContributorPpm := ← word, contradictionUtilizationPpm := ← word }

def decodeBudget : Decoder MitigationBudget := do
  let word : Decoder UInt32 := field readU32 .truncatedFrame "policy budget truncated"
  let flag : Decoder UInt8 := field readU8 .truncatedFrame "policy budget flags truncated"
  return { maxAffectedResources := ← word, maxAffectedPaths := ← word, maxAffectedFlows := ← word
           maxRateDeltaPpm := ← word, maxScopeSharePpm := ← word, maxPlanScopeSharePpm := ← word
           maxIntentsPerPlan := ← word, allowFlowRelocation := (← flag) ≠ 0
           allowPathRebalance := (← flag) ≠ 0, allowAdmissionReduction := (← flag) ≠ 0
           allowRateChange := (← flag) ≠ 0, allowResourceIsolation := (← flag) ≠ 0
           allowGlobalEscalation := (← flag) ≠ 0, requireAttributionForRelocation := (← flag) ≠ 0 }

def decodeBands : Decoder SeverityBands := do
  let word : Decoder UInt32 := field readU32 .truncatedFrame "policy severity bands truncated"
  return { lowPpm := ← word, moderatePpm := ← word, highPpm := ← word, criticalPpm := ← word }

def policyDecoder : Decoder PolicySnapshot := do
  let header ← decodeStreamHeader .policy
  let id ← field readU64 .truncatedFrame "policy header truncated"
  let issuedAt ← field readI64 .truncatedFrame "policy header truncated"
  let ttlMs ← field readU32 .truncatedFrame "policy header truncated"
  let thresholds ← decodeThresholds
  let budget ← decodeBudget
  let bands ← decodeBands
  requireEnd
  return { thresholds, budget, bands, ttlMs, issuedAt, id := ⟨id⟩, generation := ⟨header.generation⟩ }

def decodePolicyPayload (payload : Bytes) : Result PolicySnapshot := decodeAll policyDecoder payload

structure HelloPayload where
  publisher : PublisherId
  incarnation : Incarnation
  boot : BootId
  protocolVersion : UInt32 := kFrameProtocolVersion
  name : Bytes := []
  deriving DecidableEq

def encodeHello (payload : HelloPayload) : Bytes :=
  putU64 payload.publisher.value ++ putU64 payload.incarnation.value ++ putU64 payload.boot.value ++
  putU32 payload.protocolVersion ++ putText payload.name

def helloDecoder : Decoder HelloPayload := do
  let truncated := "hello payload truncated"
  let publisher ← field readU64 .truncatedFrame truncated
  let incarnation ← field readU64 .truncatedFrame truncated
  let boot ← field readU64 .truncatedFrame truncated
  let protocolVersion ← field readU32 .truncatedFrame truncated
  let name ← field (readText Limits.kMaxTextBytes) .truncatedFrame truncated
  if protocolVersion ≠ kFrameProtocolVersion then
    throw ⟨.unsupportedVersion, "publisher protocol version is not supported"⟩
  requireEnd
  return ⟨⟨publisher⟩, ⟨incarnation⟩, ⟨boot⟩, protocolVersion, name⟩

def decodeHello (payload : Bytes) : Result HelloPayload := decodeAll helloDecoder payload

structure WelcomePayload where
  epoch : CoordinatorEpoch
  coordinatorBoot : BootId
  protocolVersion : UInt32 := kFrameProtocolVersion
  name : Bytes := []
  heartbeatMs : UInt32 := 1000
  deriving DecidableEq

def encodeWelcome (payload : WelcomePayload) : Bytes :=
  putU64 payload.epoch.value ++ putU64 payload.coordinatorBoot.value ++
  putU32 payload.protocolVersion ++ putU32 payload.heartbeatMs ++ putText payload.name

def welcomeDecoder : Decoder WelcomePayload := do
  let truncated := "welcome payload truncated"
  let epoch ← field readU64 .truncatedFrame truncated
  let boot ← field readU64 .truncatedFrame truncated
  let protocolVersion ← field readU32 .truncatedFrame truncated
  let heartbeatMs ← field readU32 .truncatedFrame truncated
  let name ← field (readText Limits.kMaxTextBytes) .truncatedFrame truncated
  requireEnd
  return ⟨⟨epoch⟩, ⟨boot⟩, protocolVersion, name, heartbeatMs⟩

def decodeWelcome (payload : Bytes) : Result WelcomePayload := decodeAll welcomeDecoder payload

/-- A refusal on the wire. Its code is any 32-bit word; the decoder does not check it. -/
structure RejectedPayload where
  code : UInt32
  reason : Bytes := []
  deriving DecidableEq

def encodeRejected (payload : RejectedPayload) : Bytes := putU32 payload.code ++ putText payload.reason

def rejectedDecoder : Decoder RejectedPayload := do
  let truncated := "rejected payload truncated"
  let code ← field readU32 .truncatedFrame truncated
  let reason ← field (readText Limits.kMaxTextBytes) .truncatedFrame truncated
  requireEnd
  return ⟨code, reason⟩

def decodeRejected (payload : Bytes) : Result RejectedPayload := decodeAll rejectedDecoder payload

end HotspotGovernor.Framing
