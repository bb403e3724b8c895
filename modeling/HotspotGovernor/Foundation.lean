import Mathlib.Algebra.Order.Ring.Int
import Mathlib.Tactic.Common

namespace HotspotGovernor.Foundation

inductive IdTag
  | resource | region | link | path | flow | hotspot | evidence | capacity | topology | pathSet
  | traffic | policy | intervention | publisher | coordinatorEpoch | bootId | incarnation
  deriving DecidableEq

/-- A strong identity. Zero is reserved for "absent" and never names a real entity. -/
structure StrongId (tag : IdTag) where
  value : UInt64
  deriving DecidableEq

namespace StrongId

variable {tag : IdTag}

instance : Inhabited (StrongId tag) := ⟨⟨0⟩⟩

def valid (id : StrongId tag) : Bool := id.value != 0

/-- Advances by one, saturating rather than wrapping. -/
def next (id : StrongId tag) : StrongId tag :=
  if id.value = UInt64.ofNat (2 ^ 64 - 1) then id else ⟨id.value + 1⟩

theorem toNat_injective : Function.Injective (fun id : StrongId tag ↦ id.value.toNat) := by
  rintro ⟨a⟩ ⟨b⟩ h
  exact congrArg StrongId.mk (UInt64.toNat_inj.mp h)

instance : LinearOrder (StrongId tag) := LinearOrder.lift' (fun id ↦ id.value.toNat) toNat_injective

theorem lt_iff {a b : StrongId tag} : a < b ↔ a.value.toNat < b.value.toNat := Iff.rfl

end StrongId

abbrev ResourceId := StrongId .resource
abbrev RegionId := StrongId .region
abbrev LinkId := StrongId .link
abbrev PathId := StrongId .path
abbrev FlowId := StrongId .flow
abbrev HotspotId := StrongId .hotspot
abbrev EvidenceId := StrongId .evidence
abbrev CapacityId := StrongId .capacity
abbrev TopologyId := StrongId .topology
abbrev PathSetId := StrongId .pathSet
abbrev TrafficId := StrongId .traffic
abbrev PolicyId := StrongId .policy
abbrev InterventionId := StrongId .intervention
abbrev PublisherId := StrongId .publisher
abbrev CoordinatorEpoch := StrongId .coordinatorEpoch
abbrev BootId := StrongId .bootId
abbrev Incarnation := StrongId .incarnation

inductive StreamKind
  | unknown | topology | capacity | signals | paths | traffic | policy
  deriving DecidableEq

def StreamKind.code : StreamKind → UInt16
  | .unknown => 0
  | .topology => 1
  | .capacity => 2
  | .signals => 3
  | .paths => 4
  | .traffic => 5
  | .policy => 6

/-- A monotonically increasing generation counter for one authoritative stream. -/
structure Generation (stream : StreamKind) where
  value : UInt64
  deriving DecidableEq

namespace Generation

variable {stream : StreamKind}

instance : Inhabited (Generation stream) := ⟨⟨0⟩⟩

theorem toNat_injective : Function.Injective (fun g : Generation stream ↦ g.value.toNat) := by
  rintro ⟨a⟩ ⟨b⟩ h
  exact congrArg Generation.mk (UInt64.toNat_inj.mp h)

instance : LinearOrder (Generation stream) := LinearOrder.lift' (fun g ↦ g.value.toNat) toNat_injective

end Generation

abbrev TopologyGeneration := Generation .topology
abbrev CapacityGeneration := Generation .capacity
abbrev EvidenceGeneration := Generation .signals
abbrev PathGeneration := Generation .paths
abbrev TrafficGeneration := Generation .traffic
abbrev PolicyGeneration := Generation .policy

abbrev Sequence := UInt64

namespace Limits

def kMaxResources : ℕ := 2 ^ 20
def kMaxRegions : ℕ := 2 ^ 16
def kMaxLinks : ℕ := 2 ^ 21
def kMaxNeighborsPerResource : ℕ := 4096
def kMaxResourceNameBytes : ℕ := 128
def kMaxRegionNameBytes : ℕ := 128
def kMaxCapacityEntries : ℕ := 2 ^ 20
def kMaxSignalRecords : ℕ := 2 ^ 20
def kMaxPaths : ℕ := 2 ^ 20
def kMaxHopsPerPath : ℕ := 256
def kMaxTrafficRecords : ℕ := 2 ^ 20
def kMaxHotspots : ℕ := 4096
def kMaxHotspotResources : ℕ := 256
def kMaxContributors : ℕ := 256
def kMaxIntentAffectedResources : ℕ := 64
def kMaxIntentAffectedPaths : ℕ := 256
def kMaxIntentAffectedFlows : ℕ := 256
def kMaxSuppressedEntries : ℕ := 64
def kMaxPressureEntries : ℕ := 8192
def kMaxContributorAccumulators : ℕ := 4096
def kMaxAuthorityGrants : ℕ := 32
def kMaxDiagnostics : ℕ := 128
def kMaxExplanationLines : ℕ := 512
def kMaxReasonBytes : ℕ := 192
def kMaxTextBytes : ℕ := 512
def kMaxFrameBytes : ℕ := 16 * 2 ^ 20
def kMaxPublishers : ℕ := 512
def kMaxConnections : ℕ := 512
def kMaxWorkerThreads : ℕ := 64
def kMaxQueueDepth : ℕ := 2 ^ 16
def kMaxHistoryResources : ℕ := 2 ^ 20
def kMaxJournalRecordBytes : ℕ := 2 ^ 20
def kMaxDurableBytes : ℕ := 2 ^ 32
def kMaxJournalRecords : ℕ := 2 ^ 20

end Limits

inductive ErrorCode
  | invalidArgument | outOfRange | boundExceeded | arithmeticOverflow | notImplemented
  | malformedFrame | truncatedFrame | integrityMismatch | unsupportedVersion | frameTooLarge
  | staleGeneration | staleEpoch | unknownEpoch | staleIncarnation | unknownPublisher
  | duplicateFrame | outOfOrderSequence | publisherFenced
  | staleEvidence | missingEvidence | contradictoryEvidence | degradedTelemetry | staleTopology
  | topologyGenerationMismatch | pathGenerationMismatch | capacityGenerationMismatch
  | trafficGenerationMismatch | insufficientCoverage | policyExpired | policyMissing
  | unknownResource | unknownPath | unknownRegion
  | notAuthorized | scopeViolation | budgetExceeded | localizationLost | attributionUnavailable
  | persistenceNotMet
  | persistenceCorrupt | persistenceTruncated | persistenceVersionUnsupported | persistenceIoError
  | journalRecordInvalid | durableGrowthExceeded
  | cancelled | shuttingDown | queueFull | workerFailed | timeout | ioError | notConnected
  | connectionClosed | alreadyStarted | notStarted
  | internal
  deriving DecidableEq

def isStale : ErrorCode → Bool
  | .staleGeneration | .staleEpoch | .staleIncarnation | .duplicateFrame | .outOfOrderSequence
  | .publisherFenced | .staleEvidence | .staleTopology | .topologyGenerationMismatch
  | .pathGenerationMismatch | .capacityGenerationMismatch | .trafficGenerationMismatch
  | .policyExpired => true
  | _ => false

def isIntegrity : ErrorCode → Bool
  | .malformedFrame | .truncatedFrame | .integrityMismatch | .unsupportedVersion | .frameTooLarge
  | .persistenceCorrupt | .persistenceTruncated | .persistenceVersionUnsupported
  | .journalRecordInvalid => true
  | _ => false

def ErrorCode.text : ErrorCode → String
  | .invalidArgument => "invalid-argument"
  | .outOfRange => "out-of-range"
  | .boundExceeded => "bound-exceeded"
  | .arithmeticOverflow => "arithmetic-overflow"
  | .notImplemented => "not-implemented"
  | .malformedFrame => "malformed-frame"
  | .truncatedFrame => "truncated-frame"
  | .integrityMismatch => "integrity-mismatch"
  | .unsupportedVersion => "unsupported-version"
  | .frameTooLarge => "frame-too-large"
  | .staleGeneration => "stale-generation"
  | .staleEpoch => "stale-epoch"
  | .unknownEpoch => "unknown-epoch"
  | .staleIncarnation => "stale-incarnation"
  | .unknownPublisher => "unknown-publisher"
  | .duplicateFrame => "duplicate-frame"
  | .outOfOrderSequence => "out-of-order-sequence"
  | .publisherFenced => "publisher-fenced"
  | .staleEvidence => "stale-evidence"
  | .missingEvidence => "missing-evidence"
  | .contradictoryEvidence => "contradictory-evidence"
  | .degradedTelemetry => "degraded-telemetry"
  | .staleTopology => "stale-topology"
  | .topologyGenerationMismatch => "topology-generation-mismatch"
  | .pathGenerationMismatch => "path-generation-mismatch"
  | .capacityGenerationMismatch => "capacity-generation-mismatch"
  | .trafficGenerationMismatch => "traffic-generation-mismatch"
  | .insufficientCoverage => "insufficient-coverage"
  | .policyExpired => "policy-expired"
  | .policyMissing => "policy-missing"
  | .unknownResource => "unknown-resource"
  | .unknownPath => "unknown-path"
  | .unknownRegion => "unknown-region"
  | .notAuthorized => "not-authorized"
  | .scopeViolation => "scope-violation"
  | .budgetExceeded => "budget-exceeded"
  | .localizationLost => "localization-lost"
  | .attributionUnavailable => "attribution-unavailable"
  | .persistenceNotMet => "persistence-not-met"
  | .persistenceCorrupt => "persistence-corrupt"
  | .persistenceTruncated => "persistence-truncated"
  | .persistenceVersionUnsupported => "persistence-version-unsupported"
  | .persistenceIoError => "persistence-io-error"
  | .journalRecordInvalid => "journal-record-invalid"
  | .durableGrowthExceeded => "durable-growth-exceeded"
  | .cancelled => "cancelled"
  | .shuttingDown => "shutting-down"
  | .queueFull => "queue-full"
  | .workerFailed => "worker-failed"
  | .timeout => "timeout"
  | .ioError => "io-error"
  | .notConnected => "not-connected"
  | .connectionClosed => "connection-closed"
  | .alreadyStarted => "already-started"
  | .notStarted => "not-started"
  | .internal => "internal"

/-- A refusal: every failure carries a code other than `Ok` and a detail text. -/
structure Failure where
  code : ErrorCode
  detail : String
  deriving DecidableEq

def Failure.text (f : Failure) : String :=
  if f.detail.isEmpty then f.code.text else f.code.text ++ ": " ++ f.detail

abbrev Result (α : Type) := Except Failure α

abbrev Status := Result Unit

def Status.failure {α : Type} (code : ErrorCode) (detail : String) : Result α := .error ⟨code, detail⟩

def kPpmScale : UInt64 := 1000000

def kUInt64Max : UInt64 := UInt64.ofNat (2 ^ 64 - 1)

def kUInt32Max : UInt32 := UInt32.ofNat (2 ^ 32 - 1)

def addOk (a b : UInt64) : Option UInt64 := if kUInt64Max - b < a then none else some (a + b)

def mulOk (a b : UInt64) : Option UInt64 :=
  if a ≠ 0 ∧ kUInt64Max / a < b then none else some (a * b)

def satAdd (a b : UInt64) : UInt64 := (addOk a b).getD kUInt64Max

/-- `part / whole` in parts per million, saturated at the largest 32-bit value. The overflow
branch of the source works in `long double`; its quotient is at most about `10 ^ 6` however it is
rounded, and is then divided by `whole` once more. -/
def ratioPpm (part whole : UInt64) : Option UInt32 :=
  if whole = 0 then none
  else
    let q := part / whole
    if q ≥ kUInt32Max.toUInt64 then some kUInt32Max
    else
      let rem := part % whole
      let scaled := (mulOk rem kPpmScale).getD
        (UInt64.ofNat (rem.toNat * kPpmScale.toNat / whole.toNat))
      let total := q * kPpmScale + scaled / whole
      if total > kUInt32Max.toUInt64 then some kUInt32Max else some total.toUInt32

abbrev Millis := Int64

def kNoTime : Millis := Int64.minValue

def kMaxTime : Millis := Int64.maxValue

/-- Elapsed milliseconds, saturating instead of wrapping. -/
def elapsedMs (start stop : Millis) : Millis :=
  if start = kNoTime ∨ stop = kNoTime then 0
  else if stop ≤ start then 0
  else
    let delta := stop.toUInt64 - start.toUInt64
    if delta > kMaxTime.toUInt64 then kMaxTime else delta.toInt64

/-- Age of an observation. A missing observation, or one stamped in the future, is maximally old. -/
def ageMs (observed now : Millis) : Millis :=
  if observed = kNoTime ∨ now = kNoTime then kMaxTime
  else if now < observed then kMaxTime
  else
    let delta := now.toUInt64 - observed.toUInt64
    if delta ≥ kMaxTime.toUInt64 then kMaxTime else delta.toInt64

def millis (duration : UInt32) : Millis := duration.toUInt64.toInt64

theorem toInt_eq (x : Millis) :
    x.toInt = if x.toUInt64.toNat < 2 ^ 63 then (x.toUInt64.toNat : ℤ) else x.toUInt64.toNat - 2 ^ 64 := by
  have h := BitVec.toInt_eq_toNat_cond x.toBitVec
  have hx : x.toUInt64.toNat = x.toBitVec.toNat := rfl
  have hi : x.toInt = x.toBitVec.toInt := rfl
  rw [hx, hi, h]
  split <;> split <;> omega

theorem elapsedMs_toInt {start stop : Millis} (hs : start ≠ kNoTime) (he : stop ≠ kNoTime) :
    (elapsedMs start stop).toInt = min (max 0 (stop.toInt - start.toInt)) (2 ^ 63 - 1) := by
  have h₁ := toInt_eq start
  have h₂ := toInt_eq stop
  have hb₁ := start.toUInt64.toNat_lt
  have hb₂ := stop.toUInt64.toNat_lt
  unfold elapsedMs
  rw [if_neg (by simp [hs, he])]
  by_cases hle : stop ≤ start
  · rw [if_pos hle]
    rw [Int64.le_iff_toInt_le] at hle
    simp
    omega
  · rw [if_neg hle]
    rw [Int64.le_iff_toInt_le] at hle
    have hd : (stop.toUInt64 - start.toUInt64).toNat = (stop.toInt - start.toInt).toNat := by
      rw [UInt64.toNat_sub]
      split at h₁ <;> split at h₂ <;> omega
    have hm : kMaxTime.toUInt64.toNat = 2 ^ 63 - 1 := rfl
    dsimp only
    by_cases hgt : stop.toUInt64 - start.toUInt64 > kMaxTime.toUInt64
    · rw [if_pos hgt]
      rw [gt_iff_lt, UInt64.lt_iff_toNat_lt, hd, hm] at hgt
      have : kMaxTime.toInt = 2 ^ 63 - 1 := rfl
      rw [this]
      omega
    · rw [if_neg hgt]
      rw [gt_iff_lt, UInt64.lt_iff_toNat_lt, hd, hm] at hgt
      have h₃ := toInt_eq (stop.toUInt64 - start.toUInt64).toInt64
      rw [UInt64.toUInt64_toInt64, hd] at h₃
      rw [h₃]
      split <;> omega

theorem elapsedMs_anti {start start' : Millis} (stop : Millis) (hs : start ≠ kNoTime)
    (hle : start ≤ start') : elapsedMs start' stop ≤ elapsedMs start stop := by
  have hs' : start' ≠ kNoTime := by
    rintro rfl
    apply hs
    have hmin := Int64.minValue_le_toInt start
    rw [Int64.le_iff_toInt_le] at hle
    exact Int64.toInt_inj.mp (Int.le_antisymm hle hmin)
  by_cases he : stop = kNoTime
  · simp [elapsedMs, he]
  · rw [Int64.le_iff_toInt_le] at hle ⊢
    rw [elapsedMs_toInt hs he, elapsedMs_toInt hs' he]
    omega

theorem millis_toInt (d : UInt32) : (millis d).toInt = d.toNat := by
  have h := toInt_eq (millis d)
  have hd := d.toNat_lt
  rw [millis, UInt64.toUInt64_toInt64, UInt32.toNat_toUInt64] at h
  rw [millis, h, if_pos (by omega)]

theorem ageMs_noTime (observed : Millis) : ageMs observed kNoTime = kMaxTime := by
  simp [ageMs]

end HotspotGovernor.Foundation
