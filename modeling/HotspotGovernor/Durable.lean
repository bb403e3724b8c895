import HotspotGovernor.Decisions

namespace HotspotGovernor.Durable

open Foundation ByteIo Evidence Detection Intervention

def kDurableFormatVersion : UInt32 := 1

/-- Scope, severity and cause are kept as the byte of their enumerator: a byte that comes back from
the disk need not name one. -/
structure DurableHotspot where
  id : HotspotId := default
  key : Bytes := []
  scope : UInt8 := 0
  severity : UInt8 := 0
  cause : UInt8 := 0
  persistenceMs : Millis := 0
  lastObserved : Millis := kNoTime
  resourceCount : UInt64 := 0
  deriving DecidableEq

structure DurableIntervention where
  id : InterventionId := default
  kind : UInt8 := 0
  hotspot : HotspotId := default
  at_ : Millis := kNoTime
  scopeSharePpm : UInt32 := 0
  escalation : Bool := false
  deriving DecidableEq

structure DurableState where
  formatVersion : UInt32 := 1
  writtenByBoot : BootId := default
  epoch : CoordinatorEpoch := default
  evaluations : UInt64 := 0
  journalSequence : Sequence := 0
  writtenAt : Millis := kNoTime
  hotspots : List DurableHotspot := []
  interventions : List DurableIntervention := []
  deriving DecidableEq

def severityByte : Severity → UInt8
  | .none => 0
  | .low => 1
  | .moderate => 2
  | .high => 3
  | .critical => 4

def kindByte : MitigationKind → UInt8
  | .none => 0
  | .flowRelocation => 1
  | .pathRebalance => 2
  | .admissionReduction => 3
  | .ratePacingChange => 4
  | .resourceIsolation => 5
  | .escalateGlobalCongestion => 6

/-- Record types. The journal carries any 32-bit code. -/
inductive JournalRecordType
  | unknown | bootRecord | epochAdvance | policyCommit | hotspotCommit | interventionCommit
  | evaluationCheckpoint | publisherDeath
  | unnamed (code : UInt32) (h : 7 < code)
  deriving DecidableEq

def JournalRecordType.code : JournalRecordType → UInt32
  | .unknown => 0
  | .bootRecord => 1
  | .epochAdvance => 2
  | .policyCommit => 3
  | .hotspotCommit => 4
  | .interventionCommit => 5
  | .evaluationCheckpoint => 6
  | .publisherDeath => 7
  | .unnamed code _ => code

def JournalRecordType.ofCode (code : UInt32) : JournalRecordType :=
  if h : 7 < code then .unnamed code h
  else if code = 1 then .bootRecord
  else if code = 2 then .epochAdvance
  else if code = 3 then .policyCommit
  else if code = 4 then .hotspotCommit
  else if code = 5 then .interventionCommit
  else if code = 6 then .evaluationCheckpoint
  else if code = 7 then .publisherDeath
  else .unknown

structure JournalRecord where
  type : JournalRecordType := .unknown
  sequence : Sequence := 0
  at_ : Millis := kNoTime
  payload : Bytes := []
  deriving DecidableEq

/-- What a recovery found. Publisher authority and evidence are never part of it. -/
structure RecoveredState where
  recovered : Bool := false
  formatSupported : Bool := true
  formatVersion : UInt32 := 0
  outcome : Status := .ok ()
  snapshotBytes : ℕ := 0
  discardedTailBytes : ℕ := 0
  appliedJournalRecords : ℕ := 0
  journalSequence : Sequence := 0
  lastEpoch : CoordinatorEpoch := default
  previousBoot : BootId := default
  writtenAt : Millis := kNoTime
  state : DurableState := {}
  discardedLiveAuthority : UInt32 := 0
  notes : List String := []

structure StoreConfig where
  maxBytes : UInt64 := UInt64.ofNat Limits.kMaxDurableBytes
  maxJournalRecords : ℕ := Limits.kMaxJournalRecords

/-- The operations of a durable store over everything it keeps, in memory and on disk. Each may
fail, and may leave something behind when it does. -/
structure StoreApi (σ : Type) where
  attach : StoreConfig → σ → σ
  openStore : σ → Status × σ
  recover : σ → Result RecoveredState × σ
  commit : DurableState → List JournalRecord → σ → Status × σ
  journalSequence : σ → Sequence

end HotspotGovernor.Durable
