import HotspotGovernor.Journal
import HotspotGovernor.Lib.Procedures
import HotspotGovernor.Lib.Volume

namespace HotspotGovernor.Storage

open Foundation ByteIo Framing Durable Journal Lib.Volume Lib.Procedures

def kSnapshotMagic : UInt32 := 0x31534748

def kSnapshotHeaderBytes : ℕ := 32

def validateState (state : DurableState) : Status :=
  if state.hotspots.length > Limits.kMaxHotspots then
    Status.failure .boundExceeded "durable hotspot history exceeds the bound"
  else if state.interventions.length > Limits.kMaxHotspots * 4 then
    Status.failure .boundExceeded "durable intervention history exceeds the bound"
  else if state.hotspots.any (fun hotspot ↦ hotspot.key.length > Limits.kMaxTextBytes) then
    Status.failure .boundExceeded "durable hotspot key exceeds the bound"
  else .ok ()

def encodeHotspot (hotspot : DurableHotspot) : Bytes :=
  putU64 hotspot.id.value ++ putText hotspot.key ++ putU8 hotspot.scope ++ putU8 hotspot.severity ++
  putU8 hotspot.cause ++ putI64 hotspot.persistenceMs ++ putI64 hotspot.lastObserved ++
  putU64 hotspot.resourceCount

def encodeIntervention (intervention : DurableIntervention) : Bytes :=
  putU64 intervention.id.value ++ putU8 intervention.kind ++ putU64 intervention.hotspot.value ++
  putI64 intervention.at_ ++ putU32 intervention.scopeSharePpm ++ putBool intervention.escalation

def encodeDurableState (state : DurableState) : Bytes :=
  putU32 state.formatVersion ++ putU64 state.writtenByBoot.value ++ putU64 state.epoch.value ++
  putU64 state.evaluations ++ putU64 state.journalSequence ++ putI64 state.writtenAt ++
  putCount state.hotspots.length ++ state.hotspots.flatMap encodeHotspot ++
  putCount state.interventions.length ++ state.interventions.flatMap encodeIntervention

def decodeHotspot : Decoder DurableHotspot := do
  let truncated := "durable hotspot entry truncated"
  let id ← field readU64 .persistenceTruncated truncated
  let key ← field (readText Limits.kMaxTextBytes) .persistenceTruncated truncated
  let scope ← field readU8 .persistenceTruncated truncated
  let severity ← field readU8 .persistenceTruncated truncated
  let cause ← field readU8 .persistenceTruncated truncated
  let persistenceMs ← field readI64 .persistenceTruncated truncated
  let lastObserved ← field readI64 .persistenceTruncated truncated
  let resourceCount ← field readU64 .persistenceTruncated truncated
  return { id := ⟨id⟩, key, scope, severity, cause, persistenceMs, lastObserved, resourceCount }

def decodeIntervention : Decoder DurableIntervention := do
  let truncated := "durable intervention entry truncated"
  let id ← field readU64 .persistenceTruncated truncated
  let kind ← field readU8 .persistenceTruncated truncated
  let hotspot ← field readU64 .persistenceTruncated truncated
  let at_ ← field readI64 .persistenceTruncated truncated
  let scopeSharePpm ← field readU32 .persistenceTruncated truncated
  let escalation ← field readU8 .persistenceTruncated truncated
  return { id := ⟨id⟩, kind, hotspot := ⟨hotspot⟩, at_, scopeSharePpm, escalation := escalation ≠ 0 }

def decodeHistory {α : Type} (truncated : String) (limit : ℕ) (overflow : String) (entry : Decoder α) :
    Decoder (List α) := do
  let count ← field readU32 .persistenceTruncated truncated
  if count.toNat > limit then
    throw ⟨.persistenceCorrupt, overflow⟩
  repeatField entry count.toNat

def requireStateEnd : Decoder Unit := fun bytes ↦
  if bytes.isEmpty then .ok ((), bytes)
  else Status.failure .persistenceCorrupt "durable state has trailing bytes"

def stateDecoder : Decoder DurableState := do
  let truncated := "durable state header truncated"
  let formatVersion ← field readU32 .persistenceTruncated truncated
  let boot ← field readU64 .persistenceTruncated truncated
  let epoch ← field readU64 .persistenceTruncated truncated
  let evaluations ← field readU64 .persistenceTruncated truncated
  let journalSequence ← field readU64 .persistenceTruncated truncated
  let writtenAt ← field readI64 .persistenceTruncated truncated
  let hotspots ← decodeHistory "durable hotspot count truncated" Limits.kMaxHotspots
    "durable hotspot count exceeds the bound" decodeHotspot
  let interventions ← decodeHistory "durable intervention count truncated" (Limits.kMaxHotspots * 4)
    "durable intervention count exceeds the bound" decodeIntervention
  requireStateEnd
  return { formatVersion, evaluations, journalSequence, writtenAt, hotspots, interventions
           writtenByBoot := ⟨boot⟩, epoch := ⟨epoch⟩ }

def decodeDurableState (bytes : Bytes) : Result DurableState := decodeAll stateDecoder bytes

def encodeSnapshotFields (body : Bytes) : Bytes :=
  putU32 kSnapshotMagic ++ putU32 kDurableFormatVersion ++ putCount body.length ++ putU32 0 ++
  putU64 (crc64 body)

def frameSnapshot (state : DurableState) : Bytes :=
  let body := encodeDurableState state
  encodeSnapshotFields body ++ putU64 (crc64 (encodeSnapshotFields body)) ++ body

/-- The outcome of reading a snapshot, the bytes that were read and how many of them are discarded. -/
structure SnapshotRead where
  state : Result DurableState
  bytes : ℕ := 0
  discardedTail : ℕ := 0

structure SnapshotHeader where
  magic : UInt32
  version : UInt32
  bodyLength : UInt32
  bodyCrc : UInt64
  headerCrc : UInt64

def snapshotHeaderDecoder : Decoder SnapshotHeader := do
  let undecoded := "snapshot header could not be decoded"
  let magic ← field readU32 .persistenceTruncated undecoded
  let version ← field readU32 .persistenceTruncated undecoded
  let bodyLength ← field readU32 .persistenceTruncated undecoded
  let _ ← field readU32 .persistenceTruncated undecoded
  let bodyCrc ← field readU64 .persistenceTruncated undecoded
  let headerCrc ← field readU64 .persistenceTruncated undecoded
  return { magic, version, bodyLength, bodyCrc, headerCrc }

def readFileAll (bytes : Bytes) (maxBytes : UInt64) : Result Bytes :=
  if bytes.length > maxBytes.toNat then
    Status.failure .durableGrowthExceeded "durable file exceeds the configured bound"
  else .ok bytes

def checkSnapshot (bytes : Bytes) (header : SnapshotHeader) : SnapshotRead :=
  let body := bytes.drop kSnapshotHeaderBytes
  if header.magic ≠ kSnapshotMagic then
    { state := Status.failure .persistenceCorrupt "snapshot magic does not match", bytes := bytes.length }
  else if header.version ≠ kDurableFormatVersion then
    { state := Status.failure .persistenceVersionUnsupported
        ("durable format version " ++ toString header.version.toNat ++ " is not supported")
      bytes := bytes.length }
  else if header.headerCrc ≠ crc64 (bytes.take (kSnapshotHeaderBytes - 8)) then
    { state := Status.failure .persistenceCorrupt "snapshot header CRC does not match"
      bytes := bytes.length }
  else if header.bodyLength.toNat ≠ bytes.length - kSnapshotHeaderBytes then
    { state := Status.failure .persistenceTruncated "snapshot body length does not match"
      bytes := bytes.length
      discardedTail := bytes.length }
  else if crc64 body ≠ header.bodyCrc then
    { state := Status.failure .persistenceCorrupt "snapshot body CRC does not match"
      bytes := bytes.length }
  else { state := decodeDurableState body, bytes := bytes.length }

def readSnapshot (maxBytes : UInt64) (file : Option Bytes) : SnapshotRead :=
  match file with
  | none => { state := Status.failure .missingEvidence "no durable snapshot present" }
  | some content =>
    match readFileAll content maxBytes with
    | .error e => { state := .error e }
    | .ok bytes =>
      if bytes.length < kSnapshotHeaderBytes then
        { state := Status.failure .persistenceTruncated "snapshot header is incomplete"
          bytes := bytes.length
          discardedTail := bytes.length }
      else match snapshotHeaderDecoder bytes with
        | .error e => { state := .error e, bytes := bytes.length, discardedTail := bytes.length }
        | .ok (header, _) => checkSnapshot bytes header

/-- The three files of a store: journal.log, state.bin and state.bin.tmp. -/
structure Disk where
  journal : File UInt8 := .settled none
  snapshot : File UInt8 := .settled none
  temp : File UInt8 := .settled none

namespace Disk

def onJournal (change : File UInt8 → File UInt8) (disk : Disk) : Disk :=
  { disk with journal := change disk.journal }

def onTemp (change : File UInt8 → File UInt8) (disk : Disk) : Disk := { disk with temp := change disk.temp }

def rename (disk : Disk) : Disk :=
  { disk with snapshot := disk.snapshot.replaceBy disk.temp, temp := disk.temp.remove }

def syncDirectory (disk : Disk) : Disk :=
  { disk with snapshot := disk.snapshot.sync, temp := disk.temp.sync }

end Disk

structure JournalState where
  bytes : ℕ := 0
  lastSequence : Sequence := 0
  isOpen : Bool := false
  report : JournalOpenReport := {}

/-- A store object, the directory it works on, how many more accesses the machine lives to make (without a
number, all of them), and which of the coming accesses whose outcome nobody looks at do nothing. -/
structure Store where
  config : StoreConfig := {}
  disk : Disk := {}
  power : Option ℕ := none
  journal : JournalState := {}
  opened : Bool := false
  lapses : List Bool := []

abbrev StoreM (α : Type) := Procedure Store Failure α

/-- One access that changes the directory. Once the power is gone, nothing is changed any more. -/
def access (failure : String) (change : Disk → Disk) : StoreM Unit := fun s ↦
  match s.power with
  | none => (.ok (), { s with disk := change s.disk })
  | some 0 => (Status.failure .persistenceIoError failure, s)
  | some (n + 1) => (.ok (), { s with disk := change s.disk, power := some n })

/-- An access that the call goes on after, whatever became of it. -/
def unchecked (failure : String) (change : Disk → Disk) : StoreM Unit := do
  let s ← get
  modify (fun s ↦ { s with lapses := s.lapses.tail })
  if s.lapses.headD false then pure () else attempt (access failure change)

/-- Rewrite a file and sync it; what the sync reports is ignored. -/
def writeFileAll (on : (File UInt8 → File UInt8) → Disk → Disk) (bytes : Bytes) : StoreM Unit := do
  access "could not open file for writing" (on (·.write bytes))
  unchecked "durability barrier failed" (on File.sync)

def appendFileAll (bytes : Bytes) : StoreM Unit :=
  access "could not open file for appending" (Disk.onJournal (·.append bytes))

def fsyncFile (on : (File UInt8 → File UInt8) → Disk → Disk) (file : Disk → File UInt8) : StoreM Unit := do
  let s ← get
  refuseIf (file s.disk).visible.isNone
    ⟨.persistenceIoError, "could not open file for the durability barrier"⟩
  access "durability barrier failed" (on File.sync)

/-- The rename and then the sync of the directory, whose outcome is ignored. -/
def atomicReplace : StoreM Unit := do
  access "atomic replace failed" Disk.rename
  unchecked "durability barrier failed" Disk.syncDirectory

namespace JournalState

def readBytes : StoreM Bytes := do
  let s ← get
  match s.disk.journal.visible with
  | some content => lift (readFileAll content s.config.maxBytes)
  | none =>
    writeFileAll Disk.onJournal []
    return []

def cutTail (report : JournalOpenReport) : StoreM Unit :=
  if report.truncatedTail then
    access "could not truncate file" (Disk.onJournal (·.truncate report.validBytes))
  else pure ()

def openJournal : StoreM Unit := do
  let s ← get
  refuseIf s.journal.isOpen ⟨.alreadyStarted, "journal is already open"⟩
  let bytes ← readBytes
  modify (fun s ↦ { s with journal := { s.journal with report := openReport bytes } })
  cutTail (openReport bytes)
  modify (fun s ↦ { s with
    journal :=
      { report := openReport bytes
        bytes := (openReport bytes).validBytes
        lastSequence := (openReport bytes).lastSequence
        isOpen := true } })

def append (record : JournalRecord) : StoreM Unit := do
  let s ← get
  refuseIf (!s.journal.isOpen) ⟨.notStarted, "journal is not open"⟩
  refuseIf (record.payload.length > Limits.kMaxJournalRecordBytes)
    ⟨.boundExceeded, "journal record exceeds the bound"⟩
  let encoded := encodeJournalRecord { record with sequence := s.journal.lastSequence + 1 }
  refuseIf (s.journal.bytes + encoded.length > s.config.maxBytes.toNat)
    ⟨.durableGrowthExceeded, "journal would exceed its configured bound"⟩
  appendFileAll encoded
  modify (fun s ↦ { s with
    journal := { s.journal with
      bytes := s.journal.bytes + encoded.length, lastSequence := s.journal.lastSequence + 1 } })

def sync : StoreM Unit := do
  let s ← get
  refuseIf (!s.journal.isOpen) ⟨.notStarted, "journal is not open"⟩
  fsyncFile Disk.onJournal Disk.journal

def reset : StoreM Unit := do
  let s ← get
  refuseIf (!s.journal.isOpen) ⟨.notStarted, "journal is not open"⟩
  writeFileAll Disk.onJournal []
  modify (fun s ↦ { s with journal := { s.journal with bytes := 0 } })

def closeJournal : StoreM Unit := do
  let s ← get
  if s.journal.isOpen then modify (fun s ↦ { s with journal := { s.journal with isOpen := false } })

end JournalState

def replay (file : Option Bytes) (config : StoreConfig) : Result (List JournalRecord) :=
  match file with
  | none => .ok []
  | some content => (readFileAll content config.maxBytes).map
      (fun bytes ↦ (scanRecords config.maxJournalRecords bytes).1)

/-- A leftover temporary snapshot is discarded rather than trusted. -/
def discardTemp : StoreM Unit := do
  let s ← get
  if s.disk.temp.visible.isSome then
    unchecked "could not remove file" (Disk.onTemp File.remove)
  else pure ()

def openStore : StoreM Unit := do
  let s ← get
  refuseIf s.opened ⟨.alreadyStarted, "store is already open"⟩
  JournalState.openJournal
  discardTemp
  modify (fun s ↦ { s with opened := true })

def closeStore : StoreM Unit := do
  let s ← get
  if s.opened then
    JournalState.closeJournal
    modify (fun s ↦ { s with opened := false })

def writeSnapshot (state : DurableState) : StoreM Unit := do
  let s ← get
  refuseIf ((encodeDurableState state).length > s.config.maxBytes.toNat)
    ⟨.durableGrowthExceeded, "snapshot exceeds the configured bound"⟩
  writeFileAll Disk.onTemp (frameSnapshot state)
  fsyncFile Disk.onTemp Disk.temp
  atomicReplace

def appendAll : List JournalRecord → StoreM Unit
  | [] => pure ()
  | record :: records => do
    JournalState.append record
    appendAll records

def journalIntent (records : List JournalRecord) : StoreM Unit := do
  appendAll records
  JournalState.sync

def retireJournal : StoreM Unit := do
  JournalState.reset
  JournalState.sync

def commit (state : DurableState) (records : List JournalRecord) : StoreM Unit := do
  let s ← get
  refuseIf (!s.opened) ⟨.notStarted, "store is not open"⟩
  lift (validateState state)
  journalIntent records
  writeSnapshot state
  retireJournal

def recordEpoch (record : JournalRecord) : Option CoordinatorEpoch :=
  if record.type = .epochAdvance ∧ record.payload.length ≥ 8 then
    (readU64 record.payload).map (fun read ↦ ⟨read.1⟩)
  else none

def applyRecord (recovered : RecoveredState) (record : JournalRecord) : RecoveredState :=
  { recovered with
    lastEpoch := match recordEpoch record with
      | some epoch => if recovered.lastEpoch < epoch then epoch else recovered.lastEpoch
      | none => recovered.lastEpoch
    notes := if record.type = .policyCommit then
        recovered.notes ++ ["policy from the journal requires revalidation"]
      else recovered.notes
    journalSequence := max recovered.journalSequence record.sequence
    appliedJournalRecords := recovered.appliedJournalRecords + 1 }

def uncovered (state : DurableState) (records : List JournalRecord) : List JournalRecord :=
  records.filter (fun record ↦ state.journalSequence < record.sequence)

def recoveryNotes : List String :=
  ["recovery restores durable configuration and committed history only",
    "publisher incarnations, leases, evidence freshness and worker authority are NOT restored"]

/-- A recovery that found a snapshot, before the journal is replayed on top of it. -/
def restored (state : DurableState) (snapshotBytes : ℕ) : RecoveredState :=
  { snapshotBytes
    formatVersion := state.formatVersion
    lastEpoch := state.epoch
    previousBoot := state.writtenByBoot
    writtenAt := state.writtenAt
    journalSequence := state.journalSequence
    discardedLiveAuthority := 5
    notes := recoveryNotes }

def replayOnto (state : DurableState) (snapshotBytes : ℕ) (report : JournalOpenReport)
    (records : List JournalRecord) : RecoveredState :=
  let r := (uncovered state records).foldl applyRecord (restored state snapshotBytes)
  { r with
    discardedTailBytes := report.discardedTailBytes
    notes := if report.discardedTailBytes > 0 then
        r.notes ++ ["a torn journal tail was discarded, not replayed"]
      else r.notes
    state := { state with journalSequence := r.journalSequence }
    recovered := true
    outcome := .ok () }

def unrecovered (outcome : Failure) (notes : List String) : RecoveredState :=
  { outcome := .error outcome
    formatVersion := kDurableFormatVersion
    discardedLiveAuthority := 5
    notes := recoveryNotes ++ notes }

def recoverFrom (s : Store) : RecoveredState :=
  match s.disk.snapshot.visible with
  | none =>
    unrecovered ⟨.missingEvidence, "no durable snapshot present"⟩ ["fresh boot: no durable state to recover"]
  | some content =>
    let read := readSnapshot s.config.maxBytes (some content)
    match read.state with
    | .error e =>
      { unrecovered e ["durable snapshot was rejected: " ++ e.text] with
        discardedTailBytes := read.discardedTail
        snapshotBytes := read.bytes
        formatSupported := e.code ≠ .persistenceVersionUnsupported }
    | .ok state =>
      match replay s.disk.journal.visible s.config with
      | .error e =>
        { restored state read.bytes with
          outcome := .error e
          notes := recoveryNotes ++ ["journal could not be read: " ++ e.text]
          state
          recovered := true }
      | .ok records => replayOnto state read.bytes s.journal.report records

def recover : StoreM RecoveredState := do
  let s ← get
  refuseIf (!s.opened) ⟨.notStarted, "store is not open"⟩
  return recoverFrom s

/-- The store that a governor is given. A new object keeps nothing but the directory. -/
def durableStore : StoreApi Store :=
  { attach := fun config s ↦ { config, disk := s.disk, power := s.power, lapses := s.lapses }
    openStore := call openStore
    recover := call recover
    commit := fun state records ↦ call (commit state records)
    journalSequence := fun s ↦ s.journal.lastSequence }

end HotspotGovernor.Storage
