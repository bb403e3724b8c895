import HotspotGovernor.Durability
import Mathlib.Algebra.Order.BigOperators.Group.List

namespace HotspotGovernor.Recoverable

open Foundation ByteIo Framing Codec Durable Journal Storage Durability Lib.Volume Lib.Procedures

variable {s s' : Store} {state : DurableState} {records : List JournalRecord}

theorem decodes_hotspot {hotspot : DurableHotspot} (h : hotspot.key.length ≤ Limits.kMaxTextBytes) :
    Decodes decodeHotspot (encodeHotspot hotspot) hotspot := by
  intro rest
  unfold decodeHotspot encodeHotspot
  simp only [List.append_assoc]
  rw [bind_ok (field_u64 _ _ _ _), bind_ok (field_text _ _ _ h (by decide)), bind_ok (field_u8 _ _ _ _),
    bind_ok (field_u8 _ _ _ _), bind_ok (field_u8 _ _ _ _), bind_ok (field_i64 _ _ _ _),
    bind_ok (field_i64 _ _ _ _), bind_ok (field_u64 _ _ _ _)]
  rfl

theorem decodes_intervention (intervention : DurableIntervention) :
    Decodes decodeIntervention (encodeIntervention intervention) intervention := by
  intro rest
  unfold decodeIntervention encodeIntervention
  simp only [List.append_assoc]
  rw [bind_ok (field_u64 _ _ _ _), bind_ok (field_u8 _ _ _ _), bind_ok (field_u64 _ _ _ _),
    bind_ok (field_i64 _ _ _ _), bind_ok (field_u32 _ _ _ _), bind_ok (field_bool _ _ _ _), flag_ne_zero]
  rfl

theorem decodes_history {α : Type} (entry : Decoder α) {encode : α → Bytes} {entries : List α} {limit : ℕ}
    (truncated overflow : String) (h : ∀ x ∈ entries, Decodes entry (encode x) x)
    (hlen : entries.length ≤ limit) (hlimit : limit < 2 ^ 32) :
    Decodes (decodeHistory truncated limit overflow entry)
      (putCount entries.length ++ entries.flatMap encode) entries := by
  intro rest
  have hn : (UInt32.ofNat entries.length).toNat = entries.length := by
    rw [UInt32.toNat_ofNat']
    omega
  have hread := Decodes.repeatField h rest
  unfold decodeHistory putCount
  rw [List.append_assoc, bind_ok (field_u32 _ _ _ _), hn, if_neg (by omega)]
  exact hread

structure Valid (state : DurableState) : Prop where
  hotspots : state.hotspots.length ≤ Limits.kMaxHotspots
  interventions : state.interventions.length ≤ Limits.kMaxHotspots * 4
  keys : ∀ hotspot ∈ state.hotspots, hotspot.key.length ≤ Limits.kMaxTextBytes

theorem valid_of_validateState (h : validateState state = .ok ()) : Valid state := by
  unfold validateState at h
  split at h
  · cases h
  split at h
  · cases h
  split at h
  · cases h
  next hhotspots hinterventions hkeys =>
  refine ⟨not_lt.mp hhotspots, not_lt.mp hinterventions, ?_⟩
  intro hotspot hmem
  simp only [List.any_eq_true, decide_eq_true_eq, not_exists, not_and] at hkeys
  exact not_lt.mp (hkeys hotspot hmem)

theorem decode_encode (h : Valid state) : decodeDurableState (encodeDurableState state) = .ok state := by
  have hhotspots := decodes_history decodeHotspot "durable hotspot count truncated"
    "durable hotspot count exceeds the bound" (fun x hx ↦ decodes_hotspot (h.keys x hx)) h.hotspots (by decide)
  have hinterventions := decodes_history decodeIntervention "durable intervention count truncated"
    "durable intervention count exceeds the bound" (fun x _ ↦ decodes_intervention x) h.interventions
    (by decide) []
  have hbytes : encodeDurableState state = putU32 state.formatVersion ++ (putU64 state.writtenByBoot.value ++
      (putU64 state.epoch.value ++ (putU64 state.evaluations ++ (putU64 state.journalSequence ++
      (putI64 state.writtenAt ++ ((putCount state.hotspots.length ++ state.hotspots.flatMap encodeHotspot) ++
      ((putCount state.interventions.length ++ state.interventions.flatMap encodeIntervention) ++
        []))))))) := by
    unfold encodeDurableState
    simp only [List.append_assoc, List.append_nil]
  have hread : stateDecoder (encodeDurableState state) = .ok (state, []) := by
    rw [hbytes]
    unfold stateDecoder
    rw [bind_ok (field_u32 _ _ _ _), bind_ok (field_u64 _ _ _ _), bind_ok (field_u64 _ _ _ _),
      bind_ok (field_u64 _ _ _ _), bind_ok (field_u64 _ _ _ _), bind_ok (field_i64 _ _ _ _),
      bind_ok (hhotspots _), bind_ok hinterventions]
    rfl
  unfold decodeDurableState decodeAll
  change (stateDecoder (encodeDurableState state)).map Prod.fst = _
  rw [hread]
  rfl

theorem length_flatMap_le {α : Type} {encode : α → Bytes} {entries : List α} {size : ℕ}
    (h : ∀ x ∈ entries, (encode x).length ≤ size) :
    (entries.flatMap encode).length ≤ entries.length * size := by
  rw [List.length_flatMap, ← List.length_map (fun x ↦ (encode x).length)]
  exact List.sum_le_card_nsmul _ _ (List.forall_mem_map.mpr h)

theorem length_encode_lt (h : Valid state) : (encodeDurableState state).length < 2 ^ 32 := by
  have hhotspots : (state.hotspots.flatMap encodeHotspot).length ≤ state.hotspots.length * 551 := by
    refine length_flatMap_le fun x hx ↦ ?_
    have hkey := h.keys x hx
    unfold Limits.kMaxTextBytes at hkey
    simp [encodeHotspot, putText, putCount, putU8]
    omega
  have hinterventions : (state.interventions.flatMap encodeIntervention).length ≤
      state.interventions.length * 30 := by
    refine length_flatMap_le fun x _ ↦ ?_
    simp [encodeIntervention, putBool, putU8]
  have hh := h.hotspots
  have hi := h.interventions
  unfold Limits.kMaxHotspots at hh hi
  unfold encodeDurableState
  simp only [List.length_append, length_putU32, length_putU64, length_putI64, putCount]
  omega

@[simp] theorem length_encodeSnapshotFields (body : Bytes) :
    (encodeSnapshotFields body).length = kSnapshotHeaderBytes - 8 := by
  simp [encodeSnapshotFields, putCount, kSnapshotHeaderBytes]

@[simp] theorem length_frameSnapshot (state : DurableState) :
    (frameSnapshot state).length = kSnapshotHeaderBytes + (encodeDurableState state).length := by
  simp [frameSnapshot, kSnapshotHeaderBytes]
  omega

theorem snapshotHeader_append (body rest : Bytes) :
    snapshotHeaderDecoder (encodeSnapshotFields body ++ putU64 (crc64 (encodeSnapshotFields body)) ++ rest) =
      .ok (⟨kSnapshotMagic, kDurableFormatVersion, UInt32.ofNat body.length, crc64 body,
        crc64 (encodeSnapshotFields body)⟩, rest) := by
  generalize hcrc : crc64 (encodeSnapshotFields body) = crc
  simp only [snapshotHeaderDecoder, encodeSnapshotFields, putCount, List.append_assoc]
  rw [bind_ok (field_u32 _ _ _ _), bind_ok (field_u32 _ _ _ _), bind_ok (field_u32 _ _ _ _),
    bind_ok (field_u32 _ _ _ _), bind_ok (field_u64 _ _ _ _), bind_ok (field_u64 _ _ _ _)]
  rfl

theorem snapshotHeader_frame (state : DurableState) : snapshotHeaderDecoder (frameSnapshot state) =
    .ok (⟨kSnapshotMagic, kDurableFormatVersion, UInt32.ofNat (encodeDurableState state).length,
      crc64 (encodeDurableState state), crc64 (encodeSnapshotFields (encodeDurableState state))⟩,
      encodeDurableState state) :=
  snapshotHeader_append _ _

theorem checkSnapshot_frame (h : Valid state) : checkSnapshot (frameSnapshot state)
    ⟨kSnapshotMagic, kDurableFormatVersion, UInt32.ofNat (encodeDurableState state).length,
      crc64 (encodeDurableState state), crc64 (encodeSnapshotFields (encodeDurableState state))⟩ =
    { state := .ok state, bytes := (frameSnapshot state).length } := by
  have hhead : (frameSnapshot state).take (kSnapshotHeaderBytes - 8) =
      encodeSnapshotFields (encodeDurableState state) := by
    rw [← length_encodeSnapshotFields (encodeDurableState state), frameSnapshot, List.append_assoc]
    exact List.take_left
  have hbody : (frameSnapshot state).drop kSnapshotHeaderBytes = encodeDurableState state := by
    unfold frameSnapshot
    refine List.drop_left' ?_
    simp [kSnapshotHeaderBytes]
  have hlength : (UInt32.ofNat (encodeDurableState state).length).toNat =
      (frameSnapshot state).length - kSnapshotHeaderBytes := by
    have hlt := length_encode_lt h
    rw [UInt32.toNat_ofNat', length_frameSnapshot]
    omega
  unfold checkSnapshot
  dsimp only
  rw [hbody, hhead, if_neg (not_not.mpr rfl), if_neg (not_not.mpr rfl), if_neg (not_not.mpr rfl),
    if_neg (not_not.mpr hlength), if_neg (not_not.mpr rfl), decode_encode h]

theorem readSnapshot_frame (h : Valid state) {maxBytes : UInt64}
    (hsize : (frameSnapshot state).length ≤ maxBytes.toNat) :
    readSnapshot maxBytes (some (frameSnapshot state)) =
      { state := .ok state, bytes := (frameSnapshot state).length } := by
  unfold readSnapshot
  dsimp only
  rw [readFileAll_of_le hsize]
  dsimp only
  rw [if_neg (by simp), snapshotHeader_frame]
  exact checkSnapshot_frame h

theorem readSnapshot_long {content : Bytes} {maxBytes : UInt64} (h : content.length > maxBytes.toNat) :
    readSnapshot maxBytes (some content) =
      { state := Status.failure .durableGrowthExceeded "durable file exceeds the configured bound" } := by
  unfold readSnapshot
  dsimp only
  rw [readFileAll_of_gt h]
  rfl

theorem readSnapshot_bound {content : Bytes} {a b : UInt64} (ha : content.length ≤ a.toNat)
    (hb : content.length ≤ b.toNat) : readSnapshot a (some content) = readSnapshot b (some content) := by
  unfold readSnapshot
  dsimp only
  rw [readFileAll_of_le ha, readFileAll_of_le hb]

theorem recoverFrom_rejected {content : Bytes} {e : Failure} (hvisible : s.disk.snapshot.visible = some content)
    (hread : (readSnapshot s.config.maxBytes (some content)).state = .error e) :
    (recoverFrom s).recovered = false ∧ (recoverFrom s).lastEpoch = default := by
  unfold recoverFrom
  rw [hvisible]
  dsimp only
  rw [hread]
  exact ⟨rfl, rfl⟩

theorem recoverFrom_accepted {content : Bytes} (hvisible : s.disk.snapshot.visible = some content)
    (hread : (readSnapshot s.config.maxBytes (some content)).state = .ok state)
    (hreplay : replay s.disk.journal.visible s.config = .ok records) :
    recoverFrom s = replayOnto state (readSnapshot s.config.maxBytes (some content)).bytes s.journal.report
      records := by
  unfold recoverFrom
  rw [hvisible]
  dsimp only
  rw [hread, hreplay]

theorem lastEpoch_applyRecord (r : RecoveredState) (record : JournalRecord) :
    r.lastEpoch ≤ (applyRecord r record).lastEpoch ∧
      ∀ epoch, recordEpoch record = some epoch → epoch ≤ (applyRecord r record).lastEpoch := by
  unfold applyRecord
  dsimp only
  cases recordEpoch record with
  | none => exact ⟨le_rfl, by simp⟩
  | some epoch =>
    dsimp only
    split
    · next hlt => exact ⟨hlt.le, by simp⟩
    · next hge => exact ⟨le_rfl, by simpa using hge⟩

theorem lastEpoch_foldl (records : List JournalRecord) (r : RecoveredState) :
    r.lastEpoch ≤ (records.foldl applyRecord r).lastEpoch ∧
      ∀ record ∈ records, ∀ epoch, recordEpoch record = some epoch →
        epoch ≤ (records.foldl applyRecord r).lastEpoch := by
  induction records generalizing r with
  | nil => exact ⟨le_rfl, by simp⟩
  | cons first records ih =>
    obtain ⟨hkept, hraised⟩ := lastEpoch_applyRecord r first
    obtain ⟨hmono, hall⟩ := ih (applyRecord r first)
    refine ⟨hkept.trans hmono, ?_⟩
    intro record hmem epoch hepoch
    rcases List.mem_cons.mp hmem with rfl | hmem
    · exact (hraised epoch hepoch).trans hmono
    · exact hall record hmem epoch hepoch

theorem epoch_le_recoverFrom {content : Bytes} (hvisible : s.disk.snapshot.visible = some content)
    (hread : (readSnapshot s.config.maxBytes (some content)).state = .ok state) :
    state.epoch ≤ (recoverFrom s).lastEpoch := by
  unfold recoverFrom
  rw [hvisible]
  dsimp only
  rw [hread]
  cases replay s.disk.journal.visible s.config with
  | error e => exact le_rfl
  | ok records => exact (lastEpoch_foldl _ (restored state _)).1

def reopened (s : Store) : Store := { config := s.config, disk := s.disk }

def RecoversTo (s : Store) (state : DurableState) : Prop :=
  (call openStore s).1 = .ok () ∧ ∃ r, (call recover (call openStore s).2).1 = .ok r ∧
    r.recovered = true ∧ r.state = state

/-- The next object on the directory of a commit: it opens, under the same bound, over the committed
snapshot and an empty journal. -/
theorem open_after_commit (h : call (commit state records) s = (.ok (), s')) : ∃ opened,
    call openStore (reopened s') = (.ok (), opened) ∧ opened.opened = true ∧
    opened.config.maxBytes = s.config.maxBytes ∧
    opened.disk.snapshot.visible = some (frameSnapshot state) ∧ opened.disk.journal.visible = some [] := by
  obtain ⟨-, -, hjournal⟩ := commit_ok h
  have hvisible := commit_visible h
  have hconfig : s'.config = s.config := by
    have hkept := commit_keeps state records s
    rw [h] at hkept
    exact congrArg Prod.fst hkept
  have hnone : ∀ r ∈ ([] : List JournalRecord), Bounded r := by simp
  obtain ⟨opened, hopen, hopened, hfile⟩ := openStore_whole (s := reopened s') ⟨rfl, rfl⟩ hnone
    (congrArg File.visible hjournal) (Nat.zero_le _)
  have hkept := openStore_keeps (reopened s')
  rw [hopen] at hkept
  obtain ⟨hopenedConfig, hopenedSnapshot⟩ := Prod.mk.inj hkept
  refine ⟨opened, hopen, hopened, ?_, ?_, ?_⟩
  · rw [hopenedConfig, ← hconfig]
    rfl
  · rw [hopenedSnapshot]
    exact hvisible
  · rw [hfile]
    exact congrArg File.visible hjournal

theorem not_recoversTo_of_long (h : call (commit state records) s = (.ok (), s'))
    (hlong : (encodeDurableState state).length + kSnapshotHeaderBytes > s.config.maxBytes.toNat) :
    ¬ RecoversTo (reopened s') state := by
  obtain ⟨opened, hopen, hopened, hbound, hvisible, -⟩ := open_after_commit h
  unfold RecoversTo
  rw [hopen, call_recover hopened]
  rintro ⟨-, r, hr, hrecovered, -⟩
  have hsize : (frameSnapshot state).length > opened.config.maxBytes.toNat := by
    rw [hbound, length_frameSnapshot]
    omega
  have hread := congrArg SnapshotRead.state (readSnapshot_long hsize)
  obtain ⟨hlost, -⟩ := recoverFrom_rejected hvisible hread
  rw [← Except.ok.inj hr, hlost] at hrecovered
  cases hrecovered

theorem replay_empty (config : StoreConfig) : replay (some []) config = .ok [] := by
  unfold replay
  dsimp only
  rw [readFileAll_of_le (Nat.zero_le _)]
  cases config.maxJournalRecords <;> rfl

theorem recoversTo_of_fits (h : call (commit state records) s = (.ok (), s'))
    (hfits : (encodeDurableState state).length + kSnapshotHeaderBytes ≤ s.config.maxBytes.toNat) :
    RecoversTo (reopened s') state := by
  obtain ⟨opened, hopen, hopened, hbound, hvisible, hempty⟩ := open_after_commit h
  have hvalid := valid_of_validateState (commit_ok h).1
  have hsize : (frameSnapshot state).length ≤ opened.config.maxBytes.toNat := by
    rw [hbound, length_frameSnapshot]
    omega
  have hread := congrArg SnapshotRead.state (readSnapshot_frame hvalid hsize)
  have hreplay : replay opened.disk.journal.visible opened.config = .ok [] := by
    rw [hempty, replay_empty]
  have hrecovered := recoverFrom_accepted hvisible hread hreplay
  unfold RecoversTo
  rw [hopen, call_recover hopened]
  refine ⟨rfl, recoverFrom opened, rfl, ?_, ?_⟩
  · rw [hrecovered]
    rfl
  · rw [hrecovered]
    rfl

/-- A commit that succeeded is recovered exactly when its snapshot, header included, fits the bound:
the writer holds only the body against it. -/
theorem commit_recoverable_iff (h : call (commit state records) s = (.ok (), s')) :
    RecoversTo (reopened s') state ↔
      (encodeDurableState state).length + kSnapshotHeaderBytes ≤ s.config.maxBytes.toNat := by
  constructor
  · intro hrecovers
    by_contra hlong
    exact not_recoversTo_of_long h (not_le.mp hlong) hrecovers
  · exact recoversTo_of_fits h

/-- A store on an empty directory that may grow to this many bytes. -/
def emptyStore (maxBytes : UInt64) : Store := (call openStore { config := { maxBytes } }).2

/-- Sixty bytes hold the body of an empty state, but not the file around it. -/
theorem commit_unrecoverable : (call (commit {} []) (emptyStore 60)).1 = .ok () ∧
    ¬ RecoversTo (reopened (call (commit {} []) (emptyStore 60)).2) {} := by
  have hcommit : call (commit {} []) (emptyStore 60) = (.ok (), (call (commit {} []) (emptyStore 60)).2) := rfl
  exact ⟨congrArg Prod.fst hcommit, not_recoversTo_of_long hcommit (by decide)⟩

def history : DurableState :=
  { epoch := ⟨3⟩
    evaluations := 7
    writtenByBoot := ⟨2⟩
    hotspots :=
      [{ id := ⟨11⟩, key := [0x71, 0x34], severity := 2, persistenceMs := 5000, resourceCount := 2 },
        { id := ⟨12⟩, key := [0x6c, 0x39], lastObserved := 40, resourceCount := 1 }]
    interventions := [{ id := ⟨21⟩, kind := 1, hotspot := ⟨11⟩, at_ := 45, scopeSharePpm := 250000 }] }

def historyRecords : List JournalRecord :=
  [{ type := .epochAdvance, at_ := 44, payload := putU64 3 }, { type := .evaluationCheckpoint, at_ := 45 }]

def usedStore : Store :=
  { disk := ⟨.settled (some []), .settled (some (frameSnapshot { epoch := ⟨2⟩ })), .settled none⟩
    journal := { lastSequence := 1, isOpen := true }
    opened := true }

set_option maxRecDepth 8000 in
theorem commit_history : call (commit history historyRecords) usedStore =
    (.ok (), (call (commit history historyRecords) usedStore).2) := rfl

set_option maxRecDepth 8000 in
theorem history_recoverable : RecoversTo (reopened (call (commit history historyRecords) usedStore).2) history :=
  (commit_recoverable_iff commit_history).mpr (by decide)

end HotspotGovernor.Recoverable
