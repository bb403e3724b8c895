import HotspotGovernor.Delimiting
import HotspotGovernor.Recoverable

namespace HotspotGovernor.Tails

open Foundation ByteIo Framing Durable Journal Storage Lib.Volume Lib.Procedures Durability Codec Delimiting

theorem scan_records_torn {records : List JournalRecord} (h : ∀ r ∈ records, Bounded r) {torn : Bytes}
    (htorn : decodeJournalRecord torn = none) {limit : ℕ} (hlimit : records.length ≤ limit) :
    scanRecords limit (encodeRecords records ++ torn) = (records, torn) := by
  have hfirst := scan_torn h htorn limit
  rw [List.take_of_length_le hlimit] at hfirst
  have hsplit := (scan_sound limit (encodeRecords records ++ torn)).1
  rw [hfirst] at hsplit
  exact Prod.ext hfirst (List.append_cancel_left hsplit).symm

theorem openReport_torn {records : List JournalRecord} (h : ∀ r ∈ records, Bounded r) {torn : Bytes}
    (htorn : decodeJournalRecord torn = none) : openReport (encodeRecords records ++ torn) =
      { validBytes := (encodeRecords records).length
        discardedTailBytes := torn.length
        records := records.length
        lastSequence := highestSequence records
        truncatedTail := !torn.isEmpty } := by
  have hlimit : records.length ≤ (encodeRecords records ++ torn).length := by
    rw [List.length_append]
    exact (length_le_encodeRecords records).trans (Nat.le_add_right _ _)
  unfold openReport
  rw [scan_records_torn h htorn hlimit]
  dsimp only
  rw [List.length_append, Nat.add_sub_cancel]

theorem highestSequence_append (records : List JournalRecord) (record : JournalRecord) :
    highestSequence (records ++ [record]) = max (highestSequence records) record.sequence := by
  rw [highestSequence, List.foldl_append]
  rfl

theorem max_sequence (a b : Sequence) : max a b = if a ≤ b then b else a := rfl

theorem le_highestSequence {records : List JournalRecord} {r : JournalRecord} (hr : r ∈ records) :
    r.sequence ≤ highestSequence records := by
  induction records using List.reverseRecOn with
  | nil => cases hr
  | append_singleton records record ih =>
    rw [highestSequence_append, max_sequence]
    rcases List.mem_append.mp hr with hr | hr
    · split
      · next hle => exact UInt64.le_trans (ih hr) hle
      · exact ih hr
    · rw [List.mem_singleton.mp hr]
      split
      · exact UInt64.le_refl _
      · next hlt => exact UInt64.le_of_lt (UInt64.not_le.mp hlt)

theorem exists_highestSequence (records : List JournalRecord) : highestSequence records = 0 ∨
    ∃ r ∈ records, r.sequence = highestSequence records := by
  induction records using List.reverseRecOn with
  | nil => exact .inl rfl
  | append_singleton records record ih =>
    rw [highestSequence_append, max_sequence]
    split
    · exact .inr ⟨record, by simp, rfl⟩
    · refine ih.imp id ?_
      rintro ⟨r, hr, hsequence⟩
      exact ⟨r, List.mem_append_left _ hr, hsequence⟩

/-- The sequence a journal goes on from is the highest one of its records, and 0 without records. -/
structure Highest (records : List JournalRecord) (last : Sequence) : Prop where
  bound : ∀ r ∈ records, r.sequence ≤ last
  reached : last = 0 ∨ ∃ r ∈ records, r.sequence = last

theorem highest_highestSequence (records : List JournalRecord) : Highest records (highestSequence records) :=
  ⟨fun _ hr ↦ le_highestSequence hr, exists_highestSequence records⟩

theorem openJournal_spec {s : Store} (hclosed : s.journal.isOpen = false) (hpower : s.power = none)
    {bytes : Bytes} (hfile : s.disk.journal.visible = some bytes)
    (hmax : bytes.length ≤ s.config.maxBytes.toNat) :
    ∃ s', call JournalState.openJournal s = (.ok (), s') ∧
      s'.journal =
        { report := openReport bytes
          bytes := (openReport bytes).validBytes
          lastSequence := (openReport bytes).lastSequence
          isOpen := true } ∧
      s'.disk.journal.visible = some (bytes.take (openReport bytes).validBytes) ∧
      s'.config = s.config ∧ s'.power = none := by
  have hread := readBytes_some hfile
  rw [readFileAll_of_le hmax] at hread
  have hopen := call_openJournal hclosed hread
  unfold JournalState.cutTail at hopen
  split at hopen
  · rw [call_bind_ok (call_access_live (by simp [hpower]) _ _), call_modify] at hopen
    refine ⟨_, hopen, rfl, ?_, rfl, ?_⟩
    · exact congrArg (Option.map (List.take (openReport bytes).validBytes)) hfile
    · exact congrArg spent hpower
  · next hwhole =>
    rw [pure_bind, call_modify] at hopen
    refine ⟨_, hopen, rfl, ?_, rfl, hpower⟩
    have hvalid : (openReport bytes).validBytes = bytes.length := by
      unfold openReport at hwhole ⊢
      simp only [Bool.not_eq_true, Bool.not_eq_false', List.isEmpty_iff] at hwhole
      simp [hwhole]
    rw [hvalid, List.take_length]
    exact hfile

/-- For all records and every strict part of one more: opening a journal file of these bytes keeps exactly
the records, cuts off the part and reports both, and a replay returns the records up to its limit. -/
theorem torn_tail_removed {s : Store} (hclosed : s.journal.isOpen = false) (hpower : s.power = none)
    {records : List JournalRecord} {record : JournalRecord} (hbound : ∀ r ∈ records, Bounded r)
    (hrecord : Bounded record) {torn : Bytes} (hleading : torn <+: encodeJournalRecord record)
    (hstrict : torn ≠ encodeJournalRecord record)
    (hfile : s.disk.journal.visible = some (encodeRecords records ++ torn))
    (hmax : (encodeRecords records ++ torn).length ≤ s.config.maxBytes.toNat) :
    ∃ s', call JournalState.openJournal s = (.ok (), s') ∧
      s'.journal.report =
        { validBytes := (encodeRecords records).length
          discardedTailBytes := torn.length
          records := records.length
          lastSequence := highestSequence records
          truncatedTail := !torn.isEmpty } ∧
      s'.journal.isOpen = true ∧ s'.journal.bytes = (encodeRecords records).length ∧
      s'.disk.journal.visible = some (encodeRecords records) ∧
      Highest records s'.journal.lastSequence ∧
      (∀ limit, replay s'.disk.journal.visible { s.config with maxJournalRecords := limit } =
        .ok (records.take limit)) ∧
      ∀ r, Bounded r → ∀ rest, decodeJournalRecord (encodeJournalRecord r ++ rest) = some (r, rest) := by
  have hreport := openReport_torn hbound (decode_torn hrecord hleading hstrict)
  obtain ⟨s', hopen, hjournal, hkept, -, -⟩ := openJournal_spec hclosed hpower hfile hmax
  rw [hreport] at hjournal hkept
  rw [List.take_left] at hkept
  refine ⟨s', hopen, ?_, ?_, ?_, hkept, ?_, ?_, fun r ↦ decode_encode⟩
  · rw [hjournal]
  · rw [hjournal]
  · rw [hjournal]
  · rw [hjournal]
    exact highest_highestSequence records
  · intro limit
    rw [List.length_append] at hmax
    rw [hkept]
    unfold replay
    dsimp only
    rw [readFileAll_of_le (by omega)]
    exact congrArg Except.ok (scan_encodeRecords hbound limit)

def bootRecord : JournalRecord := { type := .bootRecord, sequence := 7, at_ := 0, payload := [1, 2] }

def tornStore : Store :=
  { disk := { journal := .settled (some (encodeRecords [bootRecord] ++ (encodeJournalRecord bootRecord).take 20)) } }

theorem torn_record_removed : ∃ s', call JournalState.openJournal tornStore = (.ok (), s') ∧
    s'.disk.journal.visible = some (encodeRecords [bootRecord]) := by
  have hbound : Bounded bootRecord := Nat.le_of_ble_eq_true rfl
  obtain ⟨s', hopen, -, -, -, hfile, -⟩ := @torn_tail_removed tornStore rfl rfl [bootRecord] bootRecord
    (by simpa using hbound) hbound ((encodeJournalRecord bootRecord).take 20) (List.take_prefix _ _)
    (fun h ↦ absurd (congrArg List.length h) (by simp [bootRecord, kJournalHeaderBytes])) rfl
    (by simp [encodeRecords, tornStore, bootRecord, kJournalHeaderBytes, Limits.kMaxDurableBytes])
  exact ⟨s', hopen, hfile⟩

theorem stable_hotspot : Stable decodeHotspot := by
  rw [decodeHotspot]
  refine (stable_u64 _ _).bind (fun _ ↦ (stable_text _ _ _).bind (fun _ ↦ (stable_u8 _ _).bind (fun _ ↦ ?_)))
  refine (stable_u8 _ _).bind (fun _ ↦ (stable_u8 _ _).bind (fun _ ↦ (stable_i64 _ _).bind (fun _ ↦ ?_)))
  exact (stable_i64 _ _).bind (fun _ ↦ (stable_u64 _ _).bind (fun _ ↦ stable_pure _))

theorem stable_intervention : Stable decodeIntervention := by
  rw [decodeIntervention]
  refine (stable_u64 _ _).bind (fun _ ↦ (stable_u8 _ _).bind (fun _ ↦ (stable_u64 _ _).bind (fun _ ↦ ?_)))
  exact (stable_i64 _ _).bind (fun _ ↦ (stable_u32 _ _).bind (fun _ ↦ (stable_u8 _ _).bind (fun _ ↦
    stable_pure _)))

theorem stable_history {α : Type} {entry : Decoder α} (h : Stable entry) (truncated : String) (limit : ℕ)
    (overflow : String) : Stable (decodeHistory truncated limit overflow entry) := by
  rw [decodeHistory]
  exact (stable_u32 _ _).bind (fun count ↦ Stable.ite ((stable_throw _).bind (fun _ ↦ h.repeatField _))
    (h.repeatField _))

theorem requireStateEnd_ok {bytes rest : Bytes} {u : Unit} (h : requireStateEnd bytes = .ok (u, rest)) :
    bytes = [] := by
  simp only [requireStateEnd] at h
  split at h
  · next hempty => exact List.isEmpty_iff.mp hempty
  · cases h

theorem delimits_state : Delimits stateDecoder := by
  rw [stateDecoder]
  refine (stable_u32 _ _).delimits (fun _ ↦ (stable_u64 _ _).delimits (fun _ ↦ (stable_u64 _ _).delimits
    (fun _ ↦ (stable_u64 _ _).delimits (fun _ ↦ (stable_u64 _ _).delimits (fun _ ↦ ?_)))))
  refine (stable_i64 _ _).delimits (fun _ ↦ (stable_history stable_hotspot _ _ _).delimits (fun _ ↦ ?_))
  exact (stable_history stable_intervention _ _ _).delimits (fun _ ↦
    delimits_of_empty (fun _ _ _ ↦ requireStateEnd_ok) _)

/-- For every valid state: its encoding is decoded to the same state, and neither a strict part nor a
strict continuation of the encoding is accepted. -/
theorem durable_state_exact {state : DurableState} (h : validateState state = .ok ()) :
    decodeDurableState (encodeDurableState state) = .ok state ∧
      (∀ part, part <+: encodeDurableState state → part ≠ encodeDurableState state →
        ¬Accepts decodeDurableState part) ∧
      ∀ longer, encodeDurableState state <+: longer → longer ≠ encodeDurableState state →
        ¬Accepts decodeDurableState longer := by
  have hdecodes := Recoverable.decode_encode (Recoverable.valid_of_validateState h)
  exact ⟨hdecodes, delimits_state.selfDelimiting _ ⟨state, hdecodes⟩⟩

/-- Two hotspots and an intervention: without its last byte, or with one more, the encoding is refused. -/
theorem durable_history_exact :
    decodeDurableState (encodeDurableState Recoverable.history) = .ok Recoverable.history ∧
      ¬Accepts decodeDurableState (encodeDurableState Recoverable.history).dropLast ∧
      ¬Accepts decodeDurableState (encodeDurableState Recoverable.history ++ [0]) := by
  obtain ⟨hdecodes, hshorter, hlonger⟩ := @durable_state_exact Recoverable.history rfl
  refine ⟨hdecodes, hshorter _ (List.dropLast_prefix _) ?_, hlonger _ (List.prefix_append _ _) (by simp)⟩
  exact fun h ↦ absurd (congrArg List.length h) (by decide +kernel)

end HotspotGovernor.Tails
