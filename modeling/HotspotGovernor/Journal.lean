import HotspotGovernor.Durable
import HotspotGovernor.Codec

namespace HotspotGovernor.Journal

open Foundation ByteIo Lib Durable

def kJournalMagic : UInt32 := 0x314A4748

def kJournalHeaderBytes : ℕ := 48

def encodeRecordFields (record : JournalRecord) : Bytes :=
  putU32 kJournalMagic ++ putU32 kDurableFormatVersion ++ putU32 record.type.code ++
  putCount record.payload.length ++ putU64 record.sequence ++ putI64 record.at_ ++
  putU64 (crc64 record.payload)

def encodeJournalRecord (record : JournalRecord) : Bytes :=
  encodeRecordFields record ++ putU64 (crc64 (encodeRecordFields record)) ++ record.payload

structure RecordHeader where
  magic : UInt32
  version : UInt32
  type : UInt32
  payloadLength : UInt32
  sequence : Sequence
  at_ : Millis
  payloadCrc : UInt64
  recordCrc : UInt64

def readRecordHeader (bytes : Bytes) : Option (RecordHeader × Bytes) := do
  let (magic, rest) ← readU32 bytes
  let (version, rest) ← readU32 rest
  let (type, rest) ← readU32 rest
  let (payloadLength, rest) ← readU32 rest
  let (sequence, rest) ← readU64 rest
  let (at_, rest) ← readI64 rest
  let (payloadCrc, rest) ← readU64 rest
  let (recordCrc, rest) ← readU64 rest
  return (⟨magic, version, type, payloadLength, sequence, at_, payloadCrc, recordCrc⟩, rest)

/-- What is checked of a record: `bytes` starts with its header, `rest` with its payload. -/
def RecordHeader.Intact (header : RecordHeader) (bytes rest : Bytes) : Prop :=
  header.magic = kJournalMagic ∧ header.version = kDurableFormatVersion ∧
  header.payloadLength.toNat ≤ Limits.kMaxJournalRecordBytes ∧
  kJournalHeaderBytes + header.payloadLength.toNat ≤ bytes.length ∧
  header.recordCrc = crc64 (bytes.take (kJournalHeaderBytes - 8)) ∧
  crc64 (rest.take header.payloadLength.toNat) = header.payloadCrc

instance (header : RecordHeader) (bytes rest : Bytes) : Decidable (header.Intact bytes rest) :=
  inferInstanceAs (Decidable (_ ∧ _))

/-- The record at the front and what follows it, unless the record is incomplete or damaged: every
check of the source ends in the same refusal. -/
def decodeJournalRecord (bytes : Bytes) : Option (JournalRecord × Bytes) :=
  match readRecordHeader bytes with
  | none => none
  | some (header, rest) =>
    if header.Intact bytes rest then
      some ({ type := .ofCode header.type, sequence := header.sequence, at_ := header.at_
              payload := rest.take header.payloadLength.toNat }, rest.drop header.payloadLength.toNat)
    else none

/-- The intact records from the front, at most `limit` of them, and the bytes behind the last. -/
def scanRecords : ℕ → Bytes → List JournalRecord × Bytes
  | 0, bytes => ([], bytes)
  | limit + 1, bytes =>
    match decodeJournalRecord bytes with
    | none => ([], bytes)
    | some (record, rest) => (record :: (scanRecords limit rest).1, (scanRecords limit rest).2)

structure JournalOpenReport where
  validBytes : ℕ := 0
  discardedTailBytes : ℕ := 0
  records : ℕ := 0
  lastSequence : Sequence := 0
  truncatedTail : Bool := false
  deriving DecidableEq

def highestSequence (records : List JournalRecord) : Sequence :=
  records.foldl (fun last record ↦ max last record.sequence) 0

def openReport (bytes : Bytes) : JournalOpenReport :=
  let scanned := scanRecords bytes.length bytes
  { validBytes := bytes.length - scanned.2.length
    discardedTailBytes := scanned.2.length
    records := scanned.1.length
    lastSequence := highestSequence scanned.1
    truncatedTail := !scanned.2.isEmpty }

theorem ofCode_code (type : JournalRecordType) : JournalRecordType.ofCode type.code = type := by
  cases type with
  | unnamed code h => exact dif_pos h
  | _ => rfl

theorem code_ofCode (code : UInt32) : (JournalRecordType.ofCode code).code = code := by
  by_cases h : 7 < code
  · unfold JournalRecordType.ofCode
    rw [dif_pos h]
    rfl
  · have hle : code.toNat ≤ 7 := UInt32.le_iff_toNat_le.mp (UInt32.not_lt.mp h)
    obtain ⟨n, rfl⟩ : ∃ n : Fin 8, code = UInt32.ofNat n := by
      refine ⟨⟨code.toNat, by omega⟩, ?_⟩
      rw [UInt32.ofNat_toNat]
    have hall : ∀ n : Fin 8, (JournalRecordType.ofCode (UInt32.ofNat n)).code = UInt32.ofNat n := by decide
    exact hall n

@[simp] theorem length_encodeRecordFields (record : JournalRecord) :
    (encodeRecordFields record).length = kJournalHeaderBytes - 8 := by
  simp [encodeRecordFields, putCount, kJournalHeaderBytes]

@[simp] theorem length_encodeJournalRecord (record : JournalRecord) :
    (encodeJournalRecord record).length = kJournalHeaderBytes + record.payload.length := by
  simp [encodeJournalRecord, kJournalHeaderBytes]
  omega

def Bounded (record : JournalRecord) : Prop := record.payload.length ≤ Limits.kMaxJournalRecordBytes

theorem payloadLength_toNat {record : JournalRecord} (h : Bounded record) :
    (UInt32.ofNat record.payload.length).toNat = record.payload.length := by
  have hb : Limits.kMaxJournalRecordBytes < 2 ^ 32 := by decide
  rw [Bounded] at h
  rw [UInt32.toNat_ofNat']
  omega

theorem readRecordHeader_append (record : JournalRecord) (rest : Bytes) :
    readRecordHeader (encodeRecordFields record ++ putU64 (crc64 (encodeRecordFields record)) ++ rest) =
      some (⟨kJournalMagic, kDurableFormatVersion, record.type.code, UInt32.ofNat record.payload.length,
        record.sequence, record.at_, crc64 record.payload, crc64 (encodeRecordFields record)⟩, rest) := by
  generalize hcrc : crc64 (encodeRecordFields record) = crc
  simp only [readRecordHeader, encodeRecordFields, putCount, List.append_assoc, readU32_append, readU64_append,
    readI64_append, Option.bind_eq_bind, Option.bind_some]
  rfl

theorem decode_encode {record : JournalRecord} (h : Bounded record) (rest : Bytes) :
    decodeJournalRecord (encodeJournalRecord record ++ rest) = some (record, rest) := by
  have hn := payloadLength_toNat h
  have hhead : (encodeJournalRecord record ++ rest).take (kJournalHeaderBytes - 8) =
      encodeRecordFields record := by
    rw [← length_encodeRecordFields record, encodeJournalRecord, List.append_assoc, List.append_assoc]
    exact List.take_left
  have hread := readRecordHeader_append record (record.payload ++ rest)
  rw [← List.append_assoc, ← encodeJournalRecord] at hread
  rw [decodeJournalRecord, hread]
  dsimp only
  rw [if_pos, hn, List.take_left, List.drop_left, ofCode_code]
  refine ⟨rfl, rfl, ?_, ?_, ?_, ?_⟩
  · dsimp only
    rwa [hn]
  · dsimp only
    rw [hn, List.length_append, length_encodeJournalRecord]
    omega
  · rw [hhead]
  · dsimp only
    rw [hn, List.take_left]

theorem readRecordHeader_sound {bytes rest : Bytes} {header : RecordHeader}
    (h : readRecordHeader bytes = some (header, rest)) :
    bytes = putU32 header.magic ++ putU32 header.version ++ putU32 header.type ++
      putU32 header.payloadLength ++ putU64 header.sequence ++ putI64 header.at_ ++
      putU64 header.payloadCrc ++ putU64 header.recordCrc ++ rest := by
  unfold readRecordHeader at h
  simp only [Option.bind_eq_bind, Option.bind_eq_some_iff, Prod.exists] at h
  obtain ⟨magic, r₁, h₁, version, r₂, h₂, type, r₃, h₃, length, r₄, h₄, sequence,
      r₅, h₅, at_, r₆, h₆,
    payloadCrc, r₇, h₇, recordCrc, r₈, h₈, h⟩ := h
  obtain ⟨rfl, rfl⟩ := Prod.mk.inj (Option.some.inj h)
  rw [readU32_eq_some h₁, readU32_eq_some h₂, readU32_eq_some h₃, readU32_eq_some h₄,
    readU64_eq_some h₅, readI64_eq_some h₆, readU64_eq_some h₇, readU64_eq_some h₈]
  simp only [List.append_assoc]

theorem decode_sound {bytes rest : Bytes} {record : JournalRecord}
    (h : decodeJournalRecord bytes = some (record, rest)) :
    bytes = encodeJournalRecord record ++ rest ∧ Bounded record := by
  unfold decodeJournalRecord at h
  split at h
  · cases h
  · next header r hr =>
    split at h
    · next hintact =>
      obtain ⟨hmagic, hversion, hbound, htotal, hrecord, hpayload⟩ := hintact
      obtain ⟨rfl, rfl⟩ := Prod.mk.inj (Option.some.inj h)
      have hbytes := readRecordHeader_sound hr
      rw [hmagic, hversion] at hbytes
      have hlen : (r.take header.payloadLength.toNat).length = header.payloadLength.toNat := by
        rw [hbytes] at htotal
        simp only [List.length_append, length_putU32, length_putU64, length_putI64, kJournalHeaderBytes]
          at htotal
        rw [List.length_take]
        omega
      have hfields : bytes = encodeRecordFields ⟨.ofCode header.type, header.sequence, header.at_,
          r.take header.payloadLength.toNat⟩ ++ (putU64 header.recordCrc ++ r) := by
        unfold encodeRecordFields putCount
        rw [hlen, UInt32.ofNat_toNat, code_ofCode, hpayload]
        simpa only [List.append_assoc] using hbytes
      have hcrc : header.recordCrc = crc64 (encodeRecordFields ⟨.ofCode header.type, header.sequence,
          header.at_, r.take header.payloadLength.toNat⟩) := by
        rw [hrecord, hfields, ← length_encodeRecordFields ⟨.ofCode header.type, header.sequence,
          header.at_, r.take header.payloadLength.toNat⟩, List.take_left]
      refine ⟨?_, (List.length_take_le _ _).trans hbound⟩
      unfold encodeJournalRecord
      rw [← hcrc, List.append_assoc, List.append_assoc, List.take_append_drop]
      exact hfields
    · cases h

theorem decode_torn {record : JournalRecord} (h : Bounded record) {torn : Bytes}
    (hleading : torn <+: encodeJournalRecord record) (hstrict : torn ≠ encodeJournalRecord record) :
    decodeJournalRecord torn = none := by
  obtain ⟨missing, hmissing⟩ := hleading
  cases hd : decodeJournalRecord torn with
  | none => rfl
  | some found =>
    obtain ⟨other, rest⟩ := found
    obtain ⟨htorn, hother⟩ := decode_sound hd
    have hwhole := decode_encode h []
    rw [List.append_nil, ← hmissing, htorn, List.append_assoc, decode_encode hother] at hwhole
    obtain ⟨-, hempty⟩ := Prod.mk.inj (Option.some.inj hwhole)
    rw [(List.append_eq_nil_iff.mp hempty).2, List.append_nil] at hmissing
    exact absurd hmissing hstrict

def encodeRecords (records : List JournalRecord) : Bytes := records.flatMap encodeJournalRecord

theorem encodeRecords_append (records more : List JournalRecord) :
    encodeRecords (records ++ more) = encodeRecords records ++ encodeRecords more := List.flatMap_append

theorem scan_torn {records : List JournalRecord} (h : ∀ r ∈ records, Bounded r) {tail : Bytes}
    (htail : decodeJournalRecord tail = none) (limit : ℕ) :
    (scanRecords limit (encodeRecords records ++ tail)).1 = records.take limit := by
  induction records generalizing limit with
  | nil =>
    cases limit with
    | zero => rfl
    | succ limit =>
      unfold scanRecords
      rw [show encodeRecords [] ++ tail = tail from rfl, htail, List.take_nil]
  | cons r records ih =>
    cases limit with
    | zero => rfl
    | succ limit =>
      have hr := decode_encode (h r List.mem_cons_self) (encodeRecords records ++ tail)
      have hrest := ih (fun x hx ↦ h x (List.mem_cons_of_mem _ hx)) limit
      unfold scanRecords
      rw [show encodeRecords (r :: records) = encodeJournalRecord r ++ encodeRecords records from rfl,
        List.append_assoc, hr, List.take_succ_cons, ← hrest]

theorem scan_encodeRecords {records : List JournalRecord} (h : ∀ r ∈ records, Bounded r) (limit : ℕ) :
    (scanRecords limit (encodeRecords records)).1 = records.take limit := by
  have hscan := @scan_torn records h [] rfl limit
  rwa [List.append_nil] at hscan

theorem scan_sound (limit : ℕ) (bytes : Bytes) :
    bytes = encodeRecords (scanRecords limit bytes).1 ++ (scanRecords limit bytes).2 ∧
      ∀ r ∈ (scanRecords limit bytes).1, Bounded r := by
  induction limit generalizing bytes with
  | zero => exact ⟨rfl, fun r hr ↦ by cases hr⟩
  | succ limit ih =>
    unfold scanRecords
    cases hd : decodeJournalRecord bytes with
    | none => exact ⟨rfl, fun r hr ↦ by cases hr⟩
    | some found =>
      obtain ⟨record, rest⟩ := found
      obtain ⟨hbytes, hbound⟩ := decode_sound hd
      obtain ⟨hrest, hall⟩ := ih rest
      dsimp only
      refine ⟨?_, ?_⟩
      · rw [hbytes]
        nth_rewrite 1 [hrest]
        rw [← List.append_assoc]
        rfl
      · intro r hr
        rcases List.mem_cons.mp hr with rfl | hr
        · exact hbound
        · exact hall r hr

theorem take_validBytes (bytes : Bytes) :
    bytes.take (openReport bytes).validBytes = encodeRecords (scanRecords bytes.length bytes).1 := by
  have hsplit := (scan_sound bytes.length bytes).1
  have hlen := congrArg List.length hsplit
  rw [List.length_append] at hlen
  have hvalid : (openReport bytes).validBytes = (encodeRecords (scanRecords bytes.length bytes).1).length := by
    unfold openReport
    dsimp only
    omega
  rw [hvalid]
  generalize scanRecords bytes.length bytes = scanned at hsplit ⊢
  rw [hsplit]
  exact List.take_left

end HotspotGovernor.Journal
