import HotspotGovernor.Lib.Crc
import HotspotGovernor.Recoverable
import HotspotGovernor.Reassembly

namespace HotspotGovernor.Integrity

open Foundation ByteIo Lib Framing Codec Durable Journal Storage Recoverable

def poly : BitVec 64 := kReflectedPoly.toBitVec

theorem poly_msb : poly.msb = true := by decide

theorem low_bit (c : UInt64) : c &&& 1 ≠ 0 ↔ c.toBitVec.getLsbD 0 = true := by
  have hand : (c &&& 1).toNat = c.toNat % 2 := by
    rw [UInt64.toNat_and]
    exact Nat.and_one_is_mod _
  rw [ne_eq, ← UInt64.toNat_inj, hand, BitVec.getLsbD, Nat.testBit_zero]
  simp

theorem crcEntry_toBitVec (n : ℕ) (c : UInt64) :
    (crcEntry n c).toBitVec = (Crc.round poly)^[n] c.toBitVec := by
  induction n generalizing c with
  | zero => rfl
  | succ n ih =>
    rw [crcEntry, ih, Function.iterate_succ_apply]
    congr 1
    rw [Crc.round]
    by_cases h : c &&& 1 ≠ 0
    · rw [if_pos h, if_pos ((low_bit c).mp h)]
      rfl
    · rw [if_neg h, if_neg (fun hbit ↦ h ((low_bit c).mpr hbit))]
      rfl

theorem crcStep_toBitVec (c : UInt64) (b : UInt8) :
    (crcStep c b).toBitVec = Crc.step poly c.toBitVec b := by
  have hbyte : b.toUInt64.toBitVec = BitVec.ofNat 64 b.toNat := by
    apply BitVec.eq_of_toNat_eq
    have hb := b.toNat_lt
    rw [BitVec.toNat_ofNat, Nat.mod_eq_of_lt (by omega)]
    rfl
  rw [Crc.step_eq_table poly (by decide), ← hbyte, crcStep, UInt64.toBitVec_xor, crcEntry_toBitVec]
  rfl

def register (bytes : Bytes) : BitVec 64 := (bytes.foldl crcStep kUInt64Max).toBitVec

theorem register_eq (bytes : Bytes) : register bytes = Crc.run poly kUInt64Max.toBitVec bytes := by
  have hfold : ∀ c : UInt64, (bytes.foldl crcStep c).toBitVec = Crc.run poly c.toBitVec bytes := by
    induction bytes with
    | nil => exact fun c ↦ rfl
    | cons b bytes ih =>
      intro c
      rw [List.foldl_cons, ih, crcStep_toBitVec]
      rfl
  exact hfold _

theorem crc64_toBitVec (bytes : Bytes) : (crc64 bytes).toBitVec = register bytes ^^^ kUInt64Max.toBitVec := rfl

/-- Two strings of one length that differ, and only inside one window of eight bytes. -/
structure Burst (x y : Bytes) : Prop where
  length : x.length = y.length
  ne : x ≠ y
  window : ∃ i, ∀ j, x[j]? ≠ y[j]? → i ≤ j ∧ j < i + 8

theorem split_window (x : Bytes) (i : ℕ) : x = x.take i ++ (x.drop i).take 8 ++ x.drop (i + 8) := by
  rw [List.append_assoc, ← List.drop_drop, List.take_append_drop, List.take_append_drop]

theorem Burst.split {x y : Bytes} (h : Burst x y) :
    ∃ front u v back, x = front ++ u ++ back ∧ y = front ++ v ++ back ∧ u.length = v.length ∧
      u.length ≤ 8 ∧ u ≠ v := by
  obtain ⟨i, hi⟩ := h.window
  have hsame : ∀ j, j < i ∨ i + 8 ≤ j → x[j]? = y[j]? := by
    intro j hj
    by_contra hne
    have := hi j hne
    omega
  have hfront : x.take i = y.take i := by
    apply List.ext_getElem?
    intro j
    rw [List.getElem?_take, List.getElem?_take]
    split
    · next hj => exact hsame j (Or.inl hj)
    · rfl
  have hback : x.drop (i + 8) = y.drop (i + 8) := by
    apply List.ext_getElem?
    intro j
    rw [List.getElem?_drop, List.getElem?_drop]
    exact hsame _ (Or.inr (by omega))
  refine ⟨x.take i, (x.drop i).take 8, (y.drop i).take 8, x.drop (i + 8), split_window x i, ?_, ?_, ?_, ?_⟩
  · rw [hfront, hback]
    exact split_window y i
  · rw [List.length_take, List.length_take, List.length_drop, List.length_drop, h.length]
  · exact List.length_take_le _ _
  · intro hu
    apply h.ne
    rw [split_window x i, split_window y i, hfront, hback, hu]

theorem register_ne {x y : Bytes} (h : Burst x y) : register x ≠ register y := by
  obtain ⟨front, u, v, back, rfl, rfl, hlen, hwindow, hne⟩ := h.split
  rw [register_eq, register_eq]
  exact Crc.burst_ne poly_msb _ front back hlen (by omega) hne

theorem crc64_ne {x y : Bytes} (h : Burst x y) : crc64 x ≠ crc64 y := by
  intro he
  apply register_ne h
  have hbits := congrArg UInt64.toBitVec he
  rw [crc64_toBitVec, crc64_toBitVec] at hbits
  exact (BitVec.xor_left_inj _).mp hbits

def Sealed (bytes : Bytes) : Prop := ∃ front, bytes = front ++ putU64 (crc64 front)

theorem word_putU64 (v : UInt64) : (Crc.word (putU64 v) : BitVec 64) = v.toBitVec := by
  apply BitVec.eq_of_toNat_eq
  have hv := v.toNat_lt
  rw [Crc.word, putU64, LittleEndian.combine_split, BitVec.toNat_ofNat,
    Nat.mod_eq_of_lt (show v.toNat < 256 ^ 8 by omega), Nat.mod_eq_of_lt hv]
  rfl

theorem register_sealed {x : Bytes} (h : Sealed x) :
    register x = (Crc.round poly)^[64] kUInt64Max.toBitVec := by
  obtain ⟨front, rfl⟩ := h
  have hlen : 8 * (putU64 (crc64 front)).length = 64 := by rw [length_putU64]
  have hword : (Crc.word (putU64 (crc64 front)) : BitVec 64) =
      Crc.run poly kUInt64Max.toBitVec front ^^^ kUInt64Max.toBitVec := by
    rw [word_putU64, crc64_toBitVec, register_eq]
  rw [register_eq, Crc.run_append, Crc.run_residue hlen.le hword, hlen]

theorem not_sealed_of_burst {x y : Bytes} (hx : Sealed x) (h : Burst x y) : ¬Sealed y := by
  intro hy
  apply register_ne h
  rw [register_sealed hx, register_sealed hy]

section Reading

variable {α β : Type}

def Reads (n : ℕ) (decoder : Decoder α) : Prop :=
  ∀ bytes a rest, decoder bytes = .ok (a, rest) → ∃ front, front.length = n ∧ bytes = front ++ rest

def Ends (n : ℕ) (crc : α → UInt64) (decoder : Decoder α) : Prop :=
  ∀ bytes a rest, decoder bytes = .ok (a, rest) →
    ∃ front, front.length = n ∧ bytes = front ++ putU64 (crc a) ++ rest

theorem reads_word (width : ℕ) (ofNat : ℕ → α) (code : ErrorCode) (detail : String) :
    Reads width (field (readWord width ofNat) code detail) := by
  intro bytes a rest h
  obtain ⟨word, hlen, hbytes, -⟩ := readWord_eq_some (field_eq_ok h)
  exact ⟨word, hlen, hbytes⟩

variable {n m k : ℕ} {crc : β → UInt64}

theorem Reads.ends {x : Decoder α} (hx : Reads k x) {f : α → Decoder β} (hf : ∀ a, Ends m crc (f a))
    (hn : n = k + m) : Ends n crc (x >>= f) := by
  intro bytes b rest h
  obtain ⟨a, mid, ha, hb⟩ := bind_eq_ok h
  obtain ⟨u, hu, rfl⟩ := hx bytes a mid ha
  obtain ⟨v, hv, rfl⟩ := hf a mid b rest hb
  refine ⟨u ++ v, ?_, ?_⟩
  · rw [List.length_append, hu, hv, hn]
  · simp only [List.append_assoc]

theorem Ends.ite {condition : Prop} [Decidable condition] {x y : Decoder β} (hx : Ends n crc x)
    (hy : Ends n crc y) : Ends n crc (if condition then x else y) := by
  split
  · exact hx
  · exact hy

theorem ends_throw (e : Failure) : Ends n crc (throw e : Decoder β) := by
  intro bytes b rest h
  cases h

theorem ends_crc {f : UInt64 → Decoder β} (code : ErrorCode) (detail : String)
    (h : ∀ v bytes b rest, f v bytes = .ok (b, rest) → rest = bytes ∧ crc b = v) :
    Ends 0 crc (field readU64 code detail >>= f) := by
  intro bytes b rest hrun
  obtain ⟨v, mid, hv, hb⟩ := bind_eq_ok hrun
  obtain ⟨rfl, rfl⟩ := h v mid b rest hb
  refine ⟨[], rfl, ?_⟩
  rw [List.nil_append]
  exact readU64_eq_some (field_eq_ok hv)

end Reading

theorem headerDecoder_ends (expected : UInt64) : Ends 80 (fun _ ↦ expected) (headerDecoder expected) := by
  have h2 := @reads_word UInt16 2 UInt16.ofNat
  have h4 := @reads_word UInt32 4 UInt32.ofNat
  have h8 := @reads_word UInt64 8 UInt64.ofNat
  have hi := @reads_word Int64 8 (fun v ↦ (UInt64.ofNat v).toInt64)
  rw [headerDecoder]
  refine (h4 _ _).ends (fun magic ↦ ?_) (show 80 = 4 + 76 from rfl)
  refine (h2 _ _).ends (fun version ↦ ?_) (show 76 = 2 + 74 from rfl)
  refine (h2 _ _).ends (fun type ↦ ?_) (show 74 = 2 + 72 from rfl)
  refine (h4 _ _).ends (fun flags ↦ ?_) (show 72 = 4 + 68 from rfl)
  refine (h4 _ _).ends (fun payloadLength ↦ ?_) (show 68 = 4 + 64 from rfl)
  refine Ends.ite (ends_throw _) (Ends.ite (ends_throw _) (Ends.ite (ends_throw _) ?_))
  refine (h8 _ _).ends (fun epoch ↦ ?_) (show 64 = 8 + 56 from rfl)
  refine (h8 _ _).ends (fun publisher ↦ ?_) (show 56 = 8 + 48 from rfl)
  refine (h8 _ _).ends (fun incarnation ↦ ?_) (show 48 = 8 + 40 from rfl)
  refine (h8 _ _).ends (fun boot ↦ ?_) (show 40 = 8 + 32 from rfl)
  refine (h8 _ _).ends (fun sequence ↦ ?_) (show 32 = 8 + 24 from rfl)
  refine (h8 _ _).ends (fun generation ↦ ?_) (show 24 = 8 + 16 from rfl)
  refine (hi _ _).ends (fun emittedAt ↦ ?_) (show 16 = 8 + 8 from rfl)
  refine (h8 _ _).ends (fun payloadCrc ↦ ?_) (show 8 = 8 + 0 from rfl)
  refine ends_crc _ _ ?_
  intro v bytes b rest h
  dsimp only at h
  split at h
  · cases h
  · next hcrc =>
    obtain ⟨-, rfl⟩ := Prod.mk.inj (Except.ok.inj h)
    exact ⟨rfl, (not_not.mp hcrc).symm⟩

theorem Ends.sealed {α : Type} {n : ℕ} {crc : α → UInt64} {decoder : Decoder α} (h : Ends n crc decoder)
    {bytes rest : Bytes} {a : α} (hd : decoder bytes = .ok (a, rest)) (hcrc : crc a = crc64 (bytes.take n)) :
    Sealed (bytes.take (n + 8)) := by
  obtain ⟨front, hlen, rfl⟩ := h bytes a rest hd
  have hfront : (front ++ putU64 (crc a) ++ rest).take n = front := by
    rw [List.append_assoc]
    exact List.take_left' hlen
  rw [hfront] at hcrc
  refine ⟨front, ?_⟩
  rw [← hcrc]
  exact List.take_left' (by rw [List.length_append, hlen, length_putU64])

theorem sealed_of_decodeHeader {bytes : Bytes} {header : FrameHeader} (h : decodeHeader bytes = .ok header) :
    Sealed (bytes.take kFrameHeaderBytes) := by
  simp only [decodeHeader] at h
  split at h
  · cases h
  · obtain ⟨rest, hd⟩ := decodeAll_ok h
    have hsealed := (headerDecoder_ends _).sealed hd (by rw [List.take_take]; rfl)
    rwa [List.take_take] at hsealed

theorem snapshotHeader_ends : Ends 24 SnapshotHeader.headerCrc snapshotHeaderDecoder := by
  have h4 := @reads_word UInt32 4 UInt32.ofNat
  have h8 := @reads_word UInt64 8 UInt64.ofNat
  rw [snapshotHeaderDecoder]
  refine (h4 _ _).ends (fun magic ↦ ?_) (show 24 = 4 + 20 from rfl)
  refine (h4 _ _).ends (fun version ↦ ?_) (show 20 = 4 + 16 from rfl)
  refine (h4 _ _).ends (fun bodyLength ↦ ?_) (show 16 = 4 + 12 from rfl)
  refine (h4 _ _).ends (fun reserved ↦ ?_) (show 12 = 4 + 8 from rfl)
  refine (h8 _ _).ends (fun bodyCrc ↦ ?_) (show 8 = 8 + 0 from rfl)
  refine ends_crc _ _ ?_
  intro v bytes b rest h
  obtain ⟨rfl, rfl⟩ := Prod.mk.inj (Except.ok.inj h)
  exact ⟨rfl, rfl⟩

theorem checkSnapshot_ok {bytes : Bytes} {header : SnapshotHeader} {state : DurableState}
    (h : (checkSnapshot bytes header).state = .ok state) :
    header.headerCrc = crc64 (bytes.take (kSnapshotHeaderBytes - 8)) ∧
      crc64 (bytes.drop kSnapshotHeaderBytes) = header.bodyCrc := by
  simp only [checkSnapshot] at h
  split_ifs at h with hmagic hversion hheader hlength hbody
  iterate 5 cases h
  exact ⟨not_not.mp hheader, not_not.mp hbody⟩

theorem readSnapshot_ok {maxBytes : UInt64} {content : Bytes} {state : DurableState}
    (h : (readSnapshot maxBytes (some content)).state = .ok state) :
    ∃ header rest, snapshotHeaderDecoder content = .ok (header, rest) ∧
      (checkSnapshot content header).state = .ok state := by
  simp only [readSnapshot] at h
  split at h
  · cases h
  · next bytes hread =>
    obtain rfl : content = bytes := by
      simp only [readFileAll] at hread
      split at hread
      · cases hread
      · exact Except.ok.inj hread
    split at h
    · cases h
    · split at h
      · cases h
      · next header rest hd => exact ⟨header, rest, hd, h⟩

def Refused {α : Type} (result : Result α) : Prop := ∃ failure, result = .error failure

theorem refused_of_not_ok {α : Type} {result : Result α} (h : ∀ a, result ≠ .ok a) : Refused result := by
  cases result with
  | error e => exact ⟨e, rfl⟩
  | ok a => exact absurd rfl (h a)

section Frame

variable {frame : Frame} {bytes altered : Bytes} (hf : encodeFrame frame = .ok bytes)

include hf

theorem encodeFrame_ok : bytes = encodeHeader (stampHeader frame) ++ frame.payload := by
  simp only [encodeFrame] at hf
  split at hf
  · cases hf
  · exact (Except.ok.inj hf).symm

theorem frame_header_burst (h : Burst (bytes.take kFrameHeaderBytes) altered) :
    Refused (decodeHeader (altered ++ bytes.drop kFrameHeaderBytes)) := by
  have hhead : bytes.take kFrameHeaderBytes = encodeHeader (stampHeader frame) := by
    rw [encodeFrame_ok hf]
    exact List.take_left' (length_encodeHeader _)
  have hlen : altered.length = kFrameHeaderBytes := by
    rw [← h.length, hhead, length_encodeHeader]
  rw [hhead] at h
  apply refused_of_not_ok
  intro header hd
  have hsealed := sealed_of_decodeHeader hd
  rw [List.take_left' hlen] at hsealed
  exact not_sealed_of_burst ⟨_, rfl⟩ h hsealed

theorem frame_payload_burst (h : Burst (bytes.drop kFrameHeaderBytes) altered) {header : FrameHeader}
    (hd : decodeHeader bytes = .ok header) : Refused (verifyPayload header altered) := by
  have hpayload : bytes.drop kFrameHeaderBytes = frame.payload := by
    rw [encodeFrame_ok hf]
    exact List.drop_left' (length_encodeHeader _)
  have hcrc : header.payloadCrc = crc64 frame.payload := by
    rw [encodeFrame_ok hf, decodeHeader_append] at hd
    split at hd
    · cases hd
    · split at hd
      · cases hd
      · rw [← Except.ok.inj hd]
        rfl
  rw [hpayload] at h
  apply refused_of_not_ok
  intro u hok
  simp only [verifyPayload] at hok
  split_ifs at hok with hlength hlong hsum
  iterate 3 cases hok
  rw [not_not, hcrc] at hsum
  exact crc64_ne h hsum.symm

end Frame

section Record

variable {record : JournalRecord} {altered : Bytes} (rest : Bytes)

theorem record_header_burst (h : Burst ((encodeJournalRecord record).take kJournalHeaderBytes) altered) :
    decodeJournalRecord (altered ++ record.payload ++ rest) = none := by
  have hhead : ∀ record tail, (encodeJournalRecord record ++ tail).take kJournalHeaderBytes =
      encodeRecordFields record ++ putU64 (crc64 (encodeRecordFields record)) := by
    intro record tail
    rw [encodeJournalRecord, List.append_assoc]
    exact List.take_left' (by rw [List.length_append, length_encodeRecordFields, length_putU64]; rfl)
  have hown := hhead record []
  rw [List.append_nil] at hown
  have hlen : altered.length = kJournalHeaderBytes := by
    rw [← h.length, hown, List.length_append, length_encodeRecordFields, length_putU64]
    rfl
  rw [hown] at h
  cases hd : decodeJournalRecord (altered ++ record.payload ++ rest) with
  | none => rfl
  | some found =>
    obtain ⟨hbytes, -⟩ := decode_sound hd
    have hsealed : altered = encodeRecordFields found.1 ++ putU64 (crc64 (encodeRecordFields found.1)) := by
      rw [← hhead found.1 found.2, ← hbytes, List.append_assoc]
      exact (List.take_left' hlen).symm
    exact absurd ⟨_, hsealed⟩ (not_sealed_of_burst ⟨_, rfl⟩ h)

theorem record_payload_burst (hb : Bounded record) (h : Burst record.payload altered) :
    decodeJournalRecord ((encodeJournalRecord record).take kJournalHeaderBytes ++ altered ++ rest) = none := by
  have hhead : (encodeJournalRecord record).take kJournalHeaderBytes =
      encodeRecordFields record ++ putU64 (crc64 (encodeRecordFields record)) := by
    rw [encodeJournalRecord]
    exact List.take_left' (by rw [List.length_append, length_encodeRecordFields, length_putU64]; rfl)
  have hread := readRecordHeader_append record (altered ++ rest)
  have hn := payloadLength_toNat hb
  rw [hhead, List.append_assoc, decodeJournalRecord, hread]
  dsimp only
  rw [if_neg]
  rintro ⟨-, -, -, -, -, hcrc⟩
  dsimp only at hcrc
  rw [hn, h.length, List.take_left] at hcrc
  exact crc64_ne h hcrc.symm

end Record

section Snapshot

variable {state : DurableState} {maxBytes : UInt64} {altered : Bytes}

theorem snapshot_header_burst (h : Burst ((frameSnapshot state).take kSnapshotHeaderBytes) altered) :
    Refused (readSnapshot maxBytes (some (altered ++ (frameSnapshot state).drop kSnapshotHeaderBytes))).state := by
  have hhead : (frameSnapshot state).take kSnapshotHeaderBytes = encodeSnapshotFields (encodeDurableState state) ++
      putU64 (crc64 (encodeSnapshotFields (encodeDurableState state))) := by
    rw [frameSnapshot]
    exact List.take_left' (by rw [List.length_append, length_encodeSnapshotFields, length_putU64]; rfl)
  have hlen : altered.length = kSnapshotHeaderBytes := by
    rw [← h.length, hhead, List.length_append, length_encodeSnapshotFields, length_putU64]
    rfl
  rw [hhead] at h
  apply refused_of_not_ok
  intro found hok
  obtain ⟨header, rest, hd, hcheck⟩ := readSnapshot_ok hok
  have hsealed := snapshotHeader_ends.sealed hd (checkSnapshot_ok hcheck).1
  rw [List.take_left' (show altered.length = 24 + 8 from hlen)] at hsealed
  exact not_sealed_of_burst ⟨_, rfl⟩ h hsealed

theorem snapshot_body_burst (h : Burst ((frameSnapshot state).drop kSnapshotHeaderBytes) altered) :
    Refused (readSnapshot maxBytes (some ((frameSnapshot state).take kSnapshotHeaderBytes ++ altered))).state := by
  have hlen : (encodeSnapshotFields (encodeDurableState state) ++
      putU64 (crc64 (encodeSnapshotFields (encodeDurableState state)))).length = kSnapshotHeaderBytes := by
    rw [List.length_append, length_encodeSnapshotFields, length_putU64]
    rfl
  rw [frameSnapshot, List.drop_left' hlen] at h
  rw [frameSnapshot, List.take_left' hlen]
  apply refused_of_not_ok
  intro found hok
  obtain ⟨header, rest, hd, hcheck⟩ := readSnapshot_ok hok
  rw [snapshotHeader_append] at hd
  obtain ⟨rfl, -⟩ := Prod.mk.inj (Except.ok.inj hd)
  have hcrc := (checkSnapshot_ok hcheck).2
  rw [List.drop_left' hlen] at hcrc
  exact crc64_ne h hcrc.symm

end Snapshot

/-- A burst of at most eight bytes is always seen: by the CRC itself, and so by every reader of frames,
journal records and snapshots, in the header (its own CRC included) and behind it. -/
theorem burst_refused :
    (∀ x y, Burst x y → crc64 x ≠ crc64 y) ∧
    (∀ frame bytes altered, encodeFrame frame = .ok bytes →
      (Burst (bytes.take kFrameHeaderBytes) altered →
        Refused (decodeHeader (altered ++ bytes.drop kFrameHeaderBytes))) ∧
      (Burst (bytes.drop kFrameHeaderBytes) altered → ∀ header, decodeHeader bytes = .ok header →
        Refused (verifyPayload header altered))) ∧
    (∀ record altered rest,
      (Burst ((encodeJournalRecord record).take kJournalHeaderBytes) altered →
        decodeJournalRecord (altered ++ record.payload ++ rest) = none) ∧
      (Bounded record → Burst record.payload altered → decodeJournalRecord
        ((encodeJournalRecord record).take kJournalHeaderBytes ++ altered ++ rest) = none)) ∧
    ∀ state altered maxBytes,
      (Burst ((frameSnapshot state).take kSnapshotHeaderBytes) altered → Refused (readSnapshot maxBytes
        (some (altered ++ (frameSnapshot state).drop kSnapshotHeaderBytes))).state) ∧
      (Burst ((frameSnapshot state).drop kSnapshotHeaderBytes) altered → Refused (readSnapshot maxBytes
        (some ((frameSnapshot state).take kSnapshotHeaderBytes ++ altered))).state) := by
  refine ⟨fun x y h ↦ crc64_ne h, ?_, ?_, ?_⟩
  · intro frame bytes altered hf
    exact ⟨frame_header_burst hf, fun h header hd ↦ frame_payload_burst hf h hd⟩
  · intro record altered rest
    exact ⟨record_header_burst rest, record_payload_burst rest⟩
  · intro state altered maxBytes
    exact ⟨snapshot_header_burst, snapshot_body_burst⟩

theorem crc64_flipped_bit : crc64 [0x31, 0x32, 0x33] ≠ crc64 [0x31, 0x72, 0x33] := by
  apply burst_refused.1
  refine ⟨rfl, by decide, 0, fun j hj ↦ ⟨Nat.zero_le j, ?_⟩⟩
  by_contra hge
  apply hj
  rw [List.getElem?_eq_none, List.getElem?_eq_none]
  · rw [List.length_cons, List.length_cons, List.length_singleton]
    omega
  · rw [List.length_cons, List.length_cons, List.length_singleton]
    omega

end HotspotGovernor.Integrity
