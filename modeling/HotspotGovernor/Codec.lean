import HotspotGovernor.Framing

namespace HotspotGovernor.Codec

open Foundation ByteIo Topology Evidence Framing

theorem bind_ok {α β : Type} {x : Decoder α} {f : α → Decoder β} {bytes rest : Bytes} {a : α}
    (h : x bytes = .ok (a, rest)) : (x >>= f) bytes = f a rest := by
  change (x bytes >>= fun p ↦ f p.1 p.2) = f a rest
  rw [h]
  rfl

theorem bind_eq_ok {α β : Type} {x : Decoder α} {f : α → Decoder β} {bytes rest : Bytes} {b : β}
    (h : (x >>= f) bytes = .ok (b, rest)) :
    ∃ a mid, x bytes = .ok (a, mid) ∧ f a mid = .ok (b, rest) := by
  change (x bytes >>= fun p ↦ f p.1 p.2) = .ok (b, rest) at h
  obtain ⟨⟨a, mid⟩, hx, hf⟩ := TopologyIndex.bind_eq_ok h
  exact ⟨a, mid, hx, hf⟩

section Fields

variable (code : ErrorCode) (detail : String) (rest : Bytes)

theorem field_u8 (v : UInt8) : field readU8 code detail (putU8 v ++ rest) = .ok (v, rest) := by
  simp [field]

theorem field_u16 (v : UInt16) : field readU16 code detail (putU16 v ++ rest) = .ok (v, rest) := by
  simp [field]

theorem field_u32 (v : UInt32) : field readU32 code detail (putU32 v ++ rest) = .ok (v, rest) := by
  simp [field]

theorem field_u64 (v : UInt64) : field readU64 code detail (putU64 v ++ rest) = .ok (v, rest) := by
  simp [field]

theorem field_i64 (v : Int64) : field readI64 code detail (putI64 v ++ rest) = .ok (v, rest) := by
  simp [field]

theorem field_bool (v : Bool) :
    field readU8 code detail (putBool v ++ rest) = .ok (if v then 1 else 0, rest) :=
  field_u8 code detail rest _

theorem field_text {limit : ℕ} {text : Bytes} (h : text.length ≤ limit) (hl : limit < 2 ^ 32) :
    field (readText limit) code detail (putText text ++ rest) = .ok (text, rest) := by
  have hn : (UInt32.ofNat text.length).toNat = text.length := by
    rw [UInt32.toNat_ofNat']
    omega
  have hr : readText limit (putText text ++ rest) = some (text, rest) := by
    unfold readText putText putCount
    rw [List.append_assoc, readU32_append]
    dsimp only
    rw [hn, if_neg (by omega), take_append]
  unfold field
  rw [hr]

end Fields

theorem flag_ne_zero (b : Bool) : decide ((if b then 1 else 0 : UInt8) ≠ 0) = b := by
  cases b <;> rfl

/-- The decoder reads exactly these bytes, whatever follows them. -/
def Decodes {α : Type} (decoder : Decoder α) (bytes : Bytes) (a : α) : Prop :=
  ∀ rest, decoder (bytes ++ rest) = .ok (a, rest)

theorem Decodes.repeatField {α : Type} {decoder : Decoder α} {encode : α → Bytes} {entries : List α}
    (h : ∀ x ∈ entries, Decodes decoder (encode x) x) :
    Decodes (repeatField decoder entries.length) (entries.flatMap encode) entries := by
  induction entries with
  | nil =>
    intro rest
    rfl
  | cons x entries ih =>
    intro rest
    have hx := h x List.mem_cons_self (entries.flatMap encode ++ rest)
    have hxs := ih (fun y hy ↦ h y (List.mem_cons_of_mem _ hy)) rest
    rw [List.flatMap_cons, List.append_assoc, List.length_cons]
    unfold Framing.repeatField
    rw [bind_ok hx, bind_ok hxs]
    rfl

theorem Decodes.decodeList {α : Type} {entry : Decoder α} {encode : α → Bytes} {entries : List α}
    {limit : ℕ} (truncated what : String) (h : ∀ x ∈ entries, Decodes entry (encode x) x)
    (hlen : entries.length ≤ limit) (hlimit : limit < 2 ^ 32) :
    Decodes (decodeList truncated limit what entry)
      (putCount entries.length ++ entries.flatMap encode) entries := by
  intro rest
  have hn : (UInt32.ofNat entries.length).toNat = entries.length := by
    rw [UInt32.toNat_ofNat']
    omega
  have hcount : checkCount (UInt32.ofNat entries.length) limit what = .ok () := by
    unfold checkCount
    rw [hn, if_neg (by omega)]
  have hread := Decodes.repeatField h rest
  unfold Framing.decodeList putCount
  rw [List.append_assoc, bind_ok (field_u32 _ _ _ _), hcount, hn]
  exact hread

@[simp] theorem length_encodeHeaderFields (h : FrameHeader) :
    (encodeHeaderFields h).length = kFrameHeaderBytes - 8 := by
  simp [encodeHeaderFields, kFrameHeaderBytes]

@[simp] theorem length_encodeHeader (h : FrameHeader) : (encodeHeader h).length = kFrameHeaderBytes := by
  simp [encodeHeader, kFrameHeaderBytes]

theorem ofCode_code (type : MessageType) : MessageType.ofCode type.code = type := by
  cases type with
  | unnamed code h => exact dif_pos h
  | _ => rfl

theorem headerDecoder_encodeHeader (h : FrameHeader) (crc : UInt64) :
    headerDecoder crc (encodeHeader h) =
      if h.version.toUInt32 ≠ kFrameProtocolVersion then
        .error ⟨.unsupportedVersion,
          "frame protocol version " ++ toString h.version.toNat ++ " is not supported"⟩
      else if h.payloadLength.toNat > Limits.kMaxFrameBytes then
        .error ⟨.frameTooLarge, "declared payload exceeds the frame bound"⟩
      else if crc64 (encodeHeaderFields h) ≠ crc then
        .error ⟨.integrityMismatch, "header CRC does not match the header bytes"⟩
      else .ok ({ h with headerCrc := crc64 (encodeHeaderFields h) }, []) := by
  have he : encodeHeader h = putU32 kFrameMagic ++ (putU16 h.version ++ (putU16 h.type.code ++
      (putU32 h.flags ++ (putU32 h.payloadLength ++ (putU64 h.epoch.value ++
      (putU64 h.publisher.value ++ (putU64 h.incarnation.value ++ (putU64 h.boot.value ++
      (putU64 h.sequence ++ (putU64 h.generation ++ (putI64 h.emittedAt ++ (putU64 h.payloadCrc ++
      (putU64 (crc64 (encodeHeaderFields h)) ++ []))))))))))))) := by
    simp [encodeHeader, encodeHeaderFields]
  rw [he]
  unfold headerDecoder
  rw [bind_ok (field_u32 _ _ _ _), bind_ok (field_u16 _ _ _ _), bind_ok (field_u16 _ _ _ _),
    bind_ok (field_u32 _ _ _ _), bind_ok (field_u32 _ _ _ _)]
  rw [if_neg (not_not.mpr rfl)]
  by_cases hv : h.version.toUInt32 ≠ kFrameProtocolVersion
  · rw [if_pos hv, if_pos hv]
    rfl
  · rw [if_neg hv, if_neg hv]
    by_cases hl : h.payloadLength.toNat > Limits.kMaxFrameBytes
    · rw [if_pos hl, if_pos hl]
      rfl
    · rw [if_neg hl, if_neg hl]
      dsimp only
      rw [bind_ok (field_u64 _ _ _ _), bind_ok (field_u64 _ _ _ _), bind_ok (field_u64 _ _ _ _),
        bind_ok (field_u64 _ _ _ _), bind_ok (field_u64 _ _ _ _), bind_ok (field_u64 _ _ _ _),
        bind_ok (field_i64 _ _ _ _), bind_ok (field_u64 _ _ _ _), bind_ok (field_u64 _ _ _ _)]
      by_cases hc : crc64 (encodeHeaderFields h) ≠ crc
      · rw [if_pos hc, if_pos hc]
        rfl
      · rw [if_neg hc, if_neg hc, ofCode_code]
        rfl

theorem decodeHeader_append (h : FrameHeader) (rest : Bytes) :
    decodeHeader (encodeHeader h ++ rest) =
      if h.version.toUInt32 ≠ kFrameProtocolVersion then
        .error ⟨.unsupportedVersion,
          "frame protocol version " ++ toString h.version.toNat ++ " is not supported"⟩
      else if h.payloadLength.toNat > Limits.kMaxFrameBytes then
        .error ⟨.frameTooLarge, "declared payload exceeds the frame bound"⟩
      else .ok { h with headerCrc := crc64 (encodeHeaderFields h) } := by
  have hlen : ¬ (encodeHeader h ++ rest).length < kFrameHeaderBytes := by simp
  have hhead : (encodeHeader h ++ rest).take kFrameHeaderBytes = encodeHeader h := by
    rw [← length_encodeHeader h]
    exact List.take_left
  have hfields : (encodeHeader h ++ rest).take (kFrameHeaderBytes - 8) = encodeHeaderFields h := by
    rw [← length_encodeHeaderFields h, encodeHeader, List.append_assoc]
    exact List.take_left
  unfold decodeHeader
  rw [if_neg hlen, hhead, hfields]
  change (headerDecoder _ (encodeHeader h)).map Prod.fst = _
  rw [headerDecoder_encodeHeader, if_neg (not_not.mpr rfl : ¬ crc64 (encodeHeaderFields h) ≠ _)]
  split
  · rfl
  · split <;> rfl

/-- What the receiver sees of a frame: the header as stamped by the encoder, with its CRC. -/
def received (frame : Frame) : Frame :=
  { header := { stampHeader frame with headerCrc := crc64 (encodeHeaderFields (stampHeader frame)) }
    payload := frame.payload }

def Versioned (frame : Frame) : Prop :=
  frame.header.version = 0 ∨ frame.header.version.toUInt32 = kFrameProtocolVersion

instance (frame : Frame) : Decidable (Versioned frame) := inferInstanceAs (Decidable (_ ∨ _))

theorem stampHeader_version (frame : Frame) :
    (stampHeader frame).version.toUInt32 = kFrameProtocolVersion ↔ Versioned frame := by
  unfold stampHeader Versioned
  by_cases h : frame.header.version = 0
  · simp [h, kFrameProtocolVersion]
  · simp [h]

theorem payloadLength_stampHeader {frame : Frame} (h : frame.payload.length ≤ Limits.kMaxFrameBytes) :
    (stampHeader frame).payloadLength.toNat = frame.payload.length := by
  have hb : Limits.kMaxFrameBytes < 2 ^ 32 := by decide
  simp only [stampHeader, UInt32.toNat_ofNat']
  omega

theorem verifyPayload_received {frame : Frame} (h : frame.payload.length ≤ Limits.kMaxFrameBytes) :
    verifyPayload (received frame).header frame.payload = .ok () := by
  have hl : frame.payload.length = (received frame).header.payloadLength.toNat :=
    (payloadLength_stampHeader h).symm
  have hc : crc64 frame.payload = (received frame).header.payloadCrc := rfl
  unfold verifyPayload
  rw [if_neg (not_not.mpr hl), if_neg (not_lt.mpr h), if_neg (not_not.mpr hc)]

/-- The generation field of a stream payload: eight bytes after the stream kind. -/
def payloadGeneration (payload : Bytes) : Option UInt64 :=
  (readU16 payload).bind (fun kind ↦ (readU64 kind.2).map Prod.fst)

theorem field_eq_ok {α : Type} {reader : Reader α} {code : ErrorCode} {detail : String}
    {bytes rest : Bytes} {a : α} (h : field reader code detail bytes = .ok (a, rest)) :
    reader bytes = some (a, rest) := by
  unfold field at h
  split at h
  · cases h
  · next hr =>
    rw [hr]
    exact congrArg some (Except.ok.inj h)

theorem decodeStreamHeader_ok {expected : StreamKind} {payload rest : Bytes} {header : StreamHeader}
    (h : decodeStreamHeader expected payload = .ok (header, rest)) :
    payloadGeneration payload = some header.generation := by
  unfold decodeStreamHeader at h
  obtain ⟨stream, r₁, h₁, h⟩ := bind_eq_ok h
  dsimp only at h
  split at h
  · cases h
  · obtain ⟨generation, r₂, h₂, h⟩ := bind_eq_ok h
    obtain ⟨observedAt, r₃, -, h⟩ := bind_eq_ok h
    obtain rfl : (⟨expected, generation, observedAt⟩ : StreamHeader) = header :=
      congrArg Prod.fst (Except.ok.inj h)
    simp [payloadGeneration, field_eq_ok h₁, field_eq_ok h₂]

theorem decodeAll_ok {α : Type} {decoder : Decoder α} {bytes : Bytes} {a : α}
    (h : decodeAll decoder bytes = .ok a) : ∃ rest, decoder bytes = .ok (a, rest) := by
  unfold decodeAll at h
  change (decoder bytes).map Prod.fst = .ok a at h
  cases hd : decoder bytes with
  | error e =>
    rw [hd] at h
    cases h
  | ok p =>
    rw [hd] at h
    exact ⟨p.2, by rw [← Except.ok.inj h]⟩

def Returns {α : Type} (P : α → Prop) (decoder : Decoder α) : Prop :=
  ∀ bytes rest a, decoder bytes = .ok (a, rest) → P a

theorem Returns.pure {α : Type} {P : α → Prop} {a : α} (h : P a) : Returns P (pure a : Decoder α) := by
  intro bytes rest b hb
  obtain rfl : a = b := congrArg Prod.fst (Except.ok.inj hb)
  exact h

theorem Returns.bind {α β : Type} {P : β → Prop} {x : Decoder α} {f : α → Decoder β}
    (h : ∀ a, Returns P (f a)) : Returns P (x >>= f) := by
  intro bytes rest b hb
  obtain ⟨a, mid, -, hf⟩ := bind_eq_ok hb
  exact h a mid rest b hf

theorem Returns.bind_of {α β : Type} {P : α → Prop} {Q : β → Prop} {x : Decoder α} {f : α → Decoder β}
    (hx : Returns P x) (hf : ∀ a, P a → Returns Q (f a)) : Returns Q (x >>= f) := by
  intro bytes rest b hb
  obtain ⟨a, mid, ha, hb⟩ := bind_eq_ok hb
  exact hf a (hx bytes mid a ha) mid rest b hb

theorem generation_of_decodeAll {α : Type} {expected : StreamKind} {body : StreamHeader → Decoder α}
    (generation : α → UInt64) {payload : Bytes} {s : α}
    (hbody : ∀ header, Returns (fun s ↦ generation s = header.generation) (body header))
    (h : decodeAll (decodeStreamHeader expected >>= body) payload = .ok s) :
    payloadGeneration payload = some (generation s) := by
  obtain ⟨rest, h⟩ := decodeAll_ok h
  obtain ⟨header, mid, hh, hb⟩ := bind_eq_ok h
  rw [hbody header mid rest s hb]
  exact decodeStreamHeader_ok hh

theorem decodeCapacityPayload_generation {payload : Bytes} {s : CapacitySnapshot}
    (h : decodeCapacityPayload payload = .ok s) : payloadGeneration payload = some s.generation.value := by
  refine generation_of_decodeAll (fun s ↦ s.generation.value) (fun header ↦ ?_) h
  refine Returns.bind fun _ ↦ ?_
  refine Returns.bind fun _ ↦ ?_
  refine Returns.bind fun _ ↦ ?_
  refine Returns.bind fun _ ↦ ?_
  exact Returns.pure rfl

theorem decodeSignalsPayload_generation {payload : Bytes} {s : SignalSnapshot}
    (h : decodeSignalsPayload payload = .ok s) : payloadGeneration payload = some s.generation.value := by
  refine generation_of_decodeAll (fun s ↦ s.generation.value) (fun header ↦ ?_) h
  refine Returns.bind fun _ ↦ ?_
  refine Returns.bind fun _ ↦ ?_
  refine Returns.bind fun _ ↦ ?_
  refine Returns.bind fun _ ↦ ?_
  refine Returns.bind fun _ ↦ ?_
  refine Returns.bind fun _ ↦ ?_
  exact Returns.pure rfl

theorem decodePathsPayload_generation {payload : Bytes} {s : PathSnapshot}
    (h : decodePathsPayload payload = .ok s) : payloadGeneration payload = some s.generation.value := by
  refine generation_of_decodeAll (fun s ↦ s.generation.value) (fun header ↦ ?_) h
  refine Returns.bind fun _ ↦ ?_
  refine Returns.bind fun _ ↦ ?_
  refine Returns.bind fun _ ↦ ?_
  refine Returns.bind fun _ ↦ ?_
  exact Returns.pure rfl

theorem decodeTrafficPayload_generation {payload : Bytes} {s : TrafficSnapshot}
    (h : decodeTrafficPayload payload = .ok s) : payloadGeneration payload = some s.generation.value := by
  refine generation_of_decodeAll (fun s ↦ s.generation.value) (fun header ↦ ?_) h
  refine Returns.bind fun _ ↦ ?_
  refine Returns.bind fun _ ↦ ?_
  refine Returns.bind fun _ ↦ ?_
  refine Returns.bind fun _ ↦ ?_
  exact Returns.pure rfl

theorem decodePolicyPayload_generation {payload : Bytes} {s : PolicySnapshot}
    (h : decodePolicyPayload payload = .ok s) : payloadGeneration payload = some s.generation.value := by
  refine generation_of_decodeAll (fun s ↦ s.generation.value) (fun header ↦ ?_) h
  refine Returns.bind fun _ ↦ ?_
  refine Returns.bind fun _ ↦ ?_
  refine Returns.bind fun _ ↦ ?_
  refine Returns.bind fun _ ↦ ?_
  refine Returns.bind fun _ ↦ ?_
  refine Returns.bind fun _ ↦ ?_
  refine Returns.bind fun _ ↦ ?_
  exact Returns.pure rfl

end HotspotGovernor.Codec
