import HotspotGovernor.Codec

namespace HotspotGovernor.Delimiting

open Foundation ByteIo Topology Evidence Framing Codec

variable {α β : Type}

/-- What a decoder returns is fixed by the bytes it consumed: whatever stands behind them, it returns
the same and leaves what stands there. -/
def Stable (decoder : Decoder α) : Prop :=
  ∀ bytes a rest, decoder bytes = .ok (a, rest) →
    ∃ front, bytes = front ++ rest ∧ ∀ more, decoder (front ++ more) = .ok (a, more)

theorem stable_pure (a : α) : Stable (pure a : Decoder α) := by
  intro bytes b rest h
  obtain ⟨rfl, rfl⟩ := Prod.mk.inj (Except.ok.inj h)
  exact ⟨[], rfl, fun more ↦ rfl⟩

theorem Stable.bind {x : Decoder α} (hx : Stable x) {f : α → Decoder β} (hf : ∀ a, Stable (f a)) :
    Stable (x >>= f) := by
  intro bytes b rest h
  obtain ⟨a, mid, ha, hb⟩ := bind_eq_ok h
  obtain ⟨u, rfl, hu⟩ := hx bytes a mid ha
  obtain ⟨v, rfl, hv⟩ := hf a mid b rest hb
  refine ⟨u ++ v, by rw [List.append_assoc], fun more ↦ ?_⟩
  rw [List.append_assoc, bind_ok (hu (v ++ more)), hv more]

theorem stable_throw (e : Failure) : Stable (throw e : Decoder α) := by
  intro bytes a rest h
  cases h

theorem Stable.ite {condition : Prop} [Decidable condition] {x y : Decoder α} (hx : Stable x) (hy : Stable y) :
    Stable (if condition then x else y) := by
  split
  · exact hx
  · exact hy

theorem stable_lift (result : Result α) : Stable (liftM result : Decoder α) := by
  intro bytes a rest h
  cases result with
  | error e => cases h
  | ok b =>
    obtain ⟨rfl, rfl⟩ := Prod.mk.inj (Except.ok.inj h)
    exact ⟨[], rfl, fun more ↦ rfl⟩

theorem take_eq_some {count : ℕ} {bytes rest word : Bytes} (h : take count bytes = some (word, rest)) :
    word.length = count ∧ bytes = word ++ rest := by
  simp only [take] at h
  split at h
  · cases h
  · next hlen =>
    obtain ⟨rfl, rfl⟩ := Prod.mk.inj (Option.some.inj h)
    refine ⟨?_, (List.take_append_drop count bytes).symm⟩
    rw [List.length_take]
    omega

theorem take_length {count : ℕ} {word : Bytes} (h : word.length = count) (more : Bytes) :
    take count (word ++ more) = some (word, more) := by
  rw [← h]
  exact take_append word more

theorem stable_word (width : ℕ) (ofNat : ℕ → α) (code : ErrorCode) (detail : String) :
    Stable (field (readWord width ofNat) code detail) := by
  intro bytes a rest h
  obtain ⟨word, hlen, rfl, rfl⟩ := readWord_eq_some (field_eq_ok h)
  refine ⟨word, rfl, fun more ↦ ?_⟩
  simp only [field, readWord, take_length hlen, Option.map_some]

theorem stable_u8 (code : ErrorCode) (detail : String) : Stable (field readU8 code detail) :=
  stable_word 1 UInt8.ofNat code detail

theorem stable_u16 (code : ErrorCode) (detail : String) : Stable (field readU16 code detail) :=
  stable_word 2 UInt16.ofNat code detail

theorem stable_u32 (code : ErrorCode) (detail : String) : Stable (field readU32 code detail) :=
  stable_word 4 UInt32.ofNat code detail

theorem stable_u64 (code : ErrorCode) (detail : String) : Stable (field readU64 code detail) :=
  stable_word 8 UInt64.ofNat code detail

theorem stable_i64 (code : ErrorCode) (detail : String) : Stable (field readI64 code detail) :=
  stable_word 8 (fun v ↦ (UInt64.ofNat v).toInt64) code detail

theorem stable_text (limit : ℕ) (code : ErrorCode) (detail : String) :
    Stable (field (readText limit) code detail) := by
  intro bytes a rest h
  have hread := field_eq_ok h
  simp only [readText] at hread
  cases hlen : readU32 bytes with
  | none =>
    rw [hlen] at hread
    cases hread
  | some found =>
    obtain ⟨length, behind⟩ := found
    rw [hlen] at hread
    dsimp only at hread
    split at hread
    · cases hread
    · next hle =>
      obtain ⟨hword, rfl⟩ := take_eq_some hread
      refine ⟨putU32 length ++ a, ?_, fun more ↦ ?_⟩
      · rw [List.append_assoc]
        exact readU32_eq_some hlen
      · simp only [field, readText, List.append_assoc, readU32_append, if_neg hle, take_length hword]

theorem Stable.repeatField {decoder : Decoder α} (h : Stable decoder) (n : ℕ) :
    Stable (repeatField decoder n) := by
  induction n with
  | zero => exact stable_pure []
  | succ n ih => exact h.bind (fun x ↦ ih.bind (fun xs ↦ stable_pure _))

theorem Stable.decodeList {entry : Decoder α} (h : Stable entry) (truncated : String) (limit : ℕ) (what : String) :
    Stable (decodeList truncated limit what entry) :=
  (stable_u32 _ _).bind (fun _ ↦ (stable_lift _).bind (fun _ ↦ h.repeatField _))

def Delimits (decoder : Decoder α) : Prop :=
  ∀ x y a b r s, decoder x = .ok (a, r) → decoder y = .ok (b, s) → x <+: y → x = y

theorem Stable.delimits {x : Decoder α} (hx : Stable x) {f : α → Decoder β} (hf : ∀ a, Delimits (f a)) :
    Delimits (x >>= f) := by
  rintro p q b c r s hp hq ⟨t, rfl⟩
  obtain ⟨a, mid, ha, hb⟩ := bind_eq_ok hp
  obtain ⟨front, rfl, hfront⟩ := hx p a mid ha
  rw [List.append_assoc, bind_ok (hfront (mid ++ t))] at hq
  rw [List.append_assoc, ← hf a mid (mid ++ t) b c r s hb hq (List.prefix_append mid t)]

theorem delimits_throw (e : Failure) : Delimits (throw e : Decoder α) := by
  intro x y a b r s hx
  cases hx

theorem Delimits.ite {condition : Prop} [Decidable condition] {x y : Decoder α} (hx : Delimits x)
    (hy : Delimits y) : Delimits (if condition then x else y) := by
  split
  · exact hx
  · exact hy

theorem requireEnd_ok {bytes rest : Bytes} {u : Unit} (h : requireEnd bytes = .ok (u, rest)) : bytes = [] := by
  simp only [requireEnd] at h
  split at h
  · next hempty => exact List.isEmpty_iff.mp hempty
  · cases h

theorem delimits_of_empty {check : Decoder β} (h : ∀ bytes u rest, check bytes = .ok (u, rest) → bytes = [])
    (f : β → Decoder α) : Delimits (check >>= f) := by
  intro x y a b r s hx hy _
  obtain ⟨u, mid, hx', _⟩ := bind_eq_ok hx
  obtain ⟨v, mid', hy', _⟩ := bind_eq_ok hy
  rw [h _ _ _ hx', h _ _ _ hy']

theorem delimits_end (f : Unit → Decoder α) : Delimits (requireEnd >>= f) :=
  delimits_of_empty (fun _ _ _ ↦ requireEnd_ok) f

theorem stable_streamHeader (expected : StreamKind) : Stable (decodeStreamHeader expected) := by
  rw [decodeStreamHeader]
  refine (stable_u16 _ _).bind (fun stream ↦ Stable.ite (stable_throw _) ?_)
  exact (stable_u64 _ _).bind (fun generation ↦ (stable_i64 _ _).bind (fun observedAt ↦ stable_pure _))

theorem stable_region : Stable decodeRegion := by
  rw [decodeRegion]
  exact (stable_u64 _ _).bind (fun _ ↦ (stable_u64 _ _).bind (fun _ ↦ (stable_text _ _ _).bind (fun _ ↦
    stable_pure _)))

theorem stable_resource : Stable decodeResource := by
  rw [decodeResource]
  exact (stable_u64 _ _).bind (fun _ ↦ (stable_u64 _ _).bind (fun _ ↦ (stable_u8 _ _).bind (fun _ ↦
    (stable_text _ _ _).bind (fun _ ↦ stable_pure _))))

theorem stable_link : Stable decodeLink := by
  rw [decodeLink]
  exact (stable_u64 _ _).bind (fun _ ↦ (stable_u64 _ _).bind (fun _ ↦ (stable_u64 _ _).bind (fun _ ↦
    stable_pure _)))

theorem stable_capacityEntry : Stable decodeCapacityEntry := by
  rw [decodeCapacityEntry]
  exact (stable_u64 _ _).bind (fun _ ↦ (stable_u64 _ _).bind (fun _ ↦ (stable_u64 _ _).bind (fun _ ↦
    (stable_u64 _ _).bind (fun _ ↦ (stable_u8 _ _).bind (fun _ ↦ stable_pure _)))))

theorem stable_signalRecord : Stable decodeSignalRecord := by
  rw [decodeSignalRecord]
  refine (stable_u64 _ _).bind (fun _ ↦ (stable_u64 _ _).bind (fun _ ↦ (stable_u64 _ _).bind (fun _ ↦ ?_)))
  refine (stable_u64 _ _).bind (fun _ ↦ (stable_u64 _ _).bind (fun _ ↦ (stable_u64 _ _).bind (fun _ ↦ ?_)))
  refine (stable_u64 _ _).bind (fun _ ↦ (stable_u32 _ _).bind (fun _ ↦ (stable_u8 _ _).bind (fun _ ↦ ?_)))
  exact (stable_i64 _ _).bind (fun _ ↦ stable_pure _)

theorem stable_pathRecord : Stable decodePathRecord := by
  rw [decodePathRecord]
  refine (stable_u64 _ _).bind (fun _ ↦ (stable_u64 _ _).bind (fun _ ↦ (stable_u32 _ _).bind (fun hops ↦ ?_)))
  refine Stable.ite (stable_throw _) ?_
  exact ((stable_u64 _ _).repeatField _).bind (fun _ ↦ stable_pure _)

theorem stable_trafficRecord : Stable decodeTrafficRecord := by
  rw [decodeTrafficRecord]
  exact (stable_u64 _ _).bind (fun _ ↦ (stable_u64 _ _).bind (fun _ ↦ (stable_u64 _ _).bind (fun _ ↦
    (stable_u8 _ _).bind (fun _ ↦ (stable_i64 _ _).bind (fun _ ↦ stable_pure _)))))

theorem stable_thresholds : Stable decodeThresholds := by
  rw [decodeThresholds]
  repeat refine (stable_u32 _ _).bind (fun _ ↦ ?_)
  exact stable_pure _

theorem stable_budget : Stable decodeBudget := by
  rw [decodeBudget]
  repeat refine (stable_u32 _ _).bind (fun _ ↦ ?_)
  repeat refine (stable_u8 _ _).bind (fun _ ↦ ?_)
  exact stable_pure _

theorem stable_bands : Stable decodeBands := by
  rw [decodeBands]
  repeat refine (stable_u32 _ _).bind (fun _ ↦ ?_)
  exact stable_pure _

theorem delimits_topology : Delimits topologyDecoder := by
  rw [topologyDecoder]
  refine (stable_streamHeader _).delimits (fun _ ↦ (stable_i64 _ _).delimits (fun _ ↦ ?_))
  refine (stable_region.decodeList _ _ _).delimits (fun _ ↦ ?_)
  refine (stable_resource.decodeList _ _ _).delimits (fun _ ↦ ?_)
  exact (stable_link.decodeList _ _ _).delimits (fun _ ↦ delimits_end _)

theorem delimits_capacity : Delimits capacityDecoder := by
  rw [capacityDecoder]
  refine (stable_streamHeader _).delimits (fun _ ↦ (stable_u64 _ _).delimits (fun _ ↦ ?_))
  exact (stable_capacityEntry.decodeList _ _ _).delimits (fun _ ↦ delimits_end _)

theorem delimits_signals : Delimits signalsDecoder := by
  rw [signalsDecoder]
  refine (stable_streamHeader _).delimits (fun _ ↦ (stable_u64 _ _).delimits (fun _ ↦ ?_))
  refine (stable_u64 _ _).delimits (fun _ ↦ (stable_i64 _ _).delimits (fun _ ↦ ?_))
  exact (stable_signalRecord.decodeList _ _ _).delimits (fun _ ↦ delimits_end _)

theorem delimits_paths : Delimits pathsDecoder := by
  rw [pathsDecoder]
  refine (stable_streamHeader _).delimits (fun _ ↦ (stable_u64 _ _).delimits (fun _ ↦ ?_))
  exact (stable_pathRecord.decodeList _ _ _).delimits (fun _ ↦ delimits_end _)

theorem delimits_traffic : Delimits trafficDecoder := by
  rw [trafficDecoder]
  refine (stable_streamHeader _).delimits (fun _ ↦ (stable_u64 _ _).delimits (fun _ ↦ ?_))
  exact (stable_trafficRecord.decodeList _ _ _).delimits (fun _ ↦ delimits_end _)

theorem delimits_policy : Delimits policyDecoder := by
  rw [policyDecoder]
  refine (stable_streamHeader _).delimits (fun _ ↦ (stable_u64 _ _).delimits (fun _ ↦ ?_))
  refine (stable_i64 _ _).delimits (fun _ ↦ (stable_u32 _ _).delimits (fun _ ↦ ?_))
  refine stable_thresholds.delimits (fun _ ↦ stable_budget.delimits (fun _ ↦ ?_))
  exact stable_bands.delimits (fun _ ↦ delimits_end _)

theorem delimits_hello : Delimits helloDecoder := by
  rw [helloDecoder]
  refine (stable_u64 _ _).delimits (fun _ ↦ (stable_u64 _ _).delimits (fun _ ↦ ?_))
  refine (stable_u64 _ _).delimits (fun _ ↦ (stable_u32 _ _).delimits (fun _ ↦ ?_))
  -- A wrong version is refused before the end is asked for.
  exact (stable_text _ _ _).delimits (fun _ ↦ (delimits_throw _).ite (delimits_end _))

theorem delimits_welcome : Delimits welcomeDecoder := by
  rw [welcomeDecoder]
  refine (stable_u64 _ _).delimits (fun _ ↦ (stable_u64 _ _).delimits (fun _ ↦ ?_))
  refine (stable_u32 _ _).delimits (fun _ ↦ (stable_u32 _ _).delimits (fun _ ↦ ?_))
  exact (stable_text _ _ _).delimits (fun _ ↦ delimits_end _)

theorem delimits_rejected : Delimits rejectedDecoder := by
  rw [rejectedDecoder]
  exact (stable_u32 _ _).delimits (fun _ ↦ (stable_text _ _ _).delimits (fun _ ↦ delimits_end _))

def Accepts (decode : Bytes → Result α) (payload : Bytes) : Prop := ∃ a, decode payload = .ok a

/-- Of an accepted payload no strict prefix and no strict extension is accepted. -/
def SelfDelimiting (decode : Bytes → Result α) : Prop :=
  ∀ payload, Accepts decode payload →
    (∀ part, part <+: payload → part ≠ payload → ¬ Accepts decode part) ∧
    (∀ longer, payload <+: longer → longer ≠ payload → ¬ Accepts decode longer)

theorem Delimits.selfDelimiting {decoder : Decoder α} (h : Delimits decoder) :
    SelfDelimiting (decodeAll decoder) := by
  have key : ∀ x y, Accepts (decodeAll decoder) x → Accepts (decodeAll decoder) y → x <+: y → x = y := by
    rintro x y ⟨a, ha⟩ ⟨b, hb⟩ hxy
    obtain ⟨r, hr⟩ := decodeAll_ok ha
    obtain ⟨s, hs⟩ := decodeAll_ok hb
    exact h x y a b r s hr hs hxy
  intro payload hp
  constructor
  · intro part hpart hne haccept
    exact hne (key part payload haccept hp hpart)
  · intro longer hlong hne haccept
    exact hne (key payload longer hp haccept hlong).symm

/-- The header a frame arrives with: the fields the sender set, and those the encoder fills in. -/
def arriving (frame : Frame) : FrameHeader :=
  { frame.header with
    version := kFrameProtocolVersion.toUInt16
    payloadLength := UInt32.ofNat frame.payload.length
    payloadCrc := crc64 frame.payload
    headerCrc := crc64 (encodeHeaderFields (stampHeader frame)) }

theorem stampHeader_current {frame : Frame} (h : Versioned frame) :
    (stampHeader frame).version = kFrameProtocolVersion.toUInt16 := by
  simp only [stampHeader]
  split
  · rfl
  · next hne => rw [← h.resolve_left hne, UInt16.toUInt16_toUInt32]

theorem received_header {frame : Frame} (h : Versioned frame) : (received frame).header = arriving frame := by
  calc (received frame).header
      = { arriving frame with version := (stampHeader frame).version } := rfl
    _ = arriving frame := by rw [stampHeader_current h]; rfl

theorem decodeHeader_encodeFrame {frame : Frame} (hlen : frame.payload.length ≤ Limits.kMaxFrameBytes)
    (hv : Versioned frame) :
    decodeHeader (encodeHeader (stampHeader frame) ++ frame.payload) = .ok (arriving frame) := by
  rw [decodeHeader_append, if_neg (not_not.mpr ((stampHeader_version frame).mpr hv)),
    payloadLength_stampHeader hlen, if_neg (not_lt.mpr hlen), ← received_header hv]
  rfl

theorem verifyPayload_other_length {header : FrameHeader} {payload : Bytes}
    (h : payload.length ≠ header.payloadLength.toNat) : verifyPayload header payload ≠ .ok () := by
  rw [verifyPayload, if_pos h]
  intro hc
  cases hc

/-- Payload formats delimit themselves, and a frame survives its way over the wire: the encoder writes
the header and the payload, the header comes back with the fields the encoder fills in, and of all
payloads of other lengths none passes for the one sent. -/
theorem payloads_self_delimiting_and_frames_round_trip :
    (SelfDelimiting decodeTopologyPayload ∧ SelfDelimiting decodeCapacityPayload ∧
      SelfDelimiting decodeSignalsPayload ∧ SelfDelimiting decodePathsPayload ∧
      SelfDelimiting decodeTrafficPayload ∧ SelfDelimiting decodePolicyPayload ∧
      SelfDelimiting decodeHello ∧ SelfDelimiting decodeWelcome ∧ SelfDelimiting decodeRejected) ∧
    ∀ frame : Frame, frame.payload.length ≤ Limits.kMaxFrameBytes → Versioned frame →
      ∃ bytes, encodeFrame frame = .ok bytes ∧
        bytes.length = 88 + frame.payload.length ∧ bytes.drop 88 = frame.payload ∧
        decodeHeader bytes = .ok (arriving frame) ∧
        (arriving frame).payloadLength.toNat = frame.payload.length ∧
        verifyPayload (arriving frame) frame.payload = .ok () ∧
        ∀ payload : Bytes, payload.length ≠ frame.payload.length →
          verifyPayload (arriving frame) payload ≠ .ok () := by
  constructor
  · exact ⟨delimits_topology.selfDelimiting, delimits_capacity.selfDelimiting, delimits_signals.selfDelimiting,
      delimits_paths.selfDelimiting, delimits_traffic.selfDelimiting, delimits_policy.selfDelimiting,
      delimits_hello.selfDelimiting, delimits_welcome.selfDelimiting, delimits_rejected.selfDelimiting⟩
  · intro frame hlen hv
    have hhead : (encodeHeader (stampHeader frame)).length = 88 := length_encodeHeader _
    have hdeclared : (arriving frame).payloadLength.toNat = frame.payload.length := payloadLength_stampHeader hlen
    refine ⟨encodeHeader (stampHeader frame) ++ frame.payload, ?_, ?_, ?_, ?_, hdeclared, ?_, ?_⟩
    · rw [encodeFrame, if_neg (not_lt.mpr hlen)]
    · rw [List.length_append, hhead]
    · exact List.drop_left' hhead
    · exact decodeHeader_encodeFrame hlen hv
    · rw [← received_header hv]
      exact verifyPayload_received hlen
    · intro payload hne
      apply verifyPayload_other_length
      rwa [hdeclared]

/-- A refusal with one byte behind it is not accepted; the same refusal as a frame comes back whole. -/
theorem rejected_delimited :
    ¬ Accepts decodeRejected (encodeRejected ⟨7, [104]⟩ ++ [0]) ∧
      ∃ bytes, encodeFrame { payload := encodeRejected ⟨7, [104]⟩ } = .ok bytes ∧
        decodeHeader bytes = .ok (arriving { payload := encodeRejected ⟨7, [104]⟩ }) := by
  obtain ⟨⟨_, _, _, _, _, _, _, _, hrejected⟩, hframe⟩ := payloads_self_delimiting_and_frames_round_trip
  constructor
  · have hsent : Accepts decodeRejected (encodeRejected ⟨7, [104]⟩) := ⟨⟨7, [104]⟩, by decide⟩
    exact (hrejected _ hsent).2 _ (List.prefix_append _ _) (by decide)
  · obtain ⟨bytes, hencode, -, -, hdecode, -⟩ :=
      hframe { payload := encodeRejected ⟨7, [104]⟩ } (by decide) (.inl rfl)
    exact ⟨bytes, hencode, hdecode⟩

end HotspotGovernor.Delimiting
