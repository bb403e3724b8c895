import HotspotGovernor.Transport

namespace HotspotGovernor.Reassembly

open Foundation ByteIo Framing Codec Transport

def wire (frame : Frame) : Bytes := encodeHeader (stampHeader frame) ++ frame.payload

theorem encodeFrame_eq_ok {frame : Frame} {bytes : Bytes} (h : encodeFrame frame = .ok bytes) :
    frame.payload.length ≤ Limits.kMaxFrameBytes ∧ bytes = wire frame := by
  unfold encodeFrame at h
  split at h
  · cases h
  · next hlen => exact ⟨not_lt.mp hlen, (Except.ok.inj h).symm⟩

theorem length_wire (frame : Frame) : (wire frame).length = kFrameHeaderBytes + frame.payload.length := by
  simp [wire]

theorem wire_ne_nil (frame : Frame) : wire frame ≠ [] := by
  apply List.ne_nil_of_length_pos
  rw [length_wire, kFrameHeaderBytes]
  omega

theorem receiveFrame_nil {socket : Socket} (h : tokens socket = []) :
    ∃ socket', receiveFrame socket = (.error closedFailure, socket') := by
  obtain ⟨socket', hr, -⟩ := recvExact_eq_pull kFrameHeaderBytes socket
  rw [h] at hr
  refine ⟨socket', ?_⟩
  unfold receiveFrame
  rw [hr]
  rfl

theorem receiveFrame_interrupted {socket : Socket} {bs : Bytes} {ts : List (Option UInt8)}
    (h : tokens socket = bs.map some ++ none :: ts) (hlen : bs.length < kFrameHeaderBytes) :
    ∃ socket', receiveFrame socket = (.error timeoutFailure, socket') ∧ tokens socket' = ts := by
  obtain ⟨socket', hr, ht⟩ := recvExact_eq_pull kFrameHeaderBytes socket
  rw [h, pull_interrupted hlen] at hr ht
  refine ⟨socket', ?_, ht⟩
  unfold receiveFrame
  rw [hr]

section Header

variable {frame : Frame} {socket : Socket} {ts : List (Option UInt8)}

theorem receiveFrame_header (hlen : frame.payload.length ≤ Limits.kMaxFrameBytes)
    (h : tokens socket = (encodeHeader (stampHeader frame)).map some ++ ts) :
    ∃ socket', tokens socket' = ts ∧ receiveFrame socket =
      if Versioned frame then
        match receivePayload (received frame).header socket' with
        | (.error e, socket) => (.error e, socket)
        | (.ok payload, socket) =>
          match verifyPayload (received frame).header payload with
          | .error e => (.error e, socket)
          | .ok () => (.ok { header := (received frame).header, payload }, socket)
      else (.error ⟨.unsupportedVersion, "frame protocol version " ++
        toString (stampHeader frame).version.toNat ++ " is not supported"⟩, socket') := by
  obtain ⟨socket', hr, ht⟩ := recvExact_eq_pull kFrameHeaderBytes socket
  have hp := pull_exact (encodeHeader (stampHeader frame)) ts
  rw [length_encodeHeader] at hp
  rw [h, hp] at hr ht
  refine ⟨socket', ht, ?_⟩
  have hd := decodeHeader_append (stampHeader frame) []
  rw [List.append_nil, payloadLength_stampHeader hlen, if_neg (not_lt.mpr hlen)] at hd
  unfold receiveFrame
  rw [hr]
  dsimp only
  rw [hd]
  by_cases hv : Versioned frame
  · rw [if_neg (not_not.mpr ((stampHeader_version frame).mpr hv)), if_pos hv]
    rfl
  · rw [if_pos (fun hc ↦ hv ((stampHeader_version frame).mp hc)), if_neg hv]

theorem receivePayload_eq_pull (hlen : frame.payload.length ≤ Limits.kMaxFrameBytes) (socket : Socket) :
    ∃ socket', receivePayload (received frame).header socket =
        ((pull frame.payload.length (tokens socket)).1, socket') ∧
      tokens socket' = (pull frame.payload.length (tokens socket)).2 := by
  have hl : (received frame).header.payloadLength.toNat = frame.payload.length :=
    payloadLength_stampHeader hlen
  unfold receivePayload
  by_cases h0 : (received frame).header.payloadLength = 0
  · rw [if_pos h0]
    have : frame.payload.length = 0 := by rw [← hl, h0]; rfl
    rw [this]
    exact ⟨socket, rfl, rfl⟩
  · rw [if_neg h0, hl]
    exact recvExact_eq_pull _ _

theorem receiveFrame_wire (hlen : frame.payload.length ≤ Limits.kMaxFrameBytes) (hv : Versioned frame)
    (h : tokens socket = (wire frame).map some ++ ts) :
    ∃ socket', receiveFrame socket = (.ok (received frame), socket') ∧ tokens socket' = ts := by
  rw [wire, List.map_append, List.append_assoc] at h
  obtain ⟨socket', ht, hr⟩ := receiveFrame_header hlen h
  rw [if_pos hv] at hr
  obtain ⟨socket'', hp, ht'⟩ := receivePayload_eq_pull hlen socket'
  rw [ht, pull_exact] at hp ht'
  rw [hr, hp]
  dsimp only
  rw [verifyPayload_received hlen]
  exact ⟨socket'', rfl, ht'⟩

theorem receiveFrame_unversioned (hlen : frame.payload.length ≤ Limits.kMaxFrameBytes)
    (hv : ¬ Versioned frame) (h : tokens socket = (encodeHeader (stampHeader frame)).map some ++ ts) :
    ∃ e socket', receiveFrame socket = (.error e, socket') ∧ e.code ≠ .timeout := by
  obtain ⟨socket', -, hr⟩ := receiveFrame_header hlen h
  rw [if_neg hv] at hr
  exact ⟨_, socket', hr, fun hc ↦ by cases hc⟩

theorem receiveFrame_torn (hlen : frame.payload.length ≤ Limits.kMaxFrameBytes) {bs : Bytes}
    (hne : bs ≠ []) (hpre : bs <+: wire frame) (hlt : bs.length < (wire frame).length)
    (h : tokens socket = bs.map some ++ none :: ts) :
    ∃ e socket', receiveFrame socket = (.error e, socket') ∧
      (e.code = .timeout → (bytesOf (tokens socket')).length < (bytesOf (tokens socket)).length) := by
  have hbytes : bytesOf (tokens socket) = bs ++ bytesOf ts := by rw [h]; simp
  have hpos := List.length_pos_of_ne_nil hne
  by_cases hshort : bs.length < kFrameHeaderBytes
  · obtain ⟨socket', hr, ht⟩ := receiveFrame_interrupted h hshort
    refine ⟨timeoutFailure, socket', hr, fun _ ↦ ?_⟩
    rw [ht, hbytes, List.length_append]
    omega
  · obtain ⟨p, rfl⟩ : ∃ p, bs = encodeHeader (stampHeader frame) ++ p := by
      have hle : (encodeHeader (stampHeader frame)).length ≤ bs.length := by
        rw [length_encodeHeader]; omega
      obtain ⟨p, hp⟩ := List.prefix_of_prefix_length_le (List.prefix_append _ _) hpre hle
      exact ⟨p, hp.symm⟩
    rw [List.map_append, List.append_assoc] at h
    by_cases hv : Versioned frame
    · obtain ⟨socket', ht, hr⟩ := receiveFrame_header hlen h
      rw [if_pos hv] at hr
      obtain ⟨socket'', hp, ht'⟩ := receivePayload_eq_pull hlen socket'
      have hshort' : p.length < frame.payload.length := by
        rw [length_wire, List.length_append, length_encodeHeader] at hlt
        omega
      rw [ht, pull_interrupted hshort'] at hp ht'
      rw [hp] at hr
      refine ⟨timeoutFailure, socket'', hr, fun _ ↦ ?_⟩
      rw [ht', hbytes, List.length_append]
      dsimp only
      omega
    · obtain ⟨e, socket', hr, hc⟩ := receiveFrame_unversioned hlen hv h
      exact ⟨e, socket', hr, fun h ↦ absurd h hc⟩

end Header

/-- What a read of the socket may leave behind: exactly the rest of the bytes when it succeeds, no
more than before when it fails, and fewer arrivals after a timeout. -/
def Consumes (socket : Socket) (size : ℕ) : Result Bytes × Socket → Prop
  | (.ok bs, socket') => bs.length = size ∧ tokens socket = bs.map some ++ tokens socket'
  | (.error e, socket') => (bytesOf (tokens socket')).length ≤ (bytesOf (tokens socket)).length ∧
      (e.code = .timeout → (tokens socket').length < (tokens socket).length)

theorem recvExact_consumes (want : ℕ) (socket : Socket) :
    Consumes socket want (recvExact want socket) := by
  obtain ⟨socket', hr, ht⟩ := recvExact_eq_pull want socket
  rw [hr]
  rcases pull_spec want (tokens socket) with ⟨bs, hlen, hts, hok⟩ | ⟨e, herr, hle, hlt⟩
  · rw [hok]
    exact ⟨hlen, by rw [ht, ← hts]⟩
  · rw [herr]
    refine ⟨by rw [ht]; exact hle, ?_⟩
    intro hc
    rw [ht]
    exact hlt hc

theorem receivePayload_consumes (header : FrameHeader) (socket : Socket) :
    Consumes socket header.payloadLength.toNat (receivePayload header socket) := by
  unfold receivePayload
  split
  · next h =>
    rw [h]
    exact ⟨rfl, rfl⟩
  · exact recvExact_consumes _ _

/-- A received frame uses up its header and its payload; a failure uses up no more than it read. -/
theorem receiveFrame_bytes (socket : Socket) :
    match receiveFrame socket with
    | (.ok frame, socket') => (tokens socket').length < (tokens socket).length ∧
        (bytesOf (tokens socket')).length + kFrameHeaderBytes + frame.payload.length =
          (bytesOf (tokens socket)).length
    | (.error e, socket') => (bytesOf (tokens socket')).length ≤ (bytesOf (tokens socket)).length ∧
        (e.code = .timeout → (tokens socket').length < (tokens socket).length) := by
  have hhead := recvExact_consumes kFrameHeaderBytes socket
  unfold receiveFrame
  cases hr : recvExact kFrameHeaderBytes socket with
  | mk r socket₁ =>
    rw [hr] at hhead
    cases r with
    | error e => exact hhead
    | ok headerBytes =>
      obtain ⟨hlen, htok⟩ := hhead
      have hcount : (bytesOf (tokens socket)).length =
          kFrameHeaderBytes + (bytesOf (tokens socket₁)).length := by
        rw [htok, bytesOf_some, List.length_append, hlen]
      have hshort : (tokens socket₁).length < (tokens socket).length := by
        have : 0 < headerBytes.length := by rw [hlen]; decide
        rw [htok, List.length_append, List.length_map]
        omega
      have hstop : ∀ e : Failure, (bytesOf (tokens socket₁)).length ≤ (bytesOf (tokens socket)).length ∧
          (e.code = .timeout → (tokens socket₁).length < (tokens socket).length) :=
        fun e ↦ ⟨by omega, fun _ ↦ hshort⟩
      dsimp only
      cases hd : decodeHeader headerBytes with
      | error e => exact hstop e
      | ok header =>
        have hpay := receivePayload_consumes header socket₁
        dsimp only
        cases hp : receivePayload header socket₁ with
        | mk r socket₂ =>
          rw [hp] at hpay
          cases r with
          | error e => exact ⟨by have := hpay.1; omega, fun hc ↦ (hpay.2 hc).trans hshort⟩
          | ok payload =>
            obtain ⟨-, htok₂⟩ := hpay
            have hcount₂ : (bytesOf (tokens socket₁)).length =
                payload.length + (bytesOf (tokens socket₂)).length := by
              rw [htok₂, bytesOf_some, List.length_append]
            have hshort₂ : (tokens socket₂).length ≤ (tokens socket₁).length := by
              rw [htok₂, List.length_append]
              omega
            dsimp only
            cases hv : verifyPayload header payload with
            | error e => exact ⟨by omega, fun _ ↦ by omega⟩
            | ok _ => exact ⟨by omega, by dsimp only; omega⟩

theorem receiveLoop_bytes (rounds : ℕ) (socket : Socket) :
    ((receiveLoop rounds socket).1.map (fun f ↦ kFrameHeaderBytes + f.payload.length)).sum ≤
      (bytesOf (tokens socket)).length := by
  induction rounds generalizing socket with
  | zero => simp [receiveLoop]
  | succ rounds ih =>
    have h := receiveFrame_bytes socket
    rw [receiveLoop]
    split
    · next e socket' hr =>
      rw [hr] at h
      split
      · exact (ih socket').trans h.1
      · simp
    · next frame socket' hr =>
      rw [hr] at h
      have := ih socket'
      simp only [List.map_cons, List.sum_cons]
      omega

/-- The byte offsets at which a receive window passed, counted from `start`. -/
def timeoutOffsets (start : ℕ) : List (Option UInt8) → List ℕ
  | [] => []
  | none :: ts => start :: timeoutOffsets start ts
  | some _ :: ts => timeoutOffsets (start + 1) ts

/-- The offsets at which a frame begins or the last one ends, counted from `start`. -/
def frameBoundaries (start : ℕ) : List Frame → List ℕ
  | [] => [start]
  | frame :: frames => start :: frameBoundaries (start + (wire frame).length) frames

theorem timeoutOffsets_some (start : ℕ) (bs : Bytes) (ts : List (Option UInt8)) :
    timeoutOffsets start (bs.map some ++ ts) = timeoutOffsets (start + bs.length) ts := by
  induction bs generalizing start with
  | nil => rfl
  | cons b bs ih =>
    rw [List.map_cons, List.cons_append, timeoutOffsets, ih, List.length_cons]
    congr 1
    omega

theorem le_of_mem_timeoutOffsets {start k : ℕ} {ts : List (Option UInt8)}
    (h : k ∈ timeoutOffsets start ts) : start ≤ k := by
  induction ts generalizing start with
  | nil => cases h
  | cons t ts ih =>
    cases t with
    | none =>
      rcases List.mem_cons.mp h with rfl | h
      · exact le_rfl
      · exact ih h
    | some b => exact (Nat.le_succ start).trans (ih h)

theorem le_of_mem_frameBoundaries {start k : ℕ} {frames : List Frame}
    (h : k ∈ frameBoundaries start frames) : start ≤ k := by
  induction frames generalizing start with
  | nil => exact (List.mem_singleton.mp h).ge
  | cons frame frames ih =>
    rcases List.mem_cons.mp h with rfl | h
    · exact le_rfl
    · exact (Nat.le_add_right _ _).trans (ih h)

theorem start_mem_frameBoundaries (start : ℕ) (frames : List Frame) :
    start ∈ frameBoundaries start frames := by
  cases frames <;> simp [frameBoundaries]

theorem whole_or_torn {ts : List (Option UInt8)} {w rest : Bytes} (h : bytesOf ts = w ++ rest) :
    (∃ ts', ts = w.map some ++ ts' ∧ bytesOf ts' = rest) ∨
    ∃ bs ts', ts = bs.map some ++ none :: ts' ∧ bs <+: w ∧ bs.length < w.length := by
  induction w generalizing ts with
  | nil => exact Or.inl ⟨ts, rfl, h⟩
  | cons b w ih =>
    cases ts with
    | nil => cases h
    | cons t ts =>
      cases t with
      | none => exact Or.inr ⟨[], ts, rfl, List.nil_prefix, by simp⟩
      | some c =>
        have hc : c :: bytesOf ts = b :: (w ++ rest) := h
        obtain ⟨rfl, hts⟩ := List.cons.inj hc
        rcases ih hts with ⟨ts', rfl, hr⟩ | ⟨bs, ts', rfl, hpre, hlt⟩
        · exact Or.inl ⟨ts', rfl, hr⟩
        · refine Or.inr ⟨c :: bs, ts', rfl, ?_, by simpa using hlt⟩
          exact List.cons_prefix_cons.mpr ⟨rfl, hpre⟩

theorem sum_received (frames : List Frame) :
    ((frames.map received).map (fun f ↦ kFrameHeaderBytes + f.payload.length)).sum =
      (frames.flatMap wire).length := by
  induction frames with
  | nil => rfl
  | cons frame frames ih =>
    rw [List.map_cons, List.map_cons, List.sum_cons, ih, List.flatMap_cons, List.length_append,
      length_wire]
    rfl

theorem receiveLoop_ne_of_lost {rounds : ℕ} {socket socket' : Socket} {frames : List Frame} {e : Failure}
    (hr : receiveFrame socket = (.error e, socket'))
    (hlost : e.code = .timeout → (bytesOf (tokens socket')).length < (bytesOf (tokens socket)).length)
    (hbytes : bytesOf (tokens socket) = frames.flatMap wire) (hne : frames ≠ []) :
    receiveLoop (rounds + 1) socket ≠ (frames.map received, some closedFailure) := by
  intro h
  rw [receiveLoop, hr] at h
  dsimp only at h
  by_cases hc : e.code = .timeout
  · rw [if_pos hc] at h
    have hle := receiveLoop_bytes rounds socket'
    rw [h, sum_received, ← hbytes] at hle
    exact absurd (hlost hc) (not_lt.mpr hle)
  · rw [if_neg hc] at h
    exact hne (List.map_eq_nil_iff.mp (congrArg Prod.fst h).symm)

theorem receiveLoop_eq_iff {rounds : ℕ} {socket : Socket} {frames : List Frame}
    (hlen : ∀ f ∈ frames, f.payload.length ≤ Limits.kMaxFrameBytes)
    (hrounds : (tokens socket).length < rounds) (hbytes : bytesOf (tokens socket) = frames.flatMap wire)
    (start : ℕ) :
    receiveLoop rounds socket = (frames.map received, some closedFailure) ↔
      (∀ f ∈ frames, Versioned f) ∧
        ∀ k ∈ timeoutOffsets start (tokens socket), k ∈ frameBoundaries start frames := by
  induction rounds generalizing socket frames start with
  | zero => omega
  | succ rounds ih =>
    cases hts : tokens socket with
    | nil =>
      obtain ⟨socket', hr⟩ := receiveFrame_nil hts
      have hnil : frames = [] := by
        cases frames with
        | nil => rfl
        | cons f fs =>
          rw [hts, bytesOf_nil, List.flatMap_cons] at hbytes
          exact absurd (List.append_eq_nil_iff.mp hbytes.symm).1 (wire_ne_nil f)
      subst hnil
      rw [receiveLoop, hr]
      simp [closedFailure, timeoutOffsets]
    | cons t ts =>
      cases t with
      | none =>
        obtain ⟨socket', hr, ht⟩ := receiveFrame_interrupted (show tokens socket = [].map some ++ _ from hts)
          (by decide)
        have hrest : (tokens socket').length < rounds := by
          rw [hts, List.length_cons] at hrounds
          rw [ht]
          omega
        have hbytes' : bytesOf (tokens socket') = frames.flatMap wire := by
          rw [ht, ← hbytes, hts, bytesOf_none]
        rw [receiveLoop, hr]
        dsimp only
        rw [if_pos (show timeoutFailure.code = .timeout from rfl), ih hlen hrest hbytes' start, ht]
        simp [timeoutOffsets, start_mem_frameBoundaries]
      | some b =>
        rw [← hts]
        cases frames with
        | nil =>
          rw [hts] at hbytes
          cases hbytes
        | cons frame frames =>
          have hframe := hlen frame List.mem_cons_self
          rw [List.flatMap_cons] at hbytes
          rcases whole_or_torn hbytes with ⟨ts', hwhole, hrest⟩ | ⟨bs, ts', htorn, hpre, hlt⟩
          · by_cases hv : Versioned frame
            · obtain ⟨socket', hr, ht⟩ := receiveFrame_wire hframe hv hwhole
              have hpos := List.length_pos_of_ne_nil (wire_ne_nil frame)
              have hrounds' : (tokens socket').length < rounds := by
                rw [hwhole, List.length_append, List.length_map] at hrounds
                rw [ht]
                omega
              have hloop := ih (fun f hf ↦ hlen f (List.mem_cons_of_mem _ hf)) hrounds'
                (by rw [ht, hrest]) (start + (wire frame).length)
              rw [ht] at hloop
              rw [receiveLoop, hr, hwhole, timeoutOffsets_some]
              simp only [List.map_cons, Prod.mk.injEq, List.cons.injEq, true_and, List.forall_mem_cons, hv]
              rw [← Prod.mk.injEq, Prod.mk.eta, hloop]
              refine and_congr_right fun _ ↦ forall₂_congr fun k hk ↦ ?_
              have hle := le_of_mem_timeoutOffsets hk
              simp only [frameBoundaries, List.mem_cons]
              exact ⟨Or.inr, fun h ↦ h.resolve_left (by omega)⟩
            · rw [wire, List.map_append, List.append_assoc] at hwhole
              obtain ⟨e, socket', hr, hc⟩ := receiveFrame_unversioned hframe hv hwhole
              rw [receiveLoop, hr]
              simp [hc, hv]
          · have hne : bs ≠ [] := by
              rintro rfl
              rw [hts] at htorn
              cases htorn
            obtain ⟨e, socket', hr, hlost⟩ := receiveFrame_torn hframe hne hpre hlt htorn
            refine iff_of_false (receiveLoop_ne_of_lost hr hlost hbytes (List.cons_ne_nil _ _)) ?_
            · intro h
              have hmem := h.2 (start + bs.length) (by
                rw [htorn, timeoutOffsets_some]
                exact List.mem_cons_self)
              have hpos := List.length_pos_of_ne_nil hne
              rcases List.mem_cons.mp hmem with h | h
              · omega
              · have := le_of_mem_frameBoundaries h
                omega

theorem mapM_encodeFrame {frames : List Frame} {wires : List Bytes}
    (h : frames.mapM encodeFrame = .ok wires) :
    (∀ f ∈ frames, f.payload.length ≤ Limits.kMaxFrameBytes) ∧ wires.flatten = frames.flatMap wire := by
  induction frames generalizing wires with
  | nil =>
    obtain rfl := Except.ok.inj h
    exact ⟨by simp, rfl⟩
  | cons frame frames ih =>
    rw [List.mapM_cons] at h
    obtain ⟨w, hw, h⟩ := TopologyIndex.bind_eq_ok h
    obtain ⟨ws, hws, h⟩ := TopologyIndex.bind_eq_ok h
    obtain rfl := Except.ok.inj h
    obtain ⟨hlen, rfl⟩ := encodeFrame_eq_ok hw
    obtain ⟨hlens, hflat⟩ := ih hws
    exact ⟨List.forall_mem_cons.mpr ⟨hlen, hlens⟩, by rw [List.flatten_cons, hflat, List.flatMap_cons]⟩

/-- The receive loop returns exactly the sent frames, whatever the chunking, if and only if every
frame carries a version the receiver speaks and every receive window that passes without data does
so between two frames: a window that passes inside a frame discards the bytes already read. -/
theorem receiveAll_eq_sent_iff {frames : List Frame} {wires : List Bytes} {socket : Socket}
    (hsent : frames.mapM encodeFrame = .ok wires) (hbytes : bytesOf (tokens socket) = wires.flatten) :
    receiveAll socket = (frames.map received, some closedFailure) ↔
      (∀ f ∈ frames, Versioned f) ∧
        ∀ k ∈ timeoutOffsets 0 (tokens socket), k ∈ frameBoundaries 0 frames := by
  obtain ⟨hlen, hflat⟩ := mapM_encodeFrame hsent
  exact receiveLoop_eq_iff hlen (Nat.lt_succ_self _) (hbytes.trans hflat) 0

def heartbeatFrame : Frame := makeFrame .heartbeat { publisher := ⟨1⟩, sequence := 1 } []

/-- The heartbeat in three arrivals: its first byte, an empty receive window, the rest. -/
def tornHeartbeat : Socket :=
  match wire heartbeatFrame with
  | b :: c :: bs => [.chunk b [], .timeout, .chunk c bs]
  | _ => []

def textFrame : Frame := makeFrame .goodbye { publisher := ⟨1⟩, sequence := 2 } [104, 103, 109]

def arrival : Bytes → Socket
  | [] => []
  | b :: bs => [.chunk b bs]

theorem tokens_arrival (bs : Bytes) (socket : Socket) :
    tokens (arrival bs ++ socket) = bs.map some ++ tokens socket := by
  cases bs <;> rfl

/-- The heartbeat in two pieces and the other frame in two more, the first of which ends in the payload,
with empty receive windows around and between the frames. -/
def pacedFrames : Socket :=
  .timeout :: (arrival ((wire heartbeatFrame).take 1) ++ (arrival ((wire heartbeatFrame).drop 1) ++
    .timeout :: (arrival ((wire textFrame).take 89) ++ (arrival ((wire textFrame).drop 89) ++ [.timeout]))))

theorem receiveAll_pacedFrames : textFrame.payload.length = 3 ∧
    receiveAll pacedFrames = ([received heartbeatFrame, received textFrame], some closedFailure) := by
  have hsent : [heartbeatFrame, textFrame].mapM encodeFrame = .ok [wire heartbeatFrame, wire textFrame] := rfl
  refine ⟨rfl, (receiveAll_eq_sent_iff hsent ?_).mpr (by decide +kernel)⟩
  unfold pacedFrames
  rw [tokens_timeout, tokens_arrival, tokens_arrival, tokens_timeout, tokens_arrival, tokens_arrival, bytesOf_none,
    bytesOf_some, bytesOf_some, bytesOf_none, bytesOf_some, bytesOf_some, ← List.append_assoc, List.take_append_drop,
    ← List.append_assoc (List.take 89 _), List.take_append_drop]
  rfl

theorem receiveAll_tornHeartbeat : ¬ ∀ (frames : List Frame) (wires : List Bytes) (socket : Socket),
    frames.mapM encodeFrame = .ok wires → bytesOf (tokens socket) = wires.flatten →
      receiveAll socket = (frames.map received, some closedFailure) := by
  intro h
  have hlost := h [heartbeatFrame] [wire heartbeatFrame] tornHeartbeat rfl rfl
  revert hlost
  decide +kernel

end HotspotGovernor.Reassembly
