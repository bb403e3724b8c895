import HotspotGovernor.Governance

namespace HotspotGovernor.Admission

open Foundation ByteIo Topology Evidence Detection Decisions Framing Registry Governance

/-- A refused frame: the status returned and the counters that record it. -/
structure Refused where
  failure : Failure
  counters : Metrics → Metrics

def rejected (m : Metrics) : Metrics := { m with framesRejected := count m.framesRejected }

def malformed (m : Metrics) : Metrics := { m with framesMalformed := count m.framesMalformed }

def stale (m : Metrics) : Metrics := { m with framesStale := count m.framesStale }

def duplicate (m : Metrics) : Metrics := { m with framesDuplicate := count m.framesDuplicate }

def rejectedStaleEpoch (m : Metrics) : Metrics :=
  { m with rejectedStaleEpoch := count m.rejectedStaleEpoch }

def rejectedStaleGeneration (m : Metrics) : Metrics :=
  { m with rejectedStaleGeneration := count m.rejectedStaleGeneration }

def rejectedStaleIncarnation (m : Metrics) : Metrics :=
  { m with rejectedStaleIncarnation := count m.rejectedStaleIncarnation }

/-- The report of an accepted frame; a refusal returns its status alone. -/
structure AdmissionReport where
  accepted : Bool := false
  stream : StreamKind := .unknown
  generation : UInt64 := 0
  sequence : Sequence := 0
  records : ℕ := 0
  deriving DecidableEq

def reportOf (header : FrameHeader) (records : ℕ) : AdmissionReport :=
  { accepted := true
    stream := streamOf header.type
    generation := header.generation
    sequence := header.sequence
    records }

def sequenced (p : PublisherState) (header : FrameHeader) : Except Refused Unit :=
  let live := p.streamGenerations (streamOf header.type)
  if header.sequence = p.lastSequence then
    .error ⟨⟨.duplicateFrame, "frame sequence was already applied"⟩, rejected ∘ duplicate⟩
  else if header.sequence < p.lastSequence then
    .error ⟨⟨.outOfOrderSequence, "frame sequence went backwards"⟩, rejected⟩
  else if header.generation = 0 then
    .error ⟨⟨.invalidArgument, "generation 0 is reserved"⟩, rejected⟩
  else if header.generation = live then
    .error ⟨⟨.duplicateFrame, "generation was already applied"⟩, rejected ∘ duplicate⟩
  else if header.generation < live then
    .error ⟨⟨.staleGeneration, "generation went backwards"⟩,
      rejected ∘ stale ∘ rejectedStaleGeneration⟩
  else .ok ()

def provenanceOf (header : FrameHeader) : Provenance :=
  { publisher := header.publisher
    incarnation := header.incarnation
    boot := header.boot
    epoch := header.epoch
    sequence := header.sequence
    generation := ⟨streamOf header.type, header.generation⟩
    emittedAt := header.emittedAt }

/-- The snapshots with the payload of a frame in the place of its stream, and its record count. -/
def decodeInto (s : Snapshots) (frame : Frame) : Result (Snapshots × ℕ) :=
  let provenance := provenanceOf frame.header
  match frame.header.type with
  | .topology => do
    let snapshot ← decodeTopologyPayload frame.payload
    if s.topology.any (fun live ↦ snapshot.generation ≤ live.generation) then
      Status.failure .staleGeneration "topology generation is not newer than the live snapshot"
    else .ok ({ s with topology := some (snapshot.setProvenance provenance) }, snapshot.resources.length)
  | .capacity => do
    let snapshot ← decodeCapacityPayload frame.payload
    .ok ({ s with capacity := some { snapshot with provenance } }, snapshot.entries.length)
  | .signals => do
    let snapshot ← decodeSignalsPayload frame.payload
    .ok ({ s with signals := some { snapshot with provenance } }, snapshot.records.length)
  | .paths => do
    let snapshot ← decodePathsPayload frame.payload
    .ok ({ s with paths := some { snapshot with provenance } }, snapshot.paths.length)
  | .traffic => do
    let snapshot ← decodeTrafficPayload frame.payload
    .ok ({ s with traffic := some { snapshot with provenance } }, snapshot.records.length)
  | .policy => do
    let snapshot ← decodePolicyPayload frame.payload
    .ok ({ s with policy := some { snapshot with provenance } }, 0)
  | _ => Status.failure .malformedFrame "message type is not a stream frame"

def decodeCounters (code : ErrorCode) (m : Metrics) : Metrics :=
  let m := rejected m
  let m := if isIntegrity code then malformed m else m
  if isStale code then stale m else m

/-- Every resource that the installed evidence names exists in the installed topology. -/
def verifyReferences (s : Snapshots) : Status :=
  match s.topology with
  | none => .ok ()
  | some topology =>
    if s.capacity.any (fun capacity ↦ !capacityResolves topology capacity) then
      Status.failure .unknownResource "capacity names a resource the topology does not define"
    else if s.signals.any (fun signals ↦ !signalsResolve topology signals) then
      Status.failure .unknownResource "signals name a resource the topology does not define"
    else if s.paths.any (fun paths ↦ !pathsResolve topology paths) then
      Status.failure .unknownResource "a path traverses a resource the topology does not define"
    else .ok ()

def verifiedOf (s : Snapshots) : Verified :=
  { topology := (s.topology.map TopologySnapshot.id).getD default
    capacity := (s.capacity.map CapacitySnapshot.id).getD default
    signals := (s.signals.map SignalSnapshot.id).getD default
    paths := (s.paths.map PathSnapshot.id).getD default }

end HotspotGovernor.Admission

namespace HotspotGovernor.Governance.Governor

open Foundation ByteIo Topology Evidence Detection Decisions Framing Registry Admission

variable {σ : Type}

def refuse (r : Refused) (g : Governor σ) : Result AdmissionReport × Governor σ :=
  (.error r.failure, { g with metrics := r.counters g.metrics })

def countAccepted (frame : Frame) (m : Metrics) : Metrics :=
  { m with
    framesAccepted := count m.framesAccepted
    bytesReceived := count m.bytesReceived (UInt64.ofNat (frame.payload.length + kFrameHeaderBytes)) }

def authorizeHeartbeat (header : FrameHeader) (g : Governor σ) : Except Refused PublisherState :=
  match g.findPublisher header.publisher with
  | none => .error ⟨⟨.unknownPublisher, "publisher is not registered"⟩, rejected⟩
  | some p =>
    if header.incarnation ≠ p.incarnation ∨ header.boot ≠ p.boot then
      .error ⟨⟨.staleIncarnation, "heartbeat incarnation does not match the registered publisher"⟩,
        rejected ∘ rejectedStaleIncarnation⟩
    else if !p.alive then
      .error ⟨⟨.unknownPublisher, "publisher incarnation is not alive"⟩, rejected⟩
    else if header.sequence ≠ 0 ∧ header.sequence ≤ p.lastSequence then
      .error ⟨⟨if header.sequence = p.lastSequence then .duplicateFrame else .outOfOrderSequence,
        "heartbeat sequence is not newer than the last accepted sequence"⟩, rejected⟩
    else .ok p

def admitHeartbeat (frame : Frame) (now : Millis) (g : Governor σ) :
    Result AdmissionReport × Governor σ :=
  match g.authorizeHeartbeat frame.header with
  | .error r => g.refuse r
  | .ok _ =>
    (.ok (reportOf frame.header 0), { g with
      publishers := g.publishers.modify frame.header.publisher
        (fun p ↦ p.beat frame.header.sequence now) (fun _ ↦ rfl)
      metrics := countAccepted frame g.metrics })

/-- The fencing of a stream frame: stream, epoch, publisher, incarnation and liveness. -/
def authorize (header : FrameHeader) (g : Governor σ) : Except Refused PublisherState :=
  if streamOf header.type = .unknown then
    .error ⟨⟨.malformedFrame, "message type does not carry a stream"⟩, rejected⟩
  else if !g.epoch.valid then
    .error ⟨⟨.notStarted, "no coordinator epoch is installed"⟩, rejected⟩
  else if header.epoch < g.epoch then
    .error ⟨⟨.staleEpoch, "frame epoch " ++ StrongId.hex header.epoch ++ " is older than " ++
      StrongId.hex g.epoch⟩, rejected ∘ stale ∘ rejectedStaleEpoch⟩
  else if g.epoch < header.epoch then
    .error ⟨⟨.unknownEpoch, "frame epoch " ++ StrongId.hex header.epoch ++ " is not installed"⟩, rejected⟩
  else match g.findPublisher header.publisher with
    | none => .error ⟨⟨.unknownPublisher, "publisher is not registered"⟩, rejected⟩
    | some p =>
      if header.incarnation ≠ p.incarnation ∨ header.boot ≠ p.boot then
        .error ⟨⟨.staleIncarnation,
          "frame incarnation or boot id does not match the registered publisher"⟩,
          rejected ∘ rejectedStaleIncarnation⟩
      else if !p.alive then
        .error ⟨⟨.unknownPublisher, "publisher incarnation is not alive; it must re-handshake"⟩, rejected⟩
      else .ok p

/-- Align the publisher's record with the installed epoch before its order is checked. -/
def enterPublisher (publisher : PublisherId) (g : Governor σ) : Governor σ :=
  g.withPublishers (g.publishers.modify publisher (fun p ↦ p.enter g.epoch) (fun p ↦ p.enter_id g.epoch))

def accept (frame : Frame) (now : Millis) (g : Governor σ) : Governor σ :=
  { g with
    verified := verifiedOf g.snapshots
    publishers := g.publishers.modify frame.header.publisher
      (fun p ↦ p.apply (streamOf frame.header.type) frame.header now) (fun _ ↦ rfl)
    metrics := countAccepted frame g.metrics }

/-- The snapshot is installed first and cross-checked against the live topology afterwards. -/
def install (frame : Frame) (now : Millis) (snapshots : Snapshots) (records : ℕ) (g : Governor σ) :
    Result AdmissionReport × Governor σ :=
  let g := { g with snapshots }
  match verifyReferences g.snapshots with
  | .error e => g.refuse ⟨e, rejected⟩
  | .ok () => (.ok (reportOf frame.header records), g.accept frame now)

def admitStream (frame : Frame) (now : Millis) (g : Governor σ) :
    Result AdmissionReport × Governor σ :=
  match g.authorize frame.header with
  | .error r => g.refuse r
  | .ok p =>
    let g := g.enterPublisher frame.header.publisher
    match sequenced (p.enter g.epoch) frame.header with
    | .error r => g.refuse r
    | .ok () =>
      match decodeInto g.snapshots frame with
      | .error e => g.refuse ⟨e, decodeCounters e.code⟩
      | .ok (snapshots, records) => g.install frame now snapshots records

def countReceived (g : Governor σ) : Governor σ :=
  { g with metrics := { g.metrics with framesReceived := count g.metrics.framesReceived } }

def admitFrame (frame : Frame) (now : Millis) (g : Governor σ) : Result AdmissionReport × Governor σ :=
  let g := g.countReceived
  match verifyPayload frame.header frame.payload with
  | .error e => g.refuse ⟨e, rejected ∘ malformed⟩
  | .ok () =>
    if frame.header.type = .heartbeat then g.admitHeartbeat frame now else g.admitStream frame now

end HotspotGovernor.Governance.Governor

namespace HotspotGovernor.Admission

open Foundation ByteIo Topology Evidence Detection Decisions Framing Registry Governance

section

variable {σ : Type} (f : Frame) (now : Millis) (g : Governor σ)

structure Authorized (p : PublisherState) : Prop where
  intact : verifyPayload f.header f.payload = .ok ()
  stream : f.header.type ≠ .heartbeat
  fenced : g.authorize f.header = .ok p

structure Beats (p : PublisherState) : Prop where
  intact : verifyPayload f.header f.payload = .ok ()
  heartbeat : f.header.type = .heartbeat
  fenced : g.authorizeHeartbeat f.header = .ok p

/-- The frame is in order, and its payload decodes to these snapshots. -/
structure Decoded (p : PublisherState) (s : Snapshots) (n : ℕ) : Prop where
  ordered : sequenced (p.enter g.epoch) f.header = .ok ()
  decoded : decodeInto g.snapshots f = .ok (s, n)

/-- The outcomes of an admission, each with the checks that lead to it. -/
inductive Admits : Result AdmissionReport × Governor σ → Prop
  | unauthorized (e : Failure) (m : Metrics) (hs : ∀ p, ¬ Authorized f g p) (hb : ∀ p, ¬ Beats f g p) :
      Admits (.error e, { g with metrics := m })
  | heartbeat (p : PublisherState) (m : Metrics) (h : Beats f g p) :
      Admits (.ok (reportOf f.header 0), { g with
        publishers := g.publishers.modify f.header.publisher
          (fun p ↦ p.beat f.header.sequence now) (fun _ ↦ rfl)
        metrics := m })
  | undecoded (p : PublisherState) (e : Failure) (m : Metrics) (h : Authorized f g p)
      (hd : ∀ s n, ¬ Decoded f g p s n) :
      Admits (.error e, { g.enterPublisher f.header.publisher with metrics := m })
  | unresolved (p : PublisherState) (s : Snapshots) (n : ℕ) (e : Failure) (m : Metrics)
      (h : Authorized f g p) (hd : Decoded f g p s n) (hv : verifyReferences s = .error e) :
      Admits (.error e, { g.enterPublisher f.header.publisher with snapshots := s, metrics := m })
  | applied (p : PublisherState) (s : Snapshots) (n : ℕ) (m : Metrics) (h : Authorized f g p)
      (hd : Decoded f g p s n) (hv : verifyReferences s = .ok ()) :
      Admits (.ok (reportOf f.header n), { g with
        snapshots := s
        verified := verifiedOf s
        publishers := (g.enterPublisher f.header.publisher).publishers.modify f.header.publisher
          (fun p ↦ p.apply (streamOf f.header.type) f.header now) (fun _ ↦ rfl)
        metrics := m })

end

variable {σ : Type}

theorem admits_stream {f : Frame} {now : Millis} {g : Governor σ}
    (hv : verifyPayload f.header f.payload = .ok ()) (ht : f.header.type ≠ .heartbeat) :
    Admits f now g (g.countReceived.admitStream f now) := by
  have hb : ∀ p, ¬ Beats f g p := fun p h ↦ ht h.heartbeat
  unfold Governor.admitStream
  have hcount : g.countReceived.authorize f.header = g.authorize f.header := rfl
  rw [hcount]
  cases hp : g.authorize f.header with
  | error r =>
    refine .unauthorized _ _ ?_ hb
    intro p h
    cases hp.symm.trans h.fenced
  | ok p =>
    have hauth : Authorized f g p := ⟨hv, ht, hp⟩
    dsimp only
    have hepoch : (g.countReceived.enterPublisher f.header.publisher).epoch = g.epoch := rfl
    have hsnap : (g.countReceived.enterPublisher f.header.publisher).snapshots = g.snapshots := rfl
    rw [hepoch, hsnap]
    cases hs : sequenced (p.enter g.epoch) f.header with
    | error r =>
      refine .undecoded p _ _ hauth ?_
      intro s n h
      cases hs.symm.trans h.ordered
    | ok u =>
      dsimp only
      cases hd : decodeInto g.snapshots f with
      | error e =>
        refine .undecoded p _ _ hauth ?_
        intro s n h
        cases hd.symm.trans h.decoded
      | ok decoded =>
        obtain ⟨s, n⟩ := decoded
        have hdec : Decoded f g p s n := ⟨hs, hd⟩
        dsimp only [Governor.install]
        cases hr : verifyReferences s with
        | error e => exact .unresolved p s n e _ hauth hdec hr
        | ok u => exact .applied p s n _ hauth hdec hr

theorem admits_heartbeat {f : Frame} {now : Millis} {g : Governor σ}
    (hv : verifyPayload f.header f.payload = .ok ()) (ht : f.header.type = .heartbeat) :
    Admits f now g (g.countReceived.admitHeartbeat f now) := by
  unfold Governor.admitHeartbeat
  have hcount : g.countReceived.authorizeHeartbeat f.header = g.authorizeHeartbeat f.header := rfl
  rw [hcount]
  cases hp : g.authorizeHeartbeat f.header with
  | error r =>
    refine .unauthorized _ _ (fun p h ↦ h.stream ht) ?_
    intro p h
    cases hp.symm.trans h.fenced
  | ok p => exact .heartbeat p _ ⟨hv, ht, hp⟩

theorem admits (f : Frame) (now : Millis) (g : Governor σ) : Admits f now g (g.admitFrame f now) := by
  unfold Governor.admitFrame
  cases hv : verifyPayload f.header f.payload with
  | error e =>
    refine .unauthorized _ _ ?_ ?_
    · intro p h
      cases hv.symm.trans h.intact
    · intro p h
      cases hv.symm.trans h.intact
  | ok u =>
    dsimp only
    by_cases ht : f.header.type = .heartbeat
    · rw [if_pos ht]
      exact admits_heartbeat hv ht
    · rw [if_neg ht]
      exact admits_stream hv ht

variable {f : Frame} {now : Millis} {g : Governor σ} {p q : PublisherState}

theorem authorize_eq_ok {header : FrameHeader} : g.authorize header = .ok p ↔
    streamOf header.type ≠ .unknown ∧ g.epoch.valid = true ∧ header.epoch = g.epoch ∧
      g.findPublisher header.publisher = some p ∧ header.incarnation = p.incarnation ∧
      header.boot = p.boot ∧ p.alive = true := by
  unfold Governor.authorize
  split
  · next hs => simp [hs]
  · next hs =>
    split
    · next hv => simp_all
    · next hv =>
      split
      · next hlt => simp [hlt.ne]
      · next hlt =>
        split
        · next hgt => simp [hgt.ne']
        · next hgt =>
          have he : header.epoch = g.epoch := le_antisymm (not_lt.mp hgt) (not_lt.mp hlt)
          cases hf : g.findPublisher header.publisher with
          | none => simp
          | some q =>
            dsimp only
            split
            · next hi => grind
            · next hi => grind

theorem authorizeHeartbeat_eq_ok {header : FrameHeader} : g.authorizeHeartbeat header = .ok p ↔
    g.findPublisher header.publisher = some p ∧ header.incarnation = p.incarnation ∧
      header.boot = p.boot ∧ p.alive = true ∧ (header.sequence = 0 ∨ p.lastSequence < header.sequence) := by
  unfold Governor.authorizeHeartbeat
  cases hf : g.findPublisher header.publisher with
  | none => simp
  | some q =>
    dsimp only
    have hseq : (header.sequence ≠ 0 ∧ header.sequence ≤ q.lastSequence) ↔
        ¬ (header.sequence = 0 ∨ q.lastSequence < header.sequence) := by
      rw [not_or, UInt64.not_lt]
    rw [ite_cond_congr (propext hseq)]
    split <;> grind

theorem sequenced_eq_ok {header : FrameHeader} : sequenced p header = .ok () ↔
    p.lastSequence < header.sequence ∧ header.generation ≠ 0 ∧
      p.streamGenerations (streamOf header.type) < header.generation := by
  unfold sequenced
  dsimp only
  split
  · next h => simp [h]
  · next h =>
    split
    · next hlt => simp [UInt64.lt_asymm hlt]
    · next hlt =>
      have hseq : p.lastSequence < header.sequence := by grind
      split
      · next h0 => simp [h0]
      · next h0 =>
        split
        · next hg => simp [hg]
        · next hg =>
          split
          · next hgl => simp [UInt64.lt_asymm hgl]
          · next hgl =>
            have hgen : p.streamGenerations (streamOf header.type) < header.generation := by grind
            simp [hseq, h0, hgen]

theorem Authorized.unique (h : Authorized f g p) (h' : Authorized f g q) : p = q :=
  Except.ok.inj (h.fenced.symm.trans h'.fenced)

theorem Authorized.found (h : Authorized f g p) : g.findPublisher f.header.publisher = some p :=
  (authorize_eq_ok.mp h.fenced).2.2.2.1

theorem Decoded.unique {s s' : Snapshots} {n n' : ℕ} (h : Decoded f g p s n) (h' : Decoded f g p s' n') :
    s = s' := congrArg Prod.fst (Except.ok.inj (h.decoded.symm.trans h'.decoded))

theorem enterPublisher_publishers_iff {id : PublisherId} (h : g.findPublisher id = some p) :
    (g.enterPublisher id).publishers = g.publishers ↔ p.epoch = g.epoch := by
  constructor
  · intro he
    have hfind : (g.enterPublisher id).publishers.findPublisher id = some (p.enter g.epoch) :=
      (Publishers.findPublisher_modify_self (fun p ↦ p.enter_id g.epoch)).trans (congrArg (Option.map _) h)
    rw [he] at hfind
    have hp : p.enter g.epoch = p := Option.some.inj (hfind.symm.trans h)
    by_contra hne
    have henter : (p.enter g.epoch).epoch = g.epoch := by
      rw [PublisherState.enter, if_pos hne]
    exact hne ((congrArg PublisherState.epoch hp).symm.trans henter)
  · intro he
    exact Publishers.modify_eq_self (fun p ↦ p.enter_id g.epoch) h (p.enter_eq_self he)

end HotspotGovernor.Admission
