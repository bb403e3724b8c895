import HotspotGovernor.Operations

namespace HotspotGovernor.Atomicity

open Foundation ByteIo Topology Evidence Detection Decisions Durable Framing Registry Governance
open Admission Operations Lib.Trace

variable {σ : Type}

def AllOrNothing (f : Frame) (now : Millis) (g : Governor σ) : Prop :=
  ∀ e, (g.admitFrame f now).1 = .error e → ∃ metrics, (g.admitFrame f now).2 = { g with metrics }

/-- The frame is authorized, a later check refuses it, and something was written before that check:
the publisher's record because it named another epoch, or the snapshots because the payload was
installed before its references were verified. -/
def WritesBeforeRefusal (f : Frame) (g : Governor σ) : Prop :=
  ∃ p, Authorized f g p ∧ (∀ s n, Decoded f g p s n → verifyReferences s ≠ .ok ()) ∧
    (p.epoch ≠ g.epoch ∨ ∃ s n, Decoded f g p s n ∧ s ≠ g.snapshots)

theorem allOrNothing_iff (f : Frame) (now : Millis) (g : Governor σ) :
    AllOrNothing f now g ↔ ¬ WritesBeforeRefusal f g := by
  unfold AllOrNothing
  have h := admits f now g
  generalize g.admitFrame f now = out at h ⊢
  cases h with
  | unauthorized e m hs hb =>
    refine iff_of_true (fun _ _ ↦ ⟨m, rfl⟩) ?_
    intro h
    obtain ⟨p, hp, -⟩ := h
    exact hs p hp
  | heartbeat p m hbeat =>
    refine iff_of_true (fun e he ↦ by cases he) ?_
    intro h
    obtain ⟨q, hq, -⟩ := h
    exact hq.stream hbeat.heartbeat
  | undecoded p e m hp hd =>
    constructor
    · intro hall h
      obtain ⟨q, hq, -, hw⟩ := h
      obtain rfl := hp.unique hq
      obtain ⟨m', hm⟩ := hall e rfl
      have hpub := congrArg Governor.publishers hm
      rcases hw with hne | ⟨s, n, hdec, -⟩
      · exact hne ((enterPublisher_publishers_iff hp.found).mp hpub)
      · exact hd s n hdec
    · intro hw e' _
      have he : p.epoch = g.epoch := by
        by_contra hne
        exact hw ⟨p, hp, fun s n hdec ↦ absurd hdec (hd s n), Or.inl hne⟩
      refine ⟨m, ?_⟩
      have hpub := (enterPublisher_publishers_iff hp.found).mpr he
      unfold Governor.enterPublisher Governor.withPublishers at hpub ⊢
      dsimp only at hpub ⊢
      rw [hpub]
  | unresolved p s n e m hp hd hv =>
    constructor
    · intro hall h
      obtain ⟨q, hq, -, hw⟩ := h
      obtain rfl := hp.unique hq
      obtain ⟨m', hm⟩ := hall e rfl
      have hpub := congrArg Governor.publishers hm
      have hsnap : s = g.snapshots := congrArg Governor.snapshots hm
      rcases hw with hne | ⟨s', n', hdec, hne⟩
      · exact hne ((enterPublisher_publishers_iff hp.found).mp hpub)
      · exact hne ((hdec.unique hd).trans hsnap)
    · intro hw e' _
      have hrefused : ∀ s' n', Decoded f g p s' n' → verifyReferences s' ≠ .ok () := by
        intro s' n' hdec hok
        rw [hdec.unique hd, hv] at hok
        cases hok
      have he : p.epoch = g.epoch := by
        by_contra hne
        exact hw ⟨p, hp, hrefused, Or.inl hne⟩
      have hs : s = g.snapshots := by
        by_contra hne
        exact hw ⟨p, hp, hrefused, Or.inr ⟨s, n, hd, hne⟩⟩
      refine ⟨m, ?_⟩
      have hpub := (enterPublisher_publishers_iff hp.found).mpr he
      unfold Governor.enterPublisher Governor.withPublishers at hpub ⊢
      dsimp only at hpub ⊢
      rw [hpub, hs]
  | applied p s n m hp hd hv =>
    refine iff_of_true (fun e he ↦ by cases he) ?_
    intro h
    obtain ⟨q, hq, hrefused, -⟩ := h
    obtain rfl := hp.unique hq
    exact hrefused s n hd hv

theorem verifyPayload_makeFrame (type : MessageType) (provenance : Provenance) {payload : Bytes}
    (h : payload.length ≤ Limits.kMaxFrameBytes) :
    verifyPayload (makeFrame type provenance payload).header payload = .ok () := by
  have hl : payload.length = (makeFrame type provenance payload).header.payloadLength.toNat := by
    have hb : Limits.kMaxFrameBytes < 2 ^ 32 := by decide
    change payload.length = (UInt32.ofNat payload.length).toNat
    rw [UInt32.toNat_ofNat']
    omega
  have hc : crc64 payload = (makeFrame type provenance payload).header.payloadCrc := rfl
  unfold verifyPayload
  rw [if_neg (not_not.mpr hl), if_neg (not_lt.mpr h), if_neg (not_not.mpr hc)]

theorem admit_makeFrame (type : MessageType) (provenance : Provenance) {payload : Bytes}
    (h : payload.length ≤ Limits.kMaxFrameBytes) (now : Millis) (g : Governor σ) :
    g.admitFrame (makeFrame type provenance payload) now =
      if type = .heartbeat then g.countReceived.admitHeartbeat (makeFrame type provenance payload) now
      else g.countReceived.admitStream (makeFrame type provenance payload) now := by
  have hv : verifyPayload (makeFrame type provenance payload).header
      (makeFrame type provenance payload).payload = .ok () := verifyPayload_makeFrame type provenance h
  unfold Governor.admitFrame
  rw [hv]
  rfl

def introduction : HelloPayload := { publisher := ⟨7⟩, incarnation := ⟨1⟩, boot := ⟨9⟩ }

def sentAs (epoch sequence generation : UInt64) : Provenance :=
  { publisher := introduction.publisher
    incarnation := introduction.incarnation
    boot := introduction.boot
    epoch := ⟨epoch⟩
    sequence
    generation := ⟨.unknown, generation⟩ }

/-- A fabric of one switch, resource 1 in region 1. -/
def oneSwitchPayload : Bytes :=
  encodeStreamHeader .topology 1 0 ++ putI64 0 ++ (putCount 1 ++ putU64 1 ++ putU64 0 ++ putText []) ++
    (putCount 1 ++ putU64 1 ++ putU64 1 ++ putU8 1 ++ putText []) ++ putCount 0

/-- Capacity for one resource, under a generation of the payload's own. -/
def capacityPayload (generation resource : UInt64) : Bytes :=
  encodeStreamHeader .capacity generation 0 ++ putU64 1 ++
    (putCount 1 ++ putU64 resource ++ putU64 10 ++ putU64 0 ++ putU64 0 ++ putBool true)

def oneSwitchFrame : Frame := makeFrame .topology (sentAs 1 1 1) oneSwitchPayload

/-- Capacity for resource 2, which the one-switch fabric does not define. -/
def strayCapacity : Frame := makeFrame .capacity (sentAs 1 2 1) (capacityPayload 1 2)

def oneSwitchOps : List Op := [.registerPublisher introduction 0, .admitFrame oneSwitchFrame 0]

def oneSwitchGovernor : Governor Unit :=
  final (step noStore) (recovered noStore {} () ⟨0, 0⟩ 0) oneSwitchOps

theorem oneSwitchGovernor_eq : oneSwitchGovernor =
    (Governor.admitStream oneSwitchFrame 0
      (Governor.registerPublisher introduction 0 (recovered noStore {} () ⟨0, 0⟩ 0)).2.countReceived).2 := by
  have h := admit_makeFrame .topology (sentAs 1 1 1) (show oneSwitchPayload.length ≤ _ by decide) 0
    (Governor.registerPublisher introduction 0 (recovered noStore {} () ⟨0, 0⟩ 0)).2
  rw [if_neg (by decide)] at h
  unfold oneSwitchGovernor oneSwitchOps final
  rw [List.foldl_cons, List.foldl_cons, List.foldl_nil, step_admitFrame, step_registerPublisher, oneSwitchFrame, h]

theorem not_allOrNothing {f : Frame} {now : Millis} {g : Governor σ} {e : Failure}
    (he : (g.admitFrame f now).1 = .error e)
    (hc : (g.admitFrame f now).2.snapshots.capacity.isSome ≠ g.snapshots.capacity.isSome) :
    ¬ AllOrNothing f now g := by
  intro hall
  obtain ⟨m, hm⟩ := hall e he
  rw [hm] at hc
  exact hc rfl

set_option maxRecDepth 4000 in
/-- The refused capacity is installed, in a state that a run reaches. -/
theorem strayCapacity_stays_installed : ∃ past, GovernorRun noStore {} () ⟨0, 0⟩ 0 past oneSwitchGovernor ∧
    ¬ AllOrNothing strayCapacity 0 oneSwitchGovernor ∧ oneSwitchGovernor.snapshots.capacity.isSome = false ∧
    (oneSwitchGovernor.admitFrame strayCapacity 0).1 = Status.failure .unknownResource
      "capacity names a resource the topology does not define" ∧
    (oneSwitchGovernor.admitFrame strayCapacity 0).2.snapshots.capacity.isSome = true := by
  obtain ⟨past, hrun⟩ : ∃ past, GovernorRun noStore {} () ⟨0, 0⟩ 0 past oneSwitchGovernor :=
    Run.exists oneSwitchOps
  have hadmitted : oneSwitchGovernor.admitFrame strayCapacity 0 =
      oneSwitchGovernor.countReceived.admitStream strayCapacity 0 :=
    (admit_makeFrame .capacity (sentAs 1 2 1) (show (capacityPayload 1 2).length ≤ _ by decide) 0
      oneSwitchGovernor).trans (if_neg (by decide))
  have hbefore : oneSwitchGovernor.snapshots.capacity.isSome = false := by
    rw [oneSwitchGovernor_eq]
    rfl
  have hout : (oneSwitchGovernor.admitFrame strayCapacity 0).1 = Status.failure .unknownResource
      "capacity names a resource the topology does not define" := by
    rw [hadmitted, oneSwitchGovernor_eq]
    rfl
  have hafter : (oneSwitchGovernor.admitFrame strayCapacity 0).2.snapshots.capacity.isSome = true := by
    rw [hadmitted, oneSwitchGovernor_eq]
    rfl
  refine ⟨past, hrun, not_allOrNothing hout ?_, hbefore, hout, hafter⟩
  rw [hafter, hbefore]
  decide

/-- A heartbeat that passes the only checks its branch makes: none of them reads the epoch. -/
def PassesAsHeartbeat (f : Frame) (g : Governor σ) : Prop :=
  f.header.type = .heartbeat ∧ verifyPayload f.header f.payload = .ok () ∧
    ∃ p, g.findPublisher f.header.publisher = some p ∧ f.header.incarnation = p.incarnation ∧
      f.header.boot = p.boot ∧ p.alive = true ∧
      (f.header.sequence = 0 ∨ p.lastSequence < f.header.sequence)

theorem passesAsHeartbeat_iff {f : Frame} {g : Governor σ} :
    PassesAsHeartbeat f g ↔ ∃ p, Beats f g p := by
  constructor
  · intro h
    obtain ⟨ht, hv, p, hp⟩ := h
    exact ⟨p, hv, ht, authorizeHeartbeat_eq_ok.mpr hp⟩
  · intro h
    obtain ⟨p, hv, ht, hp⟩ := h
    exact ⟨ht, hv, p, authorizeHeartbeat_eq_ok.mp hp⟩

/-- A frame minted under another epoch is refused without touching its sender's record, unless it is
a heartbeat that passes. -/
theorem foreignEpoch_refused_iff (f : Frame) (now : Millis) (g : Governor σ)
    (hepoch : f.header.epoch ≠ g.epoch) :
    ((∃ e, (g.admitFrame f now).1 = .error e) ∧
      (g.admitFrame f now).2.findPublisher f.header.publisher = g.findPublisher f.header.publisher) ↔
    ¬ PassesAsHeartbeat f g := by
  have hforeign : ∀ p, ¬ Authorized f g p :=
    fun p hp ↦ hepoch (authorize_eq_ok.mp hp.fenced).2.2.1
  rw [passesAsHeartbeat_iff]
  have h := admits f now g
  generalize g.admitFrame f now = out at h ⊢
  cases h with
  | unauthorized e m hs hb => exact iff_of_true ⟨⟨e, rfl⟩, rfl⟩ (fun ⟨p, hp⟩ ↦ hb p hp)
  | heartbeat p m hbeat =>
    refine iff_of_false ?_ (not_not.mpr ⟨p, hbeat⟩)
    intro h
    obtain ⟨⟨e, he⟩, -⟩ := h
    cases he
  | undecoded p e m hp hd => exact absurd hp (hforeign p)
  | unresolved p s n e m hp hd hv => exact absurd hp (hforeign p)
  | applied p s n m hp hd hv => exact absurd hp (hforeign p)

def reenrolledOps : List Op :=
  [.registerPublisher introduction 0, .installEpoch ⟨2⟩ default 0, .registerPublisher introduction 0]

def reenrolledGovernor : Governor Unit :=
  final (step noStore) (recovered noStore {} () ⟨0, 0⟩ 0) reenrolledOps

/-- The publisher is registered under epoch 2, and a topology of epoch 1 changes nothing of its record. -/
theorem oneSwitchFrame_refused : oneSwitchFrame.header.epoch ≠ reenrolledGovernor.epoch ∧
    ((reenrolledGovernor.findPublisher introduction.publisher).map PublisherState.epoch = some ⟨2⟩ ∧
      (reenrolledGovernor.findPublisher introduction.publisher).map PublisherState.alive = some true) ∧
    (∃ e, (reenrolledGovernor.admitFrame oneSwitchFrame 0).1 = .error e) ∧
    (reenrolledGovernor.admitFrame oneSwitchFrame 0).2.findPublisher introduction.publisher =
      reenrolledGovernor.findPublisher introduction.publisher := by
  refine ⟨by decide, ⟨rfl, rfl⟩,
    (foreignEpoch_refused_iff oneSwitchFrame 0 reenrolledGovernor (by decide)).mpr ?_⟩
  intro h
  obtain ⟨ht, -⟩ := h
  cases ht

def lateHeartbeat : Frame := makeFrame .heartbeat (sentAs 1 5 0) []

/-- The late heartbeat is accepted and moves the sequence of the publisher that registered again, so
its first frame under the new epoch is refused as out of order. -/
theorem lateHeartbeat_accepted : ∃ past, GovernorRun noStore {} () ⟨0, 0⟩ 0 past reenrolledGovernor ∧
    lateHeartbeat.header.epoch ≠ reenrolledGovernor.epoch ∧
    (reenrolledGovernor.admitFrame lateHeartbeat 0).1 = .ok (reportOf lateHeartbeat.header 0) ∧
    (reenrolledGovernor.findPublisher introduction.publisher).map PublisherState.lastSequence = some 0 ∧
    ((reenrolledGovernor.admitFrame lateHeartbeat 0).2.findPublisher introduction.publisher).map
      PublisherState.lastSequence = some 5 ∧
    ((reenrolledGovernor.admitFrame lateHeartbeat 0).2.admitFrame
      (makeFrame .topology (sentAs 2 1 1) oneSwitchPayload) 0).1 =
        Status.failure .outOfOrderSequence "frame sequence went backwards" := by
  obtain ⟨past, hrun⟩ : ∃ past, GovernorRun noStore {} () ⟨0, 0⟩ 0 past reenrolledGovernor :=
    Run.exists reenrolledOps
  have hadmitted : reenrolledGovernor.admitFrame lateHeartbeat 0 =
      reenrolledGovernor.countReceived.admitHeartbeat lateHeartbeat 0 :=
    (admit_makeFrame .heartbeat (sentAs 1 5 0) (show ([] : Bytes).length ≤ _ by decide) 0
      reenrolledGovernor).trans (if_pos rfl)
  refine ⟨past, hrun, by decide, ?_, rfl, ?_, ?_⟩
  · rw [hadmitted]
    rfl
  · rw [hadmitted]
    rfl
  · rw [hadmitted, admit_makeFrame .topology (sentAs 2 1 1) (show oneSwitchPayload.length ≤ _ by decide),
      if_neg (by decide)]
    rfl

end HotspotGovernor.Atomicity
