import HotspotGovernor.Entitlement
import HotspotGovernor.Ratio
import HotspotGovernor.Lib.Tally

namespace HotspotGovernor.Tallies

open Foundation Detection Intervention Decisions Durable Framing Registry Governance
open Admission Operations Effects Fencing Entitlement Ratio Lib.Trace Lib.Tally

variable {σ : Type}

def isAdmission (e : Event Op Reply (Governor σ)) : Bool :=
  match e.op with
  | .admitFrame .. => true
  | _ => false

def isAccepted (e : Event Op Reply (Governor σ)) : Bool :=
  match e.out with
  | .report (.ok _) => true
  | _ => false

def isRefused (e : Event Op Reply (Governor σ)) : Bool :=
  match e.out with
  | .report (.error _) => true
  | _ => false

def bytesOf (e : Event Op Reply (Governor σ)) : ℕ :=
  match e.op, e.out with
  | .admitFrame f _, .report (.ok _) => f.payload.length + kFrameHeaderBytes
  | _, _ => 0

def streamsFrom (publisher : PublisherId) (e : Event Op Reply (Governor σ)) : Bool :=
  match e.op, e.out with
  | .admitFrame f _, .report (.ok _) => f.header.publisher = publisher ∧ streamOf f.header.type ≠ .unknown
  | _, _ => false

def isDeath (e : Event Op Reply (Governor σ)) : Bool :=
  match e.op, e.out with
  | .notePublisherDeath publisher _, .status (.ok ()) => ((e.before.findPublisher publisher).map (·.alive)).getD false
  | _, _ => false

def isAdvance (e : Event Op Reply (Governor σ)) : Bool :=
  match e.op, e.out with
  | .installEpoch epoch .., .status (.ok ()) => e.before.epoch ≠ epoch
  | _, _ => false

def isBehind (e : Event Op Reply (Governor σ)) : Bool :=
  match e.op with
  | .installEpoch epoch .. => epoch.valid && e.before.epoch.valid && epoch < e.before.epoch
  | _ => false

def isOutranked (e : Event Op Reply (Governor σ)) : Bool :=
  match e.out with
  | .welcome (.error failure) => failure.code = .staleIncarnation
  | _ => false

def isCheckpoint (e : Event Op Reply (Governor σ)) : Bool :=
  match e.op, e.out with
  | .commitDurable .., .status (.ok ()) => true
  | _, _ => false

def decided (number : Decision → ℕ) (e : Event Op Reply (Governor σ)) : ℕ :=
  match e.out with
  | .decision decision => number decision
  | _ => 0

def escalated (decision : Decision) : ℕ := decision.plan.intents.countP (·.escalation)

def sized (n : ℕ) : ℕ := n % 2 ^ 64

inductive Check
  | payload
  | heartbeat
  | authority
  | order
  | decoding
  | references

def failedCheck (f : Frame) (g : Governor σ) : Check :=
  match verifyPayload f.header f.payload with
  | .error _ => .payload
  | .ok () =>
    if f.header.type = .heartbeat then .heartbeat
    else match g.authorize f.header with
      | .error _ => .authority
      | .ok p =>
        match sequenced (p.enter g.epoch) f.header with
        | .error _ => .order
        | .ok () =>
          match decodeInto g.snapshots f with
          | .error _ => .decoding
          | .ok _ => .references

/-- The refusals that are counted under a kind of their own, by the check and the code of the refusal. One
code can mean different things to different checks: a heartbeat that is repeated is no duplicate. -/
def isMalformed : Check → ErrorCode → Bool
  | .payload, _ => true
  | .decoding, code => isIntegrity code
  | _, _ => false

def isOutdated : Check → ErrorCode → Bool
  | .authority, code => code = .staleEpoch
  | .order, code => code = .staleGeneration
  | .decoding, code => isStale code
  | _, _ => false

def isRepeated : Check → ErrorCode → Bool
  | .order, code => code = .duplicateFrame
  | _, _ => false

def isOldEpoch : Check → ErrorCode → Bool
  | .authority, code => code = .staleEpoch
  | _, _ => false

def isOldGeneration : Check → ErrorCode → Bool
  | .order, code => code = .staleGeneration
  | _, _ => false

def isOldIncarnation : Check → ErrorCode → Bool
  | .heartbeat, code => code = .staleIncarnation
  | .authority, code => code = .staleIncarnation
  | _, _ => false

def refusedFor (kind : Check → ErrorCode → Bool) (e : Event Op Reply (Governor σ)) : Bool :=
  match e.op, e.out with
  | .admitFrame f _, .report (.error failure) => kind (failedCheck f e.before) failure.code
  | _, _ => false

inductive Counter
  | framesReceived
  | framesAccepted
  | framesRejected
  | framesDuplicate
  | framesStale
  | framesMalformed
  | bytesReceived
  | publisherDeaths
  | epochAdvances
  | evaluations
  | hotspotsConfirmed
  | candidatesObserved
  | interventionsPlanned
  | interventionsSuppressed
  | escalations
  | journalAppends
  | recoveries
  | rejectedStaleEpoch
  | rejectedStaleGeneration
  | rejectedStaleIncarnation

def Counter.read (m : Metrics) : Counter → UInt64
  | .framesReceived => m.framesReceived
  | .framesAccepted => m.framesAccepted
  | .framesRejected => m.framesRejected
  | .framesDuplicate => m.framesDuplicate
  | .framesStale => m.framesStale
  | .framesMalformed => m.framesMalformed
  | .bytesReceived => m.bytesReceived
  | .publisherDeaths => m.publisherDeaths
  | .epochAdvances => m.epochAdvances
  | .evaluations => m.evaluations
  | .hotspotsConfirmed => m.hotspotsConfirmed
  | .candidatesObserved => m.candidatesObserved
  | .interventionsPlanned => m.interventionsPlanned
  | .interventionsSuppressed => m.interventionsSuppressed
  | .escalations => m.escalations
  | .journalAppends => m.journalAppends
  | .recoveries => m.recoveries
  | .rejectedStaleEpoch => m.rejectedStaleEpoch
  | .rejectedStaleGeneration => m.rejectedStaleGeneration
  | .rejectedStaleIncarnation => m.rejectedStaleIncarnation

def Counter.weight (e : Event Op Reply (Governor σ)) : Counter → ℕ
  | .framesReceived => unit isAdmission e
  | .framesAccepted => unit isAccepted e
  | .framesRejected => unit isRefused e
  | .framesDuplicate => unit (refusedFor isRepeated) e
  | .framesStale => unit (refusedFor isOutdated) e
  | .framesMalformed => unit (refusedFor isMalformed) e
  | .bytesReceived => bytesOf e
  | .publisherDeaths => unit isDeath e
  | .epochAdvances => unit isAdvance e
  | .evaluations => decided (fun _ ↦ 1) e
  | .hotspotsConfirmed => decided (sized ·.assessment.hotspots.length) e
  | .candidatesObserved => decided (sized ·.assessment.candidates.length) e
  | .interventionsPlanned => decided (sized ·.plan.intents.length) e
  | .interventionsSuppressed => decided (sized ·.plan.suppressed.length) e
  | .escalations => decided escalated e
  | .journalAppends => 2 * unit isCheckpoint e
  | .recoveries => 0
  | .rejectedStaleEpoch => unit (refusedFor isOldEpoch) e + unit isBehind e
  | .rejectedStaleGeneration => unit (refusedFor isOldGeneration) e
  | .rejectedStaleIncarnation => unit (refusedFor isOldIncarnation) e + unit isOutranked e

theorem count_saturated (n : ℕ) (delta : UInt64) : count (saturated n) delta = saturated (n + delta.toNat) := by
  rw [saturated_eq_iff]
  unfold count
  rw [satAdd_toNat, saturated_toNat]
  omega

def Moves (a b : UInt64) (n : ℕ) : Prop := ∀ k, a = saturated k → b = saturated (k + n)

theorem Moves.still (a : UInt64) : Moves a a 0 := fun _ h ↦ h

theorem moves_count (a delta : UInt64) : Moves a (count a delta) delta.toNat := by
  intro k hk
  rw [hk, count_saturated]

theorem moves_one (a : UInt64) : Moves a (count a) 1 := moves_count a 1

theorem moves_if (a : UInt64) (kind : Bool) : Moves a (if kind then count a else a) (if kind then 1 else 0) := by
  cases kind with
  | true => exact moves_one a
  | false => exact .still a

theorem moves_sized (a : UInt64) (n : ℕ) : Moves a (count a (UInt64.ofNat n)) (sized n) := by
  have hmoves := moves_count a (UInt64.ofNat n)
  rwa [UInt64.toNat_ofNat'] at hmoves

theorem moves_escalations (intents : List MitigationIntent) (a : UInt64) :
    Moves a (intents.foldl (fun n intent ↦ if intent.escalation then count n else n) a)
      (intents.countP (·.escalation)) := by
  induction intents generalizing a with
  | nil => exact .still a
  | cons intent intents ih =>
    intro k hk
    rw [List.foldl_cons, List.countP_cons]
    by_cases hescalation : intent.escalation = true
    · rw [if_pos hescalation, if_pos hescalation, ih _ (k + 1) (moves_one a k hk)]
      congr 1
      omega
    · rw [if_neg hescalation, if_neg hescalation, ih a k hk]
      rfl

def Posted (m m' : Metrics) (e : Event Op Reply (Governor σ)) : Prop :=
  ∀ k : Counter, Moves (k.read m) (k.read m') (k.weight e)

def recorded (check : Check) (code : ErrorCode) (m : Metrics) : Metrics :=
  { m with
    framesRejected := count m.framesRejected
    framesDuplicate := if isRepeated check code then count m.framesDuplicate else m.framesDuplicate
    framesStale := if isOutdated check code then count m.framesStale else m.framesStale
    framesMalformed := if isMalformed check code then count m.framesMalformed else m.framesMalformed
    rejectedStaleEpoch := if isOldEpoch check code then count m.rejectedStaleEpoch else m.rejectedStaleEpoch
    rejectedStaleGeneration :=
      if isOldGeneration check code then count m.rejectedStaleGeneration else m.rejectedStaleGeneration
    rejectedStaleIncarnation :=
      if isOldIncarnation check code then count m.rejectedStaleIncarnation else m.rejectedStaleIncarnation }

def Records (check : Check) (r : Refused) : Prop := r.counters = recorded check r.failure.code

theorem records_decode (e : Failure) : Records .decoding ⟨e, decodeCounters e.code⟩ := by
  funext m
  change decodeCounters e.code m = recorded .decoding e.code m
  unfold decodeCounters recorded isMalformed isOutdated
  dsimp only
  by_cases hi : isIntegrity e.code = true <;> by_cases hs : isStale e.code = true <;> simp only [hi, hs] <;> rfl

variable {g : Governor σ} {f : Frame}

theorem records_authorize {r : Refused} (h : g.authorize f.header = .error r) : Records .authority r := by
  unfold Governor.authorize at h
  split_ifs at h with hstream hepoch hstale hunknown
  · rw [← Except.error.inj h]
    rfl
  · rw [← Except.error.inj h]
    rfl
  · rw [← Except.error.inj h]
    rfl
  · rw [← Except.error.inj h]
    rfl
  · split at h
    · rw [← Except.error.inj h]
      rfl
    · split_ifs at h
      · rw [← Except.error.inj h]
        rfl
      · rw [← Except.error.inj h]
        rfl

theorem records_authorizeHeartbeat {r : Refused} (h : g.authorizeHeartbeat f.header = .error r) :
    Records .heartbeat r := by
  unfold Governor.authorizeHeartbeat at h
  split at h
  · rw [← Except.error.inj h]
    rfl
  · split_ifs at h
    · rw [← Except.error.inj h]
      rfl
    · rw [← Except.error.inj h]
      rfl
    · rw [← Except.error.inj h]
      rfl
    · rw [← Except.error.inj h]
      rfl

theorem records_sequenced {p : PublisherState} {r : Refused} (h : sequenced p f.header = .error r) :
    Records .order r := by
  unfold sequenced at h
  dsimp only at h
  split_ifs at h
  · rw [← Except.error.inj h]
    rfl
  · rw [← Except.error.inj h]
    rfl
  · rw [← Except.error.inj h]
    rfl
  · rw [← Except.error.inj h]
    rfl
  · rw [← Except.error.inj h]
    rfl

def Counts (f : Frame) (g : Governor σ) (out : Result AdmissionReport × Governor σ) : Prop :=
  match out.1 with
  | .ok _ => out.2.metrics = Governor.countAccepted f g.countReceived.metrics
  | .error e => out.2.metrics = recorded (failedCheck f g) e.code g.countReceived.metrics

theorem counts_refuse {r : Refused} {g' : Governor σ} {check : Check} (hg : g'.metrics = g.countReceived.metrics)
    (hcheck : failedCheck f g = check) (hr : Records check r) : Counts f g (g'.refuse r) := by
  change r.counters g'.metrics = recorded (failedCheck f g) r.failure.code g.countReceived.metrics
  rw [hr, hcheck, hg]

theorem counts_heartbeat (hv : verifyPayload f.header f.payload = .ok ()) (ht : f.header.type = .heartbeat)
    (now : Millis) : Counts f g (g.countReceived.admitHeartbeat f now) := by
  unfold Governor.admitHeartbeat
  cases h : g.countReceived.authorizeHeartbeat f.header with
  | error r =>
    refine counts_refuse rfl ?_ (records_authorizeHeartbeat h)
    unfold failedCheck
    rw [hv]
    exact if_pos ht
  | ok p => rfl

theorem counts_stream (hv : verifyPayload f.header f.payload = .ok ()) (ht : f.header.type ≠ .heartbeat)
    (now : Millis) : Counts f g (g.countReceived.admitStream f now) := by
  have hauthorize : g.countReceived.authorize f.header = g.authorize f.header := rfl
  unfold Governor.admitStream
  rw [hauthorize]
  cases h : g.authorize f.header with
  | error r =>
    refine counts_refuse rfl ?_ (records_authorize h)
    unfold failedCheck
    rw [hv]
    dsimp only
    rw [if_neg ht, h]
  | ok p =>
    have hepoch : (g.countReceived.enterPublisher f.header.publisher).epoch = g.epoch := rfl
    have hsnapshots : (g.countReceived.enterPublisher f.header.publisher).snapshots = g.snapshots := rfl
    dsimp only
    rw [hepoch, hsnapshots]
    cases hs : sequenced (p.enter g.epoch) f.header with
    | error r =>
      refine counts_refuse rfl ?_ (records_sequenced hs)
      unfold failedCheck
      rw [hv]
      dsimp only
      rw [if_neg ht, h]
      dsimp only
      rw [hs]
    | ok u =>
      dsimp only
      cases hd : decodeInto g.snapshots f with
      | error e =>
        refine counts_refuse rfl ?_ (records_decode e)
        unfold failedCheck
        rw [hv]
        dsimp only
        rw [if_neg ht, h]
        dsimp only
        rw [hs]
        dsimp only
        rw [hd]
      | ok decoded =>
        dsimp only [Governor.install]
        cases verifyReferences decoded.1 with
        | error e =>
          have hplain : Records .references ⟨e, rejected⟩ := rfl
          refine counts_refuse rfl ?_ hplain
          unfold failedCheck
          rw [hv]
          dsimp only
          rw [if_neg ht, h]
          dsimp only
          rw [hs]
          dsimp only
          rw [hd]
        | ok u => rfl

theorem counts_admitFrame (f : Frame) (now : Millis) (g : Governor σ) : Counts f g (g.admitFrame f now) := by
  unfold Governor.admitFrame
  dsimp only
  cases hv : verifyPayload f.header f.payload with
  | error e =>
    have hmalformed : Records .payload ⟨e, rejected ∘ malformed⟩ := rfl
    refine counts_refuse rfl ?_ hmalformed
    unfold failedCheck
    rw [hv]
  | ok u =>
    dsimp only
    split
    · next ht => exact counts_heartbeat hv ht now
    · next ht => exact counts_stream hv ht now

theorem persist_kept {api : StoreApi σ} {boot : BootId} {epoch : CoordinatorEpoch} {now : Millis}
    {record : JournalRecord} {status : Status} {g' : Governor σ}
    (h : g.persist api boot epoch now record = (status, g')) :
    g'.mergedMetrics = g.mergedMetrics ∧ g'.epoch = g.epoch := by
  obtain ⟨world, durable, rfl⟩ := persist_eq h
  exact ⟨rfl, rfl⟩

theorem length_of_verified {header : FrameHeader} {payload : ByteIo.Bytes} (h : verifyPayload header payload = .ok ()) :
    payload.length ≤ Limits.kMaxFrameBytes := by
  unfold verifyPayload at h
  split at h
  · cases h
  · split at h
    · cases h
    · next hlong => exact not_lt.mp hlong

theorem length_of_accepted {f : Frame} {now : Millis} {g : Governor σ} {report : AdmissionReport}
    (h : (g.admitFrame f now).1 = .ok report) : f.payload.length ≤ Limits.kMaxFrameBytes := by
  have ha := admits f now g
  generalize g.admitFrame f now = out at ha h
  cases ha with
  | unauthorized e m hs hb => cases h
  | heartbeat p m hb => exact length_of_verified hb.intact
  | undecoded p e m hp hd => cases h
  | unresolved p s n e m hp hd hv => cases h
  | applied p s n m hp hd hv => exact length_of_verified hp.intact

theorem moves_bytes (hlength : f.payload.length ≤ Limits.kMaxFrameBytes) (a : UInt64) :
    Moves a (count a (UInt64.ofNat (f.payload.length + kFrameHeaderBytes))) (f.payload.length + kFrameHeaderBytes) := by
  have hbytes : (UInt64.ofNat (f.payload.length + kFrameHeaderBytes)).toNat = f.payload.length + kFrameHeaderBytes := by
    have hmax : Limits.kMaxFrameBytes + kFrameHeaderBytes < 2 ^ 64 := by decide
    rw [UInt64.toNat_ofNat']
    omega
  have hmoves := moves_count a (UInt64.ofNat (f.payload.length + kFrameHeaderBytes))
  rwa [hbytes] at hmoves

theorem posted_accepted (hlength : f.payload.length ≤ Limits.kMaxFrameBytes) {now : Millis} {report : AdmissionReport}
    {g' : Governor σ} (hmetrics : g'.metrics = Governor.countAccepted f g.countReceived.metrics)
    (hengine : g'.engine = g.engine) :
    Posted g.mergedMetrics g'.mergedMetrics ⟨g, .admitFrame f now, .report (.ok report), g'⟩ := by
  have hbytes : Moves g.metrics.bytesReceived g'.metrics.bytesReceived (f.payload.length + kFrameHeaderBytes) := by
    rw [hmetrics]
    exact moves_bytes hlength g.metrics.bytesReceived
  intro k
  cases k
  case bytesReceived => exact hbytes
  all_goals
    unfold Governor.mergedMetrics
    rw [hmetrics, hengine]
  case framesReceived => exact moves_one _
  case framesAccepted => exact moves_one _
  all_goals exact .still _

theorem posted_refused {now : Millis} {failure : Failure} {g' : Governor σ}
    (hmetrics : g'.metrics = recorded (failedCheck f g) failure.code g.countReceived.metrics)
    (hengine : g'.engine = g.engine) :
    Posted g.mergedMetrics g'.mergedMetrics ⟨g, .admitFrame f now, .report (.error failure), g'⟩ := by
  unfold Posted Governor.mergedMetrics
  rw [hmetrics, hengine]
  intro k
  cases k with
  | framesReceived => exact moves_one _
  | framesRejected => exact moves_one _
  | framesDuplicate => exact moves_if _ _
  | framesStale => exact moves_if _ _
  | framesMalformed => exact moves_if _ _
  | rejectedStaleEpoch => exact moves_if _ _
  | rejectedStaleGeneration => exact moves_if _ _
  | rejectedStaleIncarnation => exact moves_if _ _
  | _ => exact .still _

theorem posted_admitFrame (api : StoreApi σ) (f : Frame) (now : Millis) (g : Governor σ) :
    Posted g.mergedMetrics (g.admitFrame f now).2.mergedMetrics (event (step api) (.admitFrame f now) g) := by
  have hcounts := counts_admitFrame f now g
  have hengine : (g.admitFrame f now).2.engine = g.engine := @step_engine σ api (.admitFrame f now) (by simp) g
  have hlength := @length_of_accepted σ f now g
  change Posted g.mergedMetrics (g.admitFrame f now).2.mergedMetrics
    ⟨g, .admitFrame f now, .report (g.admitFrame f now).1, (g.admitFrame f now).2⟩
  unfold Counts at hcounts
  cases hout : (g.admitFrame f now).1 with
  | ok report =>
    rw [hout] at hcounts
    exact posted_accepted (hlength hout) hcounts hengine
  | error failure =>
    rw [hout] at hcounts
    exact posted_refused hcounts hengine

theorem posted_same {m m' : Metrics} {e : Event Op Reply (Governor σ)} (hsame : m' = m)
    (hzero : ∀ k : Counter, k.weight e = 0) : Posted m m' e := by
  intro k
  rw [hsame, hzero k]
  exact .still _

theorem unit_isBehind {epoch : CoordinatorEpoch} {boot : BootId} {now : Millis} {out : Reply} {g' : Governor σ}
    (h : ¬ (epoch.valid = true ∧ g.epoch.valid = true ∧ epoch < g.epoch)) :
    unit isBehind ⟨g, .installEpoch epoch boot now, out, g'⟩ = 0 := by
  have hbehind : isBehind ⟨g, .installEpoch epoch boot now, out, g'⟩ = false := by
    unfold isBehind
    simpa [and_assoc] using h
  unfold unit
  rw [hbehind]
  rfl

theorem weight_refusedEpoch {epoch : CoordinatorEpoch} {boot : BootId} {now : Millis} {failure : Failure}
    {g' : Governor σ} (h : ¬ (epoch.valid = true ∧ g.epoch.valid = true ∧ epoch < g.epoch)) (k : Counter) :
    k.weight ⟨g, .installEpoch epoch boot now, .status (.error failure), g'⟩ = 0 := by
  cases k
  case rejectedStaleEpoch => exact (Nat.zero_add _).trans (unit_isBehind h)
  all_goals rfl

theorem enterEpoch_merged (epoch : CoordinatorEpoch) (boot : BootId) (now : Millis) :
    (g.enterEpoch epoch boot now).mergedMetrics = { g.mergedMetrics with
      epochAdvances :=
        if g.epoch ≠ epoch then count g.mergedMetrics.epochAdvances else g.mergedMetrics.epochAdvances } := by
  unfold Governor.enterEpoch
  dsimp only
  split <;> rfl

theorem posted_installEpoch (api : StoreApi σ) (epoch : CoordinatorEpoch) (boot : BootId) (now : Millis)
    (g : Governor σ) : Posted g.mergedMetrics (g.installEpoch api epoch boot now).2.mergedMetrics
      (event (step api) (.installEpoch epoch boot now) g) := by
  change Posted g.mergedMetrics (g.installEpoch api epoch boot now).2.mergedMetrics
    ⟨g, .installEpoch epoch boot now, .status (g.installEpoch api epoch boot now).1,
      (g.installEpoch api epoch boot now).2⟩
  unfold Governor.installEpoch
  by_cases hzero : (!epoch.valid) = true
  · rw [if_pos hzero]
    refine posted_same rfl (weight_refusedEpoch ?_)
    intro h
    rw [h.1] at hzero
    cases hzero
  rw [if_neg hzero]
  have hvalid : epoch.valid = true := by simpa using hzero
  by_cases hold : g.epoch.valid = true ∧ epoch < g.epoch
  · -- The installed epoch is newer, which has a counter of its own.
    rw [if_pos hold]
    intro k
    cases k
    case rejectedStaleEpoch =>
      have hbehind : ∀ out g', isBehind ⟨g, .installEpoch epoch boot now, out, g'⟩ = true := by
        intro out g'
        unfold isBehind
        simp [hvalid, hold]
      change Moves g.metrics.rejectedStaleEpoch (count g.metrics.rejectedStaleEpoch) (0 + unit isBehind _)
      unfold unit
      rw [hbehind]
      exact moves_one _
    all_goals exact .still _
  rw [if_neg hold]
  have hbehind : ¬ (epoch.valid = true ∧ g.epoch.valid = true ∧ epoch < g.epoch) := fun h ↦ hold h.2
  dsimp only
  split
  · next hpersist => exact posted_same (persist_kept hpersist).1 (weight_refusedEpoch hbehind)
  · next g' hpersist =>
    obtain ⟨hmerged, hepoch⟩ := persist_kept hpersist
    dsimp only
    rw [enterEpoch_merged, hmerged, hepoch]
    intro k
    cases k
    case epochAdvances =>
      change Moves g.metrics.epochAdvances
        (if g.epoch ≠ epoch then count g.metrics.epochAdvances else g.metrics.epochAdvances)
        (if decide (g.epoch ≠ epoch) = true then 1 else 0)
      by_cases hne : g.epoch ≠ epoch
      · rw [if_pos hne, if_pos (decide_eq_true hne)]
        exact moves_one _
      · rw [if_neg hne, if_neg (by simpa using hne)]
        exact .still _
    case rejectedStaleEpoch =>
      change Moves _ _ (0 + unit isBehind _)
      rw [unit_isBehind hbehind]
      exact .still _
    all_goals exact .still _

/-- A refusal of a registration is counted when it is about the incarnation. -/
structure Enlists (g : Governor σ) (out : Result WelcomePayload × Governor σ) : Prop where
  engine : out.2.engine = g.engine
  metrics : out.2.metrics = match out.1 with
    | .error e => if e.code = .staleIncarnation then
        { g.metrics with rejectedStaleIncarnation := count g.metrics.rejectedStaleIncarnation } else g.metrics
    | .ok _ => g.metrics

theorem enlists_reenlist (hello : HelloPayload) (now : Millis) (existing : PublisherState) :
    Enlists g (g.reenlist hello now existing) := by
  unfold Governor.reenlist
  split
  · exact ⟨rfl, rfl⟩
  · split
    · split <;> exact ⟨rfl, rfl⟩
    · exact ⟨rfl, rfl⟩

theorem enlists_registerPublisher (hello : HelloPayload) (now : Millis) :
    Enlists g (g.registerPublisher hello now) := by
  unfold Governor.registerPublisher
  split
  · exact ⟨rfl, rfl⟩
  · split
    · exact ⟨rfl, rfl⟩
    · split
      · exact ⟨rfl, rfl⟩
      · split
        · exact ⟨rfl, rfl⟩
        · split
          · exact enlists_reenlist hello now _
          · split <;> exact ⟨rfl, rfl⟩

theorem posted_registerPublisher (api : StoreApi σ) (hello : HelloPayload) (now : Millis) (g : Governor σ) :
    Posted g.mergedMetrics (g.registerPublisher hello now).2.mergedMetrics
      (event (step api) (.registerPublisher hello now) g) := by
  have henlists := @enlists_registerPublisher σ g hello now
  change Posted g.mergedMetrics (g.registerPublisher hello now).2.mergedMetrics
    ⟨g, .registerPublisher hello now, .welcome (g.registerPublisher hello now).1, (g.registerPublisher hello now).2⟩
  generalize g.registerPublisher hello now = out at henlists
  obtain ⟨reply, g'⟩ := out
  obtain ⟨hengine, hmetrics⟩ := henlists
  dsimp only at hengine hmetrics
  unfold Governor.mergedMetrics
  rw [hengine, hmetrics]
  cases reply with
  | ok welcome =>
    refine posted_same rfl ?_
    intro k
    cases k <;> rfl
  | error e =>
    intro k
    cases k
    case rejectedStaleIncarnation =>
      change Moves g.metrics.rejectedStaleIncarnation _
        (0 + if decide (e.code = .staleIncarnation) = true then 1 else 0)
      dsimp only
      by_cases hcode : e.code = .staleIncarnation
      · simp only [hcode]
        exact moves_one _
      · simp only [hcode]
        exact .still _
    all_goals
      dsimp only
      split <;> exact .still _

theorem posted_notePublisherDeath (api : StoreApi σ) (publisher : PublisherId) (now : Millis) (g : Governor σ) :
    Posted g.mergedMetrics (g.notePublisherDeath api publisher now).2.mergedMetrics
      (event (step api) (.notePublisherDeath publisher now) g) := by
  have h := notes api now g publisher
  change Posted g.mergedMetrics (g.notePublisherDeath api publisher now).2.mergedMetrics
    ⟨g, .notePublisherDeath publisher now, .status (g.notePublisherDeath api publisher now).1,
      (g.notePublisherDeath api publisher now).2⟩
  generalize g.notePublisherDeath api publisher now = out at h ⊢
  have halive : ∀ {s : PublisherState}, g.findPublisher publisher = some s →
      ((g.findPublisher publisher).map (·.alive)).getD false = s.alive := by
    intro s hs
    rw [hs]
    rfl
  cases h with
  | unknown e hs =>
    refine posted_same rfl ?_
    intro k
    cases k <;> rfl
  | refused e g' hp =>
    refine posted_same (persist_kept hp).1 ?_
    intro k
    cases k <;> rfl
  | dead s g' hs hdead hp =>
    refine posted_same (persist_kept hp).1 ?_
    intro k
    cases k
    case publisherDeaths =>
      have hdeath : isDeath ⟨g, .notePublisherDeath publisher now, .status (.ok ()), g'⟩ = false :=
        (halive hs).trans hdead
      exact if_neg (Bool.eq_false_iff.mp hdeath)
    all_goals rfl
  | revoked s g' hs hlive hp =>
    have hmerged : (g'.revoke publisher now).mergedMetrics =
        { g.mergedMetrics with publisherDeaths := count g.mergedMetrics.publisherDeaths } := by
      rw [← (persist_kept hp).1]
      rfl
    dsimp only
    rw [hmerged]
    intro k
    cases k
    case publisherDeaths =>
      change Moves g.metrics.publisherDeaths _
        (if ((g.findPublisher publisher).map (·.alive)).getD false = true then 1 else 0)
      rw [halive hs, hlive]
      exact moves_one _
    all_goals exact .still _

theorem posted_commitDurable (api : StoreApi σ) (now : Millis) (g : Governor σ) :
    Posted g.mergedMetrics (g.commitDurable api now).2.mergedMetrics
      (event (step api) (.commitDurable now) g) := by
  change Posted g.mergedMetrics (g.commitDurable api now).2.mergedMetrics
    ⟨g, .commitDurable now, .status (g.commitDurable api now).1, (g.commitDurable api now).2⟩
  have hzero : ∀ (e : Failure) (g' : Governor σ) (k : Counter),
      k.weight ⟨g, .commitDurable now, .status (.error e), g'⟩ = 0 := by
    intro e g' k
    cases k <;> rfl
  unfold Governor.commitDurable
  split
  · exact posted_same rfl (hzero _ _)
  · dsimp only
    split
    · exact posted_same rfl (hzero _ _)
    · intro k
      cases k
      case journalAppends => exact moves_count _ 2
      all_goals exact .still _

structure Evaluated (g : Governor σ) (decision : Decision) (g' : Governor σ) : Prop where
  metrics : g'.metrics = g.metrics
  evaluations : Moves g.engine.metrics.evaluations g'.engine.metrics.evaluations 1
  hotspots : Moves g.engine.metrics.hotspotsConfirmed g'.engine.metrics.hotspotsConfirmed
    (sized decision.assessment.hotspots.length)
  candidates : Moves g.engine.metrics.candidatesObserved g'.engine.metrics.candidatesObserved
    (sized decision.assessment.candidates.length)
  planned : Moves g.engine.metrics.interventionsPlanned g'.engine.metrics.interventionsPlanned
    (sized decision.plan.intents.length)
  suppressed : Moves g.engine.metrics.interventionsSuppressed g'.engine.metrics.interventionsSuppressed
    (sized decision.plan.suppressed.length)
  escalations : Moves g.engine.metrics.escalations g'.engine.metrics.escalations (escalated decision)

theorem evaluated (now : Millis) (g : Governor σ) : Evaluated g (g.evaluate now).1 (g.evaluate now).2 :=
  ⟨rfl, moves_one _, moves_sized _ _, moves_sized _ _, moves_sized _ _, moves_sized _ _, moves_escalations _ _⟩

theorem Evaluated.posted {decision : Decision} {g' : Governor σ} {now : Millis} (h : Evaluated g decision g') :
    Posted g.mergedMetrics g'.mergedMetrics ⟨g, .evaluate now, .decision decision, g'⟩ := by
  intro k
  cases k
  case evaluations => exact h.evaluations
  case hotspotsConfirmed => exact h.hotspots
  case candidatesObserved => exact h.candidates
  case interventionsPlanned => exact h.planned
  case interventionsSuppressed => exact h.suppressed
  case escalations => exact h.escalations
  all_goals
    unfold Governor.mergedMetrics
    rw [h.metrics]
    exact .still _

theorem posted_step (api : StoreApi σ) (op : Op) (g : Governor σ) :
    Posted g.mergedMetrics (step api op g).2.mergedMetrics (event (step api) op g) := by
  cases op with
  | installEpoch epoch boot now => exact posted_installEpoch api epoch boot now g
  | registerPublisher hello now => exact posted_registerPublisher api hello now g
  | notePublisherDeath publisher now => exact posted_notePublisherDeath api publisher now g
  | admitFrame f now => exact posted_admitFrame api f now g
  | evaluate now => exact (evaluated now g).posted
  | commitDurable now => exact posted_commitDurable api now g

def Keeps (n : ℕ) : Option PublisherState → Prop
  | none => n = 0
  | some s => s.accepted = saturated n

theorem streamsFrom_of_accepted {e : Event Op Reply (Governor σ)} {publisher : PublisherId} (h : Accepted e f) :
    streamsFrom publisher e = decide (f.header.publisher = publisher ∧ streamOf f.header.type ≠ .unknown) := by
  obtain ⟨now, report, hop, hout⟩ := h
  unfold streamsFrom
  rw [hop, hout]

theorem streamsFrom_of_not_accepted {e : Event Op Reply (Governor σ)} {publisher : PublisherId}
    (h : ∀ f, Accepted e f → f.header.publisher ≠ publisher) : streamsFrom publisher e = false := by
  unfold streamsFrom
  split
  · next f now report hop hout => exact decide_eq_false fun hboth ↦ h f ⟨now, report, hop, hout⟩ hboth.1
  · rfl

theorem fence_accepted (s : PublisherState) (epoch : CoordinatorEpoch) (now : Millis) :
    (s.fence epoch now).accepted = s.accepted := by
  unfold PublisherState.fence
  split <;> rfl

theorem Keeps.turn {n : ℕ} {e : Event Op Reply (Governor σ)} {publisher : PublisherId}
    {entry entry' : Option PublisherState} (h : Keeps n entry) (ht : Turn e publisher entry entry') :
    Keeps (n + unit (streamsFrom publisher) e) entry' := by
  have hstill : (∀ f, Accepted e f → f.header.publisher ≠ publisher) → unit (streamsFrom publisher) e = 0 := by
    intro haccepted
    unfold unit
    rw [streamsFrom_of_not_accepted haccepted]
    rfl
  cases ht with
  | aside entry ha hepoch =>
    rw [hstill ha.accepted]
    exact h
  | fenced entry epoch now ha hle hepoch =>
    rw [hstill ha.accepted]
    cases entry with
    | none => exact h
    | some s =>
      exact (fence_accepted s epoch now).trans h
  | enrolled hello now entry s' he hp hr hacc hepoch =>
    rw [hstill fun f hf ↦ absurd hf (hacc f)]
    cases hr with
    | enroll => rw [show n = 0 from h]; rfl
    | refresh s hi hb => exact h
    | supersede s hi => exact h
  | buried s s' hb hen hacc hs' hepoch =>
    rw [hstill fun f hf ↦ absurd hf (hacc f)]
    rcases hs' with ⟨rfl, -⟩ | ⟨now, rfl⟩
    · exact h
    · exact h
  | accepted f s s' hf hp hen hbur ha hepoch =>
    have hs : s.accepted = saturated n := h
    unfold unit
    rw [streamsFrom_of_accepted hf]
    change s'.accepted = _
    rw [ha.counted]
    by_cases hunknown : streamOf f.header.type = .unknown
    · rw [if_pos hunknown, if_neg (by simp [hunknown])]
      exact hs
    · rw [if_neg hunknown, if_pos (by simp [hp, hunknown])]
      exact moves_one s.accepted n hs

/-- Every counter of a governor is what it was at the recovery and the tally of what the calls since then
add to it, every admission is answered once, and a publisher's record counts its accepted stream frames. -/
structure Accounts (first : Governor σ) (past : Fencing.History σ) (g : Governor σ) : Prop where
  counters : ∀ k : Counter, k.read g.mergedMetrics =
    saturated ((k.read first.mergedMetrics).toNat + tally (fun e ↦ k.weight e) past)
  answered : tally (unit isAdmission) past = tally (unit isAccepted) past + tally (unit isRefused) past
  publishers : ∀ publisher, Keeps (tally (unit (streamsFrom publisher)) past) (g.findPublisher publisher)

theorem answered_step (api : StoreApi σ) (op : Op) (g : Governor σ) : unit isAdmission (event (step api) op g) =
    unit isAccepted (event (step api) op g) + unit isRefused (event (step api) op g) := by
  cases op with
  | admitFrame f now =>
    change unit isAdmission ⟨g, .admitFrame f now, .report (g.admitFrame f now).1, (g.admitFrame f now).2⟩ =
      unit isAccepted ⟨g, .admitFrame f now, .report (g.admitFrame f now).1, (g.admitFrame f now).2⟩ +
        unit isRefused ⟨g, .admitFrame f now, .report (g.admitFrame f now).1, (g.admitFrame f now).2⟩
    cases (g.admitFrame f now).1 with
    | ok report => rfl
    | error failure => rfl
  | _ => rfl

variable {first : Governor σ} {past : Fencing.History σ} {api : StoreApi σ}

theorem Accounts.step (h : Accounts first past g) (hfenced : Fenced past g) (op : Op) :
    Accounts first (past ++ [event (Operations.step api) op g]) (Operations.step api op g).2 := by
  constructor
  · intro k
    rw [posted_step api op g k _ (h.counters k), tally_snoc, Nat.add_assoc]
  · have hold := h.answered
    have hanswered := answered_step api op g
    rw [tally_snoc, tally_snoc, tally_snoc]
    omega
  · intro publisher
    rw [tally_snoc]
    exact (h.publishers publisher).turn (turn_of_step hfenced op)

section Run

variable {config : GovernorConfig} {world : σ} {process : Process} {start : Millis}

def restores (api : StoreApi σ) (config : GovernorConfig) (world : σ) : Bool :=
  match config.store with
  | none => false
  | some store =>
    let opened := api.openStore (api.attach store world)
    match opened.1 with
    | .error _ => false
    | .ok () => (api.recover opened.2).1.isOk

def booted (restored : Bool) (recovery : RecoveredState) : Counter → UInt64
  | .recoveries => if restored then 1 else 0
  | .epochAdvances => if restored && recovery.lastEpoch.valid then 1 else 0
  | _ => 0

theorem recovered_counters (api : StoreApi σ) (config : GovernorConfig) (world : σ) (process : Process) (now : Millis)
    (k : Counter) : k.read (recovered api config world process now).mergedMetrics =
      booted (restores api config world) (recovered api config world process now).recovery k := by
  unfold recovered restores Governor.recover
  dsimp only
  cases config.store with
  | none => cases k <;> rfl
  | some store =>
    dsimp only
    cases (api.openStore (api.attach store world)).1 with
    | error e => cases k <;> rfl
    | ok u =>
      dsimp only
      cases (api.recover (api.openStore (api.attach store world)).2).1 with
      | ok state =>
        unfold Governor.adopt booted
        dsimp only
        cases k
        case epochAdvances => cases state.lastEpoch.valid <;> rfl
        all_goals rfl
      | error e =>
        dsimp only
        split <;> cases k <;> rfl

theorem accounts_of_run (h : GovernorRun api config world process start past g) :
    Accounts (recovered api config world process start) past g := by
  have hboth : Fenced past g ∧ Accounts (recovered api config world process start) past g := by
    refine @Run.invariant _ _ _ _ _ _ _
      (fun past g ↦ Fenced past g ∧ Accounts (recovered api config world process start) past g) ?_ ?_ h
    · refine ⟨fenced_of_run .start, ?_, rfl, ?_⟩
      · intro k
        exact (saturated_toNat_eq _).symm
      · intro publisher
        have hnone : (recovered api config world process start).findPublisher publisher = none := by
          unfold Governor.findPublisher
          rw [(recovered_spec api config world process start).2]
          rfl
        rw [hnone]
        rfl
    · intro past g op hboth
      exact ⟨hboth.1.step op, hboth.2.step hboth.1 op⟩
  exact hboth.2

theorem counter_of_run (h : GovernorRun api config world process start past g) {k : Counter}
    (hzero : ∀ restored recovery, booted restored recovery k = 0) :
    k.read g.mergedMetrics = saturated (tally (fun e ↦ k.weight e) past) := by
  have hcounter := (accounts_of_run h).counters k
  rw [recovered_counters, hzero] at hcounter
  exact hcounter.trans (congrArg saturated (Nat.zero_add _))

end Run

open Atomicity

end HotspotGovernor.Tallies
