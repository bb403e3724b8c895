import HotspotGovernor.Codec
import HotspotGovernor.Fencing

namespace HotspotGovernor.Generations

open Foundation ByteIo Topology Evidence Durable Framing Codec Registry Governance
open Admission Operations Fencing Lib.Trace

variable {σ : Type}

def evidenceStreams : List StreamKind := [.capacity, .signals, .paths, .traffic, .policy]

def installedGeneration (s : Snapshots) : StreamKind → Option UInt64
  | .unknown | .topology => none
  | .capacity => s.capacity.map (fun x ↦ x.generation.value)
  | .signals => s.signals.map (fun x ↦ x.generation.value)
  | .paths => s.paths.map (fun x ↦ x.generation.value)
  | .traffic => s.traffic.map (fun x ↦ x.generation.value)
  | .policy => s.policy.map (fun x ↦ x.generation.value)

def Agrees (f : Frame) : Prop :=
  streamOf f.header.type ∈ evidenceStreams →
    ∀ generation, payloadGeneration f.payload = some generation → generation = f.header.generation

theorem installed_of_decodeInto {s s' : Snapshots} {f : Frame} {n : ℕ}
    (h : decodeInto s f = .ok (s', n)) (hs : streamOf f.header.type ∈ evidenceStreams) :
    ∃ generation, payloadGeneration f.payload = some generation ∧
      installedGeneration s' (streamOf f.header.type) = some generation := by
  unfold decodeInto at h
  dsimp only at h
  split at h
  · next ht =>
    rw [ht] at hs
    exact absurd hs (by decide)
  · next ht =>
    obtain ⟨snapshot, hd, h⟩ := TopologyIndex.bind_eq_ok h
    obtain ⟨rfl, -⟩ := Prod.mk.inj (Except.ok.inj h)
    rw [ht]
    exact ⟨_, decodeCapacityPayload_generation hd, rfl⟩
  · next ht =>
    obtain ⟨snapshot, hd, h⟩ := TopologyIndex.bind_eq_ok h
    obtain ⟨rfl, -⟩ := Prod.mk.inj (Except.ok.inj h)
    rw [ht]
    exact ⟨_, decodeSignalsPayload_generation hd, rfl⟩
  · next ht =>
    obtain ⟨snapshot, hd, h⟩ := TopologyIndex.bind_eq_ok h
    obtain ⟨rfl, -⟩ := Prod.mk.inj (Except.ok.inj h)
    rw [ht]
    exact ⟨_, decodePathsPayload_generation hd, rfl⟩
  · next ht =>
    obtain ⟨snapshot, hd, h⟩ := TopologyIndex.bind_eq_ok h
    obtain ⟨rfl, -⟩ := Prod.mk.inj (Except.ok.inj h)
    rw [ht]
    exact ⟨_, decodeTrafficPayload_generation hd, rfl⟩
  · next ht =>
    obtain ⟨snapshot, hd, h⟩ := TopologyIndex.bind_eq_ok h
    obtain ⟨rfl, -⟩ := Prod.mk.inj (Except.ok.inj h)
    rw [ht]
    exact ⟨_, decodePolicyPayload_generation hd, rfl⟩
  · cases h

theorem not_heartbeat_of_stream {type : MessageType} (h : streamOf type ∈ evidenceStreams) :
    type ≠ .heartbeat := by
  rintro rfl
  exact absurd h (by decide)

theorem installed_of_accepted {f : Frame} {now : Millis} {g : Governor σ} {report : AdmissionReport}
    (haccepted : (g.admitFrame f now).1 = .ok report) (hs : streamOf f.header.type ∈ evidenceStreams)
    (hagrees : Agrees f) :
    installedGeneration (g.admitFrame f now).2.snapshots (streamOf f.header.type) =
      some f.header.generation := by
  have ha := admits f now g
  generalize g.admitFrame f now = out at ha haccepted ⊢
  cases ha with
  | unauthorized e m hp hb => cases haccepted
  | heartbeat p m hb => exact absurd hb.heartbeat (not_heartbeat_of_stream hs)
  | undecoded p e m hp hd => cases haccepted
  | unresolved p s n e m hp hd hv => cases haccepted
  | applied p s n m hp hd hv =>
    obtain ⟨generation, hpayload, hinstalled⟩ := installed_of_decodeInto hd.decoded hs
    rw [← hagrees hs generation hpayload]
    exact hinstalled

section Run

variable {api : StoreApi σ} {config : GovernorConfig} {world : σ} {process : Process} {start : Millis}
  {past : History σ} {g : Governor σ}

/-- In a run whose accepted frames agree with their headers, every accepted frame of an evidence
stream installs a newer generation than any accepted before it from the same publisher, incarnation
and epoch. -/
theorem installed_generation_advances (h : GovernorRun api config world process start past g)
    (hpast : ∀ e ∈ past, ∀ f, AcceptedStream e f → Agrees f) (f : Frame) (now : Millis)
    (report : AdmissionReport) (hagrees : Agrees f) (haccepted : (g.admitFrame f now).1 = .ok report)
    (hstream : streamOf f.header.type ∈ evidenceStreams) (e : Event Op Reply (Governor σ)) (he : e ∈ past)
    (f' : Frame) (hf' : AcceptedStream e f')
    (hsame : streamOf f'.header.type = streamOf f.header.type)
    (hpublisher : f'.header.publisher = f.header.publisher)
    (hincarnation : f'.header.incarnation = f.header.incarnation)
    (hepoch : f'.header.epoch = f.header.epoch) :
    ∃ old new, installedGeneration e.after.snapshots (streamOf f.header.type) = some old ∧
      installedGeneration (g.admitFrame f now).2.snapshots (streamOf f.header.type) = some new ∧ old < new := by
  obtain ⟨-, -, hnewer⟩ := (fenced_of_run h).accepted haccepted (not_heartbeat_of_stream hstream)
  have hlt := (hnewer e he f' hf' hpublisher hincarnation hepoch).2 hsame
  refine ⟨f'.header.generation, f.header.generation, ?_, installed_of_accepted haccepted hstream hagrees, hlt⟩
  have hagrees' := hpast e he f' hf'
  obtain ⟨-, now', report', hop, hout⟩ := hf'
  have hevent := h.event_eq e he
  rw [hevent, hop] at hout ⊢
  rw [← hsame] at hstream ⊢
  exact installed_of_accepted (Reply.report.inj hout) hstream hagrees'

end Run

open Atomicity

/-- Capacity of the introduced publisher, with a generation in the header and one in the payload. -/
def capacityFrame (order : UInt64) (generation : UInt64) : Frame :=
  makeFrame .capacity (sentAs 1 order order) (capacityPayload generation 1)

def enrolment : Event Op Reply (Governor Unit) :=
  event (step noStore) (.registerPublisher introduction 0) (recovered noStore {} () ⟨0, 0⟩ 0)

def capacityEvent (generation : UInt64) : Event Op Reply (Governor Unit) :=
  event (step noStore) (.admitFrame (capacityFrame 1 generation) 0) enrolment.after

theorem run_capacityEvent (generation : UInt64) : GovernorRun noStore {} () ⟨0, 0⟩ 0
    ([enrolment] ++ [capacityEvent generation]) (capacityEvent generation).after := by
  have henrolled : GovernorRun noStore {} () ⟨0, 0⟩ 0 [enrolment] enrolment.after :=
    Run.start.snoc_event (Op.registerPublisher introduction 0)
  exact henrolled.snoc_event (Op.admitFrame (capacityFrame 1 generation) 0)

theorem admit_capacityFrame (order generation : UInt64) (g : Governor Unit) :
    g.admitFrame (capacityFrame order generation) 0 =
      g.countReceived.admitStream (capacityFrame order generation) 0 := by
  have hlen : (capacityPayload generation 1).length ≤ Limits.kMaxFrameBytes := by
    simp [capacityPayload, encodeStreamHeader, putCount, putBool, putU8, Limits.kMaxFrameBytes]
  exact (admit_makeFrame .capacity (sentAs 1 order order) hlen 0 g).trans (if_neg (by decide))

theorem agrees_capacityFrame (generation : UInt64) : Agrees (capacityFrame generation generation) := by
  intro _ stated hstated
  have hpayload : payloadGeneration (capacityPayload generation 1) = some generation := by
    simp [payloadGeneration, capacityPayload, encodeStreamHeader]
  exact Option.some.inj (hstated.symm.trans hpayload)

theorem capacityEvent_out (generation : UInt64) : (capacityEvent generation).out =
    .report (enrolment.after.countReceived.admitStream (capacityFrame 1 generation) 0).1 := by
  rw [capacityEvent, event_admit_out, admit_capacityFrame]

theorem capacityEvent_after (generation : UInt64) : (capacityEvent generation).after =
    (enrolment.after.countReceived.admitStream (capacityFrame 1 generation) 0).2 := by
  rw [capacityEvent, event_admit_after, admit_capacityFrame]

/-- Headers of generations 1 and 2 over payloads of generations 5 and 3: both frames are accepted and
the installed generation goes back. -/
theorem installed_generation_regresses : ∃ past e, GovernorRun noStore {} () ⟨0, 0⟩ 0 (past ++ [e]) e.after ∧
    AcceptedStream e (capacityFrame 1 5) ∧
    (∃ report, (e.after.admitFrame (capacityFrame 2 3) 0).1 = .ok report) ∧
    installedGeneration e.after.snapshots .capacity = some 5 ∧
    installedGeneration (e.after.admitFrame (capacityFrame 2 3) 0).2.snapshots .capacity = some 3 := by
  refine ⟨[enrolment], capacityEvent 5, run_capacityEvent 5,
    ⟨by decide, 0, reportOf (capacityFrame 1 5).header 1, rfl, ?_⟩,
    ⟨reportOf (capacityFrame 2 3).header 1, ?_⟩, ?_, ?_⟩
  · rw [capacityEvent_out]
    rfl
  · rw [admit_capacityFrame, capacityEvent_after]
    rfl
  · rw [capacityEvent_after]
    rfl
  · rw [admit_capacityFrame, capacityEvent_after]
    rfl

/-- The same headers over payloads that agree with them. -/
theorem installed_generation_advances_capacity : ∃ old new,
    installedGeneration (capacityEvent 1).after.snapshots .capacity = some old ∧
    installedGeneration ((capacityEvent 1).after.admitFrame (capacityFrame 2 2) 0).2.snapshots .capacity =
      some new ∧ old < new := by
  refine installed_generation_advances (run_capacityEvent 1) ?_ (capacityFrame 2 2) 0
    (reportOf (capacityFrame 2 2).header 1) ?_ ?_ (by decide) (capacityEvent 1) (by simp) (capacityFrame 1 1)
    ⟨by decide, 0, reportOf (capacityFrame 1 1).header 1, rfl, ?_⟩ rfl rfl rfl rfl
  · intro e he f haccepted
    obtain ⟨-, now, report, hop, -⟩ := haccepted
    rcases List.mem_cons.mp he with rfl | he
    · cases hop
    · obtain rfl := List.mem_singleton.mp he
      cases hop
      exact agrees_capacityFrame 1
  · exact agrees_capacityFrame 2
  · rw [admit_capacityFrame, capacityEvent_after]
    rfl
  · rw [capacityEvent_out]
    rfl

end HotspotGovernor.Generations
