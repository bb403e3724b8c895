import HotspotGovernor.Admission
import HotspotGovernor.Lib.Trace

namespace HotspotGovernor.Governance.Governor

open Foundation Topology Evidence Detection Intervention Decisions Durable Framing Registry Admission

variable {σ : Type}

def decisionInput (now : Millis) (g : Governor σ) : DecisionInput :=
  { topology := g.snapshots.topology
    capacity := g.snapshots.capacity
    signals := g.snapshots.signals
    paths := g.snapshots.paths
    traffic := g.snapshots.traffic
    policy := g.snapshots.policy
    now
    epoch := g.epoch
    boot := g.boot
    tracker := some g.engine.tracker
    referencesPreverified := g.snapshots.topology.isSome && g.verified = verifiedOf g.snapshots }

def durableHotspot (now : Millis) (hotspot : Hotspot) : DurableHotspot :=
  { id := hotspot.id
    key := ByteIo.textBytes hotspot.key
    scope := UInt8.ofNat hotspot.scope.code
    severity := severityByte hotspot.severity
    cause := UInt8.ofNat hotspot.cause.code
    persistenceMs := hotspot.persistenceMs
    lastObserved := now
    resourceCount := UInt64.ofNat hotspot.saturatedCount }

/-- The latest values replace the entry of the same hotspot; otherwise the oldest entry makes room. -/
def recordHotspot (limit : ℕ) (entries : List DurableHotspot) (entry : DurableHotspot) :
    List DurableHotspot :=
  match entries.findIdx? (fun e ↦ e.id = entry.id) with
  | some i => entries.set i entry
  | none => (if entries.length ≥ limit then entries.drop 1 else entries) ++ [entry]

def durableIntervention (now : Millis) (intent : MitigationIntent) : DurableIntervention :=
  { id := intent.id
    kind := kindByte intent.kind
    hotspot := intent.hotspot
    at_ := now
    scopeSharePpm := intent.scopeSharePpm
    escalation := intent.escalation }

def recordDecision (decision : Decision) (now : Millis) (g : Governor σ) : Governor σ :=
  let limit := min g.config.maxHistory Limits.kMaxHotspots
  let interventions :=
    g.durable.interventions ++ decision.plan.intents.map (durableIntervention now)
  { g with
    durable :=
      { g.durable with
        hotspots := (decision.assessment.hotspots.map (durableHotspot now)).foldl
          (recordHotspot limit) g.durable.hotspots
        interventions := interventions.drop (interventions.length - Limits.kMaxHotspots * 4) } }

def evaluate (now : Millis) (g : Governor σ) : Decision × Governor σ :=
  let outcome := g.engine.decideTracked (g.decisionInput now)
  (outcome.1, { g with engine := outcome.2 }.recordDecision outcome.1 now)

end HotspotGovernor.Governance.Governor

namespace HotspotGovernor.Operations

open Foundation Detection Decisions Durable Framing Registry Governance Admission Lib.Trace

inductive Op
  | installEpoch (epoch : CoordinatorEpoch) (coordinatorBoot : BootId) (now : Millis)
  | registerPublisher (hello : HelloPayload) (now : Millis)
  | notePublisherDeath (publisher : PublisherId) (now : Millis)
  | admitFrame (frame : Frame) (now : Millis)
  | evaluate (now : Millis)
  | commitDurable (now : Millis)

inductive Reply
  | status (status : Status)
  | welcome (result : Result WelcomePayload)
  | report (result : Result AdmissionReport)
  | decision (decision : Decision)

variable {σ : Type}

def step (api : StoreApi σ) (op : Op) (g : Governor σ) : Reply × Governor σ :=
  match op with
  | .installEpoch epoch boot now => (g.installEpoch api epoch boot now).map .status id
  | .registerPublisher hello now => (g.registerPublisher hello now).map .welcome id
  | .notePublisherDeath publisher now => (g.notePublisherDeath api publisher now).map .status id
  | .admitFrame frame now => (g.admitFrame frame now).map .report id
  | .evaluate now => (g.evaluate now).map .decision id
  | .commitDurable now => (g.commitDurable api now).map .status id

theorem step_admitFrame (api : StoreApi σ) (frame : Frame) (now : Millis) (g : Governor σ) :
    (step api (.admitFrame frame now) g).2 = (g.admitFrame frame now).2 := rfl

theorem event_admit_out (api : StoreApi σ) (frame : Frame) (now : Millis) (g : Governor σ) :
    (event (step api) (.admitFrame frame now) g).out = .report (g.admitFrame frame now).1 := rfl

theorem event_admit_after (api : StoreApi σ) (frame : Frame) (now : Millis) (g : Governor σ) :
    (event (step api) (.admitFrame frame now) g).after = (g.admitFrame frame now).2 := rfl

theorem step_registerPublisher (api : StoreApi σ) (hello : HelloPayload) (now : Millis) (g : Governor σ) :
    (step api (.registerPublisher hello now) g).2 = (g.registerPublisher hello now).2 := rfl

theorem step_installEpoch (api : StoreApi σ) (epoch : CoordinatorEpoch) (boot : BootId) (now : Millis)
    (g : Governor σ) : (step api (.installEpoch epoch boot now) g).2 = (g.installEpoch api epoch boot now).2 := rfl

def noStore : StoreApi Unit :=
  { attach := fun _ w ↦ w
    openStore := fun w ↦ (Status.failure .persistenceIoError "no directory", w)
    recover := fun w ↦ (Status.failure .missingEvidence "no durable snapshot exists", w)
    commit := fun _ _ w ↦ (Status.failure .persistenceIoError "no directory", w)
    journalSequence := fun _ ↦ 0 }

def recovered (api : StoreApi σ) (config : GovernorConfig) (world : σ) (process : Process)
    (now : Millis) : Governor σ := (Governor.recover api process now { config, world }).2

/-- Any interleaving of calls after one recovery, with what they returned and the state reached. -/
abbrev GovernorRun (api : StoreApi σ) (config : GovernorConfig) (world : σ) (process : Process)
    (now : Millis) : List (Event Op Reply (Governor σ)) → Governor σ → Prop :=
  Run (step api) (recovered api config world process now)

end HotspotGovernor.Operations
