import HotspotGovernor.Durable
import HotspotGovernor.Registry

namespace HotspotGovernor.Governance

open Foundation ByteIo Topology Evidence Detection Intervention Decisions Framing Durable Registry

structure Snapshots where
  topology : Option TopologySnapshot := none
  capacity : Option CapacitySnapshot := none
  signals : Option SignalSnapshot := none
  paths : Option PathSnapshot := none
  traffic : Option TrafficSnapshot := none
  policy : Option PolicySnapshot := none

/-- The identities that the installed snapshots had when their references were last verified. -/
structure Verified where
  topology : TopologyId := default
  capacity : CapacityId := default
  signals : EvidenceId := default
  paths : PathSetId := default
  deriving DecidableEq

structure GovernorConfig where
  nodeName : String := "hotspot-governor"
  initialEpoch : CoordinatorEpoch := default
  store : Option StoreConfig := none
  dropEvidenceOnPublisherDeath : Bool := false
  maxHistory : ℕ := Limits.kMaxHotspots

/-- Everything one mutex guards, and the world behind the durable store. -/
structure Governor (σ : Type) where
  config : GovernorConfig := {}
  world : σ
  storeOpen : Bool := false
  engine : Engine := {}
  snapshots : Snapshots := {}
  publishers : Publishers := default
  epoch : CoordinatorEpoch := default
  boot : BootId := default
  metrics : Metrics := {}
  durable : DurableState := {}
  recovery : RecoveredState := {}
  verified : Verified := {}

/-- What a boot identity is derived from besides the clock: the process and its boot counter. -/
structure Process where
  id : UInt64
  bootCounter : UInt64

def makeBootId (config : GovernorConfig) (process : Process) (now : Millis) : BootId :=
  ⟨identityFromBytes (config.nodeName ++ ":" ++ toString process.id.toNat ++ ":" ++
    toString now.toUInt64.toNat ++ ":" ++ toString process.bootCounter.toNat)⟩

namespace Governor

variable {σ : Type}

def findPublisher (g : Governor σ) (id : PublisherId) : Option PublisherState :=
  g.publishers.findPublisher id

/-- Live authority is never restored: only the committed history and a strictly newer epoch. -/
def adopt (g : Governor σ) (recovered : RecoveredState) : Governor σ :=
  let epoch := if recovered.lastEpoch.valid then recovered.lastEpoch.next else g.epoch
  { g with
    recovery := recovered
    metrics :=
      { g.metrics with
        recoveries := count g.metrics.recoveries
        epochAdvances :=
          if recovered.lastEpoch.valid then count g.metrics.epochAdvances else g.metrics.epochAdvances }
    epoch
    durable := { recovered.state with writtenByBoot := g.boot, epoch }
    publishers := default
    snapshots := {}
    engine := g.engine.reset }

def recover (api : StoreApi σ) (process : Process) (now : Millis) (g : Governor σ) :
    Status × Governor σ :=
  let g := { g with
    boot := makeBootId g.config process now
    epoch := if g.config.initialEpoch.valid then g.config.initialEpoch else ⟨1⟩ }
  match g.config.store with
  | none => (.ok (), { g with recovery := { notes := ["no durable store configured"] } })
  | some store =>
    let opened := api.openStore (api.attach store g.world)
    match opened.1 with
    | .error e => (.error e, { g with world := opened.2, storeOpen := false })
    | .ok () =>
      let recovered := api.recover opened.2
      let g := { g with world := recovered.2, storeOpen := true }
      match recovered.1 with
      | .ok state => (.ok (), g.adopt state)
      | .error e =>
        if e.code = .missingEvidence then
          (.ok (), { g with recovery := { notes := ["fresh boot: no durable state present"] } })
        else (.error e, { g with storeOpen := false })

def durableSnapshot (api : StoreApi σ) (boot : BootId) (epoch : CoordinatorEpoch) (now : Millis)
    (g : Governor σ) : DurableState :=
  { g.durable with
    formatVersion := kDurableFormatVersion
    writtenByBoot := boot
    epoch
    evaluations := g.engine.evaluations
    writtenAt := now
    journalSequence := if g.storeOpen then api.journalSequence g.world else 0 }

/-- A change of authority is durable before it is live. Without a store there is nothing to do. -/
def persist (api : StoreApi σ) (boot : BootId) (epoch : CoordinatorEpoch) (now : Millis)
    (record : JournalRecord) (g : Governor σ) : Status × Governor σ :=
  if !g.storeOpen then (.ok (), g)
  else
    let candidate := g.durableSnapshot api boot epoch now
    let outcome := api.commit candidate [record] g.world
    match outcome.1 with
    | .error e => (.error e, { g with world := outcome.2 })
    | .ok () => (.ok (), { g with world := outcome.2, durable := candidate })

def commitDurable (api : StoreApi σ) (now : Millis) (g : Governor σ) : Status × Governor σ :=
  if !g.storeOpen then (Status.failure .notStarted "no durable store is configured", g)
  else
    let state := g.durableSnapshot api g.boot g.epoch now
    let outcome := api.commit state [{ type := .evaluationCheckpoint, at_ := now }] g.world
    match outcome.1 with
    | .error e => (.error e, { g with world := outcome.2 })
    | .ok () =>
      (.ok (), { g with
        world := outcome.2
        durable := state
        metrics := { g.metrics with journalAppends := count g.metrics.journalAppends 2 } })

/-- The live half of an epoch change: install it, then fence the publishers of any other epoch. -/
def enterEpoch (epoch : CoordinatorEpoch) (boot : BootId) (now : Millis) (g : Governor σ) : Governor σ :=
  { g with
    epoch
    boot
    metrics :=
      if g.epoch ≠ epoch then { g.metrics with epochAdvances := count g.metrics.epochAdvances }
      else g.metrics
    publishers := g.publishers.fenceAll epoch now }

def installEpoch (api : StoreApi σ) (epoch : CoordinatorEpoch) (coordinatorBoot : BootId) (now : Millis)
    (g : Governor σ) : Status × Governor σ :=
  if !epoch.valid then (Status.failure .invalidArgument "epoch 0 is reserved", g)
  else if g.epoch.valid ∧ epoch < g.epoch then
    (Status.failure .staleEpoch "epoch is older than the installed epoch",
      { g with metrics := { g.metrics with rejectedStaleEpoch := count g.metrics.rejectedStaleEpoch } })
  else
    let boot := if coordinatorBoot.valid then coordinatorBoot else g.boot
    let record : JournalRecord :=
      { type := .epochAdvance
        at_ := now
        payload := putU64 epoch.value ++ putU64 boot.value ++ putI64 now }
    match g.persist api boot epoch now record with
    | (.error e, g) => (.error e, g)
    | (.ok (), g) => (.ok (), g.enterEpoch epoch boot now)

def welcome (g : Governor σ) : WelcomePayload :=
  { epoch := g.epoch
    coordinatorBoot := g.boot
    name := (textBytes g.config.nodeName).take Limits.kMaxTextBytes }

def withPublishers (g : Governor σ) (publishers : Publishers) : Governor σ := { g with publishers }

def staleIncarnation (detail : String) (g : Governor σ) : Result WelcomePayload × Governor σ :=
  (Status.failure .staleIncarnation detail,
    { g with
      metrics := { g.metrics with rejectedStaleIncarnation := count g.metrics.rejectedStaleIncarnation } })

def reenlist (hello : HelloPayload) (now : Millis) (existing : PublisherState) (g : Governor σ) :
    Result WelcomePayload × Governor σ :=
  if hello.incarnation < existing.incarnation then
    g.staleIncarnation "publisher incarnation is older than the registered incarnation"
  else if hello.incarnation = existing.incarnation then
    if hello.boot ≠ existing.boot then
      g.staleIncarnation "publisher incarnation reused with a different boot id"
    else
      (.ok g.welcome, g.withPublishers
        (g.publishers.modify hello.publisher (fun p ↦ p.refresh g.epoch now) (fun _ ↦ rfl)))
  else
    (.ok g.welcome, g.withPublishers
      (g.publishers.modify hello.publisher (fun p ↦ p.supersede hello g.epoch now) (fun _ ↦ rfl)))

def registerPublisher (hello : HelloPayload) (now : Millis) (g : Governor σ) :
    Result WelcomePayload × Governor σ :=
  if !hello.publisher.valid then (Status.failure .invalidArgument "publisher id 0 is reserved", g)
  else if !hello.incarnation.valid then
    (Status.failure .invalidArgument "publisher incarnation 0 is reserved", g)
  else if !hello.boot.valid then (Status.failure .invalidArgument "publisher boot id 0 is reserved", g)
  else if !g.epoch.valid then (Status.failure .notStarted "no coordinator epoch is installed", g)
  else match h : g.publishers.findPublisher hello.publisher with
    | some existing => g.reenlist hello now existing
    | none =>
      if g.publishers.entries.length ≥ Limits.kMaxPublishers then
        (Status.failure .boundExceeded "publisher registry is full", g)
      else
        (.ok g.welcome, g.withPublishers
          (g.publishers.insert (PublisherState.enroll hello g.epoch now) h))

def dropEvidence (publisher : PublisherId) (s : Snapshots) : Snapshots :=
  { topology := s.topology.filter (fun x ↦ x.provenance.publisher ≠ publisher)
    capacity := s.capacity.filter (fun x ↦ x.provenance.publisher ≠ publisher)
    signals := s.signals.filter (fun x ↦ x.provenance.publisher ≠ publisher)
    paths := s.paths.filter (fun x ↦ x.provenance.publisher ≠ publisher)
    traffic := s.traffic.filter (fun x ↦ x.provenance.publisher ≠ publisher)
    policy := s.policy.filter (fun x ↦ x.provenance.publisher ≠ publisher) }

def revoke (publisher : PublisherId) (now : Millis) (g : Governor σ) : Governor σ :=
  { g with
    publishers := g.publishers.modify publisher (fun p ↦ p.die now) (fun _ ↦ rfl)
    metrics := { g.metrics with publisherDeaths := count g.metrics.publisherDeaths }
    snapshots :=
      if g.config.dropEvidenceOnPublisherDeath then dropEvidence publisher g.snapshots
      else g.snapshots }

def notePublisherDeath (api : StoreApi σ) (publisher : PublisherId) (now : Millis) (g : Governor σ) :
    Status × Governor σ :=
  match g.findPublisher publisher with
  | none => (Status.failure .unknownPublisher "publisher is not registered", g)
  | some state =>
    let record : JournalRecord :=
      { type := .publisherDeath, at_ := now, payload := putU64 publisher.value ++ putI64 now }
    match g.persist api g.boot g.epoch now record with
    | (.error e, g) => (.error e, g)
    | (.ok (), g) => if !state.alive then (.ok (), g) else (.ok (), g.revoke publisher now)

/-- What a reader of the counters gets: the engine's own, and those of the governor. -/
def mergedMetrics (g : Governor σ) : Metrics :=
  { g.engine.metrics with
    framesReceived := g.metrics.framesReceived
    framesAccepted := g.metrics.framesAccepted
    framesRejected := g.metrics.framesRejected
    framesDuplicate := g.metrics.framesDuplicate
    framesStale := g.metrics.framesStale
    framesMalformed := g.metrics.framesMalformed
    bytesReceived := g.metrics.bytesReceived
    publisherDeaths := g.metrics.publisherDeaths
    epochAdvances := g.metrics.epochAdvances
    journalAppends := g.metrics.journalAppends
    recoveries := g.metrics.recoveries
    rejectedStaleEpoch := g.metrics.rejectedStaleEpoch
    rejectedStaleGeneration := g.metrics.rejectedStaleGeneration
    rejectedStaleIncarnation := g.metrics.rejectedStaleIncarnation }

end Governor

end HotspotGovernor.Governance
