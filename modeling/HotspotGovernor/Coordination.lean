import HotspotGovernor.Operations

namespace HotspotGovernor.Coordination

open Foundation Decisions Durable Framing Registry Governance Admission Operations Lib.Trace

structure CoordinatorConfig where
  maxConnections : ℕ := 32

/-- Where the thread of a connection stands. The counters have a lock of their own, so between the return
of a call on the governor and its counting other threads can step: `admitted`, `refused` and `mourning`
are these moments. -/
inductive Phase
  | checking
  | receiving
  | welcoming (hello : HelloPayload)
  | admitted
  | refused (ends : Bool)
  | leaving
  | mourning
  | closing
  | ended
  deriving DecidableEq

/-- A connection counts as registered only after its welcome was sent. -/
structure Connection where
  phase : Phase := .checking
  stopping : Bool := false
  publisher : PublisherId := default
  registered : Bool := false
  handshaking : ∀ hello, phase = .welcoming hello → registered = false := by simp

namespace Connection

variable (connection : Connection)

def moveTo (phase : Phase) (h : ∀ hello, phase ≠ .welcoming hello := by simp) : Connection :=
  { connection with phase, handshaking := fun hello he ↦ absurd he (h hello) }

def welcoming (hello : HelloPayload) (h : connection.registered = false) : Connection :=
  { connection with phase := .welcoming hello, handshaking := fun _ _ ↦ h }

def complete (hello : HelloPayload) : Connection :=
  { connection with
    phase := .checking, registered := true, publisher := hello.publisher, handshaking := by simp }

def interrupt : Connection := { connection with stopping := true }

end Connection

structure Counters where
  connectionsAccepted : UInt64 := 0
  connectionsRefused : UInt64 := 0
  hellos : UInt64 := 0
  framesAdmitted : UInt64 := 0
  framesRefused : UInt64 := 0
  publishersLost : UInt64 := 0

/-- The coordinator with every connection it ever accepted, in the order of acceptance. -/
structure Coordinator (σ : Type) where
  config : CoordinatorConfig := {}
  governor : Governor σ
  connections : List Connection := []
  running : Bool := false
  counters : Counters := {}

/-- What one step of the coordinator did. Only `rejected` and `enrolled` are answered to the peer: an
admitted frame and the end of a publisher are not. -/
inductive Outcome
  | silent
  | rejected (reason : Failure)
  | enrolled (connection : ℕ) (hello : HelloPayload) (welcome : WelcomePayload)
  | admitted (report : AdmissionReport)
  | lost (publisher : PublisherId) (notice : Status)

namespace Coordinator

variable {σ : Type}

def put (i : ℕ) (connection : Connection) (c : Coordinator σ) : Coordinator σ :=
  { c with connections := c.connections.set i connection }

def countRefused (c : Coordinator σ) : Coordinator σ :=
  { c with counters := { c.counters with framesRefused := c.counters.framesRefused + 1 } }

def connectionCount (c : Coordinator σ) : ℕ :=
  c.connections.countP (fun connection ↦ connection.phase ≠ .ended)

def accept (c : Coordinator σ) : Outcome × Coordinator σ :=
  if !c.running then (.silent, c)
  else if c.connectionCount ≥ min c.config.maxConnections Limits.kMaxConnections then
    (.rejected ⟨.queueFull, "connection limit reached"⟩,
      { c with counters := { c.counters with connectionsRefused := c.counters.connectionsRefused + 1 } })
  else
    (.silent, { c with
      connections := c.connections ++ [{}]
      counters := { c.counters with connectionsAccepted := c.counters.connectionsAccepted + 1 } })

section

variable (i : ℕ) (connection : Connection)

def handshake (h : connection.registered = false) (frame : Frame) (now : Millis) (c : Coordinator σ) :
    Outcome × Coordinator σ :=
  if frame.header.type ≠ .hello then
    (.rejected ⟨.malformedFrame, "first frame must be a hello"⟩, c.put i (connection.moveTo .leaving))
  else match decodeHello frame.payload with
    | .error e => (.rejected e, c.put i (connection.moveTo .leaving))
    | .ok hello =>
      match c.governor.registerPublisher hello now with
      | (.error e, governor) => (.rejected e, { c with governor }.put i (connection.moveTo (.refused true)))
      | (.ok welcome, governor) =>
        (.enrolled i hello welcome, { c with governor }.put i (connection.welcoming hello h))

def endsSession (code : ErrorCode) : Bool :=
  code = .staleEpoch || code = .unknownEpoch || code = .staleIncarnation || code = .unknownPublisher

def serve (frame : Frame) (now : Millis) (c : Coordinator σ) : Outcome × Coordinator σ :=
  if frame.header.type = .goodbye then (.silent, c.put i (connection.moveTo .leaving))
  else match c.governor.admitFrame frame now with
    | (.ok report, governor) => (.admitted report, { c with governor }.put i (connection.moveTo .admitted))
    | (.error e, governor) =>
      (.rejected e, { c with governor }.put i (connection.moveTo (.refused (endsSession e.code))))

/-- Malformed, truncated, oversized or integrity-failing input is a refusal, a closed connection is
not, and a timeout is nothing at all. -/
def receiveFailed (code : ErrorCode) (c : Coordinator σ) : Coordinator σ :=
  if code = .timeout then c.put i (connection.moveTo .checking)
  else if code ≠ .connectionClosed then c.countRefused.put i (connection.moveTo .leaving)
  else c.put i (connection.moveTo .leaving)

def receive (received : Result Frame) (now : Millis) (c : Coordinator σ) : Outcome × Coordinator σ :=
  match received with
  | .error e => (.silent, c.receiveFailed i connection e.code)
  | .ok frame =>
    if h : connection.registered = false then c.handshake i connection h frame now
    else c.serve i connection frame now

/-- The handshake is complete only once the welcome was sent. -/
def welcomed (hello : HelloPayload) (sent : Status) (c : Coordinator σ) : Coordinator σ :=
  match sent with
  | .error _ => c.put i (connection.moveTo .leaving)
  | .ok () =>
    { c with counters := { c.counters with hellos := c.counters.hellos + 1 } }.put i
      (connection.complete hello)

def leave (api : StoreApi σ) (now : Millis) (c : Coordinator σ) : Outcome × Coordinator σ :=
  if connection.registered && connection.publisher.valid then
    let notice := c.governor.notePublisherDeath api connection.publisher now
    (.lost connection.publisher notice.1, { c with governor := notice.2 }.put i (connection.moveTo .mourning))
  else (.silent, c.put i (connection.moveTo .closing))

def count (c : Coordinator σ) : Coordinator σ :=
  match connection.phase with
  | .admitted => { c with counters := { c.counters with framesAdmitted := c.counters.framesAdmitted + 1 } }.put i
      (connection.moveTo .checking)
  | .refused true => c.countRefused.put i (connection.moveTo .leaving)
  | .refused false => c.countRefused.put i (connection.moveTo .checking)
  | .mourning => { c with counters := { c.counters with publishersLost := c.counters.publishersLost + 1 } }.put i
      (connection.moveTo .closing)
  | _ => c

end

end Coordinator

/-- The steps of one connection: those of its thread, and the interruption by a stopping coordinator. -/
inductive ConnectionAct
  | check
  | receive (received : Result Frame) (now : Millis)
  | welcome (sent : Status)
  | count
  | leave (now : Millis)
  | forget
  | interrupt

/-- The steps that the threads around one coordinator take, in any order. -/
inductive Act
  | accept
  | connection (i : ℕ) (act : ConnectionAct)
  | stop
  | evaluate (now : Millis)
  | commitDurable (now : Millis)

variable {σ : Type}

/-- A step of one connection, which goes nowhere when its thread stands elsewhere. -/
def stepConnection (api : StoreApi σ) (i : ℕ) (connection : Connection) (act : ConnectionAct)
    (c : Coordinator σ) : Outcome × Coordinator σ :=
  match act, connection.phase with
  | .check, .checking =>
    (.silent, c.put i (if connection.stopping then connection.moveTo .leaving else connection.moveTo .receiving))
  | .receive received now, .receiving => c.receive i connection received now
  | .welcome sent, .welcoming hello => (.silent, c.welcomed i connection hello sent)
  | .count, _ => (.silent, c.count i connection)
  | .leave now, .leaving => c.leave i connection api now
  | .forget, .closing => (.silent, c.put i (connection.moveTo .ended))
  | .interrupt, _ => (.silent, if c.running then c else c.put i connection.interrupt)
  | _, _ => (.silent, c)

def step (api : StoreApi σ) (act : Act) (c : Coordinator σ) : Outcome × Coordinator σ :=
  match act with
  | .accept => c.accept
  | .connection i act =>
    match c.connections[i]? with
    | none => (.silent, c)
    | some connection => stepConnection api i connection act c
  | .stop => (.silent, { c with running := false })
  | .evaluate now => (.silent, { c with governor := (c.governor.evaluate now).2 })
  | .commitDurable now => (.silent, { c with governor := (c.governor.commitDurable api now).2 })

def start (api : StoreApi σ) (config : CoordinatorConfig) (governor : Governor σ) : Status × Coordinator σ :=
  match governor.installEpoch api governor.epoch governor.boot 0 with
  | (.error e, governor) => (.error e, { config, governor })
  | (.ok (), governor) => (.ok (), { config, governor, running := true })

def started (api : StoreApi σ) (config : CoordinatorConfig) (governor : GovernorConfig) (world : σ)
    (process : Process) (now : Millis) : Coordinator σ :=
  (start api config (recovered api governor world process now)).2

abbrev CoordinatorRun (api : StoreApi σ) (config : CoordinatorConfig) (governor : GovernorConfig)
    (world : σ) (process : Process) (now : Millis) :
    List (Event Act Outcome (Coordinator σ)) → Coordinator σ → Prop :=
  Run (step api) (started api config governor world process now)

end HotspotGovernor.Coordination
