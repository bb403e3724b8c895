import HotspotGovernor.Revocation
import HotspotGovernor.Tallies

namespace HotspotGovernor.Delegation

open Foundation Decisions Durable Framing Registry Governance Admission Operations Effects
open Coordination Lib.Trace Lib.Tally

variable {σ : Type}

/-- A step of the coordinator makes this call and passes on what it returns. -/
inductive Conveys (c : Coordinator σ) : Act → Op → Reply → Outcome → Prop
  | enrolled (i : ℕ) (f : Frame) (hello : HelloPayload) (now : Millis) (welcome : WelcomePayload)
      (hdecode : decodeHello f.payload = .ok hello) :
      Conveys c (.connection i (.receive (.ok f) now)) (.registerPublisher hello now) (.welcome (.ok welcome))
        (.enrolled i hello welcome)
  | turnedAway (i : ℕ) (f : Frame) (hello : HelloPayload) (now : Millis) (e : Failure)
      (hdecode : decodeHello f.payload = .ok hello) :
      Conveys c (.connection i (.receive (.ok f) now)) (.registerPublisher hello now) (.welcome (.error e))
        (.rejected e)
  | admitted (i : ℕ) (f : Frame) (now : Millis) (report : AdmissionReport) :
      Conveys c (.connection i (.receive (.ok f) now)) (.admitFrame f now) (.report (.ok report)) (.admitted report)
  | refused (i : ℕ) (f : Frame) (now : Millis) (e : Failure) :
      Conveys c (.connection i (.receive (.ok f) now)) (.admitFrame f now) (.report (.error e)) (.rejected e)
  | lost (i : ℕ) (x : Connection) (now : Millis) (status : Status) (hx : c.connections[i]? = some x)
      (hregistered : x.registered = true) :
      Conveys c (.connection i (.leave now)) (.notePublisherDeath x.publisher now) (.status status)
        (.lost x.publisher status)
  | evaluated (now : Millis) (decision : Decision) :
      Conveys c (.evaluate now) (.evaluate now) (.decision decision) .silent
  | committed (now : Millis) (status : Status) :
      Conveys c (.commitDurable now) (.commitDurable now) (.status status) .silent

def Local (out : Outcome) : Prop := out = .silent ∨ ∃ e, out = .rejected e

/-- The calls that a coordinator made, in the order of its steps, each on the governor as the step found it. -/
inductive Delegated : List (Event Act Outcome (Coordinator σ)) → List (Event Op Reply (Governor σ)) → Prop
  | start : Delegated [] []
  | idle {past : List (Event Act Outcome (Coordinator σ))} {calls : List (Event Op Reply (Governor σ))}
      (h : Delegated past calls) (e : Event Act Outcome (Coordinator σ)) (hout : Local e.out)
      (hgov : e.after.governor = e.before.governor) : Delegated (past ++ [e]) calls
  | call {past : List (Event Act Outcome (Coordinator σ))} {calls : List (Event Op Reply (Governor σ))}
      (h : Delegated past calls) (e : Event Act Outcome (Coordinator σ)) (call : Event Op Reply (Governor σ))
      (hout : Conveys e.before e.op call.op call.out e.out) (hbefore : call.before = e.before.governor)
      (hafter : call.after = e.after.governor) : Delegated (past ++ [e]) (calls ++ [call])

/-- The phases in which a completed handshake counts as a session. A session whose publisher's death is
noted lasts until that is counted. -/
def inLoop : Phase → Bool
  | .welcoming _ | .closing | .ended => false
  | _ => true

def inSession (x : Connection) : Bool := x.registered && x.publisher.valid && inLoop x.phase

def sessions (c : Coordinator σ) : ℕ := c.connections.countP inSession

def awaiting : Phase → Bool
  | .admitted => true
  | _ => false

/-- The connections whose thread has had a frame accepted and not counted it yet. -/
def uncounted (c : Coordinator σ) : ℕ := c.connections.countP (fun x ↦ awaiting x.phase)

structure Movement where
  began : ℕ := 0
  ended : ℕ := 0
  admitted : ℕ := 0
  counted : ℕ := 0

/-- A publisher that is being welcomed has an id, and so has one whose death is noted. -/
structure Placed (x : Connection) : Prop where
  welcoming : ∀ hello, x.phase = .welcoming hello → hello.publisher.valid = true
  mourning : x.phase = .mourning → x.registered = true ∧ x.publisher.valid = true

def Greeted (c : Coordinator σ) : Prop := ∀ x ∈ c.connections, Placed x

structure Rearranged (m : Movement) (c c' : Coordinator σ) : Prop where
  config : c'.config = c.config
  length : c'.connections.length = c.connections.length
  count : c'.connectionCount ≤ c.connectionCount
  sessions : sessions c' + m.ended = sessions c + m.began
  frames : uncounted c' + m.counted = uncounted c + m.admitted
  greeted : Greeted c'

structure Booked (m : Movement) (k k' : Counters) : Prop where
  accepted : k'.connectionsAccepted = k.connectionsAccepted
  hellos : k'.hellos = k.hellos + UInt64.ofNat m.began
  lost : k'.publishersLost = k.publishersLost + UInt64.ofNat m.ended
  admitted : k'.framesAdmitted = k.framesAdmitted + UInt64.ofNat m.counted

def announces : Outcome → Bool
  | .admitted _ => true
  | _ => false

def isAdmitted (e : Event Act Outcome (Coordinator σ)) : Bool := announces e.out

/-- Everything a step of the coordinator can do to its books. No call on the governor counts anything:
what it returned is counted by a later step of the connection that made it. -/
inductive Effect (api : StoreApi σ) (c : Coordinator σ) (act : Act) : Outcome → Coordinator σ → Prop
  | own (m : Movement) (out : Outcome) (c' : Coordinator σ) (hout : Local out) (hgov : c'.governor = c.governor)
      (hadmitted : m.admitted = 0) (hbooked : Booked m c.counters c'.counters) (hre : Rearranged m c c') :
      Effect api c act out c'
  | opened (c' : Coordinator σ) (hroom : c.connectionCount < min c.config.maxConnections Limits.kMaxConnections)
      (hc' : c' = { c with
        connections := c.connections ++ [{}]
        counters := { c.counters with connectionsAccepted := c.counters.connectionsAccepted + 1 } }) :
      Effect api c act .silent c'
  | called (op : Op) (out : Outcome) (c' : Coordinator σ)
      (hgov : c'.governor = (Operations.step api op c.governor).2)
      (hout : Conveys c act op (Operations.step api op c.governor).1 out) (hcounters : c'.counters = c.counters)
      (hre : Rearranged { admitted := unit announces out } c c') : Effect api c act out c'

variable {api : StoreApi σ} {c c' : Coordinator σ} {i : ℕ} {x y : Connection} {act : Act} {m : Movement}

theorem booked_same {k k' : Counters} (haccepted : k'.connectionsAccepted = k.connectionsAccepted)
    (hhellos : k'.hellos = k.hellos) (hlost : k'.publishersLost = k.publishersLost)
    (hadmitted : k'.framesAdmitted = k.framesAdmitted) : Booked {} k k' :=
  ⟨haccepted, hhellos.trans (UInt64.add_zero _).symm, hlost.trans (UInt64.add_zero _).symm,
    hadmitted.trans (UInt64.add_zero _).symm⟩

theorem Rearranged.same (h : Greeted c) (hconnections : c'.connections = c.connections)
    (hconfig : c'.config = c.config) :
    Rearranged {} c c' := by
  refine ⟨hconfig, congrArg List.length hconnections, ?_, ?_, ?_, ?_⟩
  · unfold Coordinator.connectionCount
    rw [hconnections]
  · unfold Delegation.sessions
    rw [hconnections]
  · unfold uncounted
    rw [hconnections]
  · unfold Greeted
    rw [hconnections]
    exact h

theorem rearranged_set (h : Greeted c) (hx : c.connections[i]? = some x)
    (hconnections : c'.connections = c.connections.set i y) (hconfig : c'.config = c.config)
    (hphase : y.phase ≠ .ended → x.phase ≠ .ended)
    (hsession : unit inSession y + m.ended = unit inSession x + m.began)
    (hframes : unit awaiting y.phase + m.counted = unit awaiting x.phase + m.admitted)
    (hplaced : Placed y) : Rearranged m c c' := by
  refine ⟨hconfig, by rw [hconnections, List.length_set], ?_, ?_, ?_, ?_⟩
  · have hcount := countP_set (p := fun connection : Connection ↦ decide (connection.phase ≠ .ended)) hx y
    have hle : unit (fun connection : Connection ↦ decide (connection.phase ≠ .ended)) y ≤
        unit (fun connection : Connection ↦ decide (connection.phase ≠ .ended)) x := by
      unfold unit
      split
      · next hopen => rw [if_pos (decide_eq_true (hphase (of_decide_eq_true hopen)))]
      · exact Nat.zero_le _
    unfold Coordinator.connectionCount
    rw [hconnections]
    omega
  · have hcount := countP_set (p := inSession) hx y
    unfold Delegation.sessions
    rw [hconnections]
    omega
  · have hcount := countP_set (p := fun connection : Connection ↦ awaiting connection.phase) hx y
    change _ + unit awaiting x.phase = _ + unit awaiting y.phase at hcount
    unfold uncounted
    rw [hconnections]
    omega
  · intro z hz
    rw [hconnections] at hz
    rcases List.mem_or_eq_of_mem_set hz with hz | rfl
    · exact h z hz
    · exact hplaced

theorem rearranged_moveTo {phase : Phase} {h : ∀ hello, phase ≠ .welcoming hello} (hgreeted : Greeted c)
    (hx : c.connections[i]? = some x) (hconnections : c'.connections = c.connections.set i (x.moveTo phase h))
    (hconfig : c'.config = c.config) (hphase : x.phase ≠ .ended)
    (hsession : unit inSession (x.moveTo phase h) + m.ended = unit inSession x + m.began)
    (hframes : unit awaiting phase + m.counted = unit awaiting x.phase + m.admitted)
    (hmourning : phase = .mourning → x.registered = true ∧ x.publisher.valid = true) : Rearranged m c c' :=
  rearranged_set hgreeted hx hconnections hconfig (fun _ ↦ hphase) hsession hframes
    ⟨fun hello hello' ↦ absurd hello' (h hello), hmourning⟩

theorem inSession_of_loop (h : inLoop x.phase = true) : inSession x = (x.registered && x.publisher.valid) := by
  unfold inSession
  rw [h, Bool.and_true]

theorem inSession_of_out (h : inLoop x.phase = false) : inSession x = false := by
  unfold inSession
  rw [h, Bool.and_false]

theorem not_ended_of_loop (h : inLoop x.phase = true) : x.phase ≠ .ended := by
  intro hended
  rw [hended] at h
  cases h

theorem rearranged_loop {phase before : Phase} {h : ∀ hello, phase ≠ .welcoming hello} (admitted counted : ℕ)
    (hgreeted : Greeted c) (hx : c.connections[i]? = some x)
    (hconnections : c'.connections = c.connections.set i (x.moveTo phase h)) (hconfig : c'.config = c.config)
    (hphase : x.phase = before) (hfrom : inLoop before = true) (hto : inLoop phase = true)
    (hframes : unit awaiting phase + counted = unit awaiting before + admitted)
    (hmourning : phase = .mourning → x.registered = true ∧ x.publisher.valid = true) :
    Rearranged { admitted, counted } c c' := by
  have hloop : inLoop x.phase = true := hphase ▸ hfrom
  refine rearranged_moveTo hgreeted hx hconnections hconfig (not_ended_of_loop hloop) ?_ (hphase.symm ▸ hframes)
    hmourning
  unfold unit
  rw [inSession_of_loop hloop, inSession_of_loop (x := x.moveTo phase h) hto]
  rfl

section

variable (hgreeted : Greeted c) (hx : c.connections[i]? = some x)

include hgreeted hx

theorem moved {out : Outcome} {phase : Phase} {h : ∀ hello, phase ≠ .welcoming hello} (hout : Local out)
    (hphase : x.phase = .receiving ∨ x.phase = .checking) (hc : c' = c.put i (x.moveTo phase h))
    (hto : inLoop phase = true) (hcounted : awaiting phase = false) (hmourning : phase ≠ .mourning) :
    Effect api c act out c' := by
  subst hc
  have hframes : unit awaiting phase + 0 = 0 := by
    unfold unit
    rw [hcounted]
    rfl
  refine .own {} _ _ hout rfl rfl (booked_same rfl rfl rfl rfl) ?_
  rcases hphase with hphase | hphase
  · exact rearranged_loop 0 0 hgreeted hx rfl rfl hphase rfl hto hframes (absurd · hmourning)
  · exact rearranged_loop 0 0 hgreeted hx rfl rfl hphase rfl hto hframes (absurd · hmourning)

theorem receiveFailed_effect {received : Result Frame} {now : Millis} (hphase : x.phase = .receiving)
    (code : ErrorCode) :
    Effect api c (.connection i (.receive received now)) .silent (c.receiveFailed i x code) := by
  unfold Coordinator.receiveFailed
  split
  · exact moved hgreeted hx (Or.inl rfl) (Or.inl hphase) rfl rfl rfl (by simp)
  · split
    · refine .own {} _ _ (Or.inl rfl) rfl rfl ?_ (rearranged_loop 0 0 hgreeted hx rfl rfl hphase rfl rfl rfl (by simp))
      exact booked_same rfl rfl rfl rfl
    · exact moved hgreeted hx (Or.inl rfl) (Or.inl hphase) rfl rfl rfl (by simp)

theorem serve_effect {f : Frame} {now : Millis} (hphase : x.phase = .receiving) :
    Effect api c (.connection i (.receive (.ok f) now)) (c.serve i x f now).1 (c.serve i x f now).2 := by
  unfold Coordinator.serve
  split
  · exact moved hgreeted hx (Or.inl rfl) (Or.inl hphase) rfl rfl rfl (by simp)
  · have hreply : (Operations.step api (.admitFrame f now) c.governor).1 =
        .report (c.governor.admitFrame f now).1 := rfl
    have hafter : (Operations.step api (.admitFrame f now) c.governor).2 = (c.governor.admitFrame f now).2 := rfl
    cases hout : c.governor.admitFrame f now with
    | mk out g =>
      rw [hout] at hreply hafter
      cases out with
      | ok report =>
        refine .called (.admitFrame f now) _ _ hafter.symm ?_ rfl
          (rearranged_loop 1 0 hgreeted hx rfl rfl hphase rfl rfl rfl (by simp))
        rw [hreply]
        exact .admitted i f now report
      | error e =>
        refine .called (.admitFrame f now) _ _ hafter.symm ?_ rfl
          (rearranged_loop 0 0 hgreeted hx rfl rfl hphase rfl rfl rfl (by simp))
        rw [hreply]
        exact .refused i f now e

theorem handshake_effect {f : Frame} {now : Millis} (hphase : x.phase = .receiving) (hreg : x.registered = false) :
    Effect api c (.connection i (.receive (.ok f) now)) (c.handshake i x hreg f now).1
      (c.handshake i x hreg f now).2 := by
  unfold Coordinator.handshake
  split
  · exact moved hgreeted hx (Or.inr ⟨_, rfl⟩) (Or.inl hphase) rfl rfl rfl (by simp)
  · split
    · exact moved hgreeted hx (Or.inr ⟨_, rfl⟩) (Or.inl hphase) rfl rfl rfl (by simp)
    · next hello hdecode =>
      have hreply : (Operations.step api (.registerPublisher hello now) c.governor).1 =
          .welcome (c.governor.registerPublisher hello now).1 := rfl
      have hafter : (Operations.step api (.registerPublisher hello now) c.governor).2 =
          (c.governor.registerPublisher hello now).2 := rfl
      rcases @registerPublisher_entitles σ c.governor hello now with
        ⟨e, g, hout, -⟩ | ⟨welcome, g, hout, hvalid, -⟩
      · rw [hout] at hreply hafter ⊢
        refine .called (.registerPublisher hello now) _ _ hafter.symm ?_ rfl
          (rearranged_loop 0 0 hgreeted hx rfl rfl hphase rfl rfl rfl (by simp))
        rw [hreply]
        exact .turnedAway i f hello now e hdecode
      · rw [hout] at hreply hafter ⊢
        refine .called (.registerPublisher hello now) _ _ hafter.symm ?_ rfl
          (rearranged_set hgreeted hx rfl rfl (fun _ ↦ by simp [hphase]) ?_ ?_ ?_)
        · rw [hreply]
          exact .enrolled i f hello now welcome hdecode
        · unfold unit
          rw [inSession_of_out (x := x.welcoming hello hreg) rfl,
            inSession_of_loop (x := x) (by rw [hphase]; rfl), hreg]
          rfl
        · rw [hphase]
          rfl
        · refine ⟨fun hello' hphase' ↦ ?_, fun hphase' ↦ ?_⟩
          · cases hphase'
            exact hvalid
          · cases hphase'

theorem welcomed_effect {hello : HelloPayload} (hphase : x.phase = .welcoming hello) (sent : Status) :
    Effect api c (.connection i (.welcome sent)) .silent (c.welcomed i x hello sent) := by
  have hvalid : hello.publisher.valid = true := (hgreeted x (List.mem_of_getElem? hx)).welcoming hello hphase
  have hended : x.phase ≠ .ended := by simp [hphase]
  have hbefore : inSession x = false := inSession_of_out (by rw [hphase]; rfl)
  unfold Coordinator.welcomed
  split
  · refine .own {} _ _ (Or.inl rfl) rfl rfl (booked_same rfl rfl rfl rfl)
      (rearranged_moveTo hgreeted hx rfl rfl hended ?_ ?_ (by simp))
    · unfold unit
      rw [hbefore, inSession_of_loop (x := x.moveTo .leaving) rfl]
      change (if (x.registered && _) = true then 1 else 0) + 0 = 0
      rw [x.handshaking hello hphase]
      rfl
    · rw [hphase]
      rfl
  · refine .own { began := 1 } _ _ (Or.inl rfl) rfl rfl ?_
      (rearranged_set hgreeted hx rfl rfl (fun _ ↦ hended) ?_ ?_ ?_)
    · exact ⟨rfl, rfl, (UInt64.add_zero _).symm, (UInt64.add_zero _).symm⟩
    · have hafter : inSession (x.complete hello) = true := (inSession_of_loop (x := x.complete hello) rfl).trans hvalid
      unfold unit
      rw [hbefore, hafter]
      rfl
    · rw [hphase]
      rfl
    · constructor
      · intro hello' hphase'
        cases hphase'
      · intro hphase'
        cases hphase'

theorem leave_effect (hphase : x.phase = .leaving) (now : Millis) :
    Effect api c (.connection i (.leave now)) (c.leave i x api now).1 (c.leave i x api now).2 := by
  unfold Coordinator.leave
  split
  · next hsession =>
    have hmourning : x.registered = true ∧ x.publisher.valid = true := by simpa using hsession
    exact .called (.notePublisherDeath x.publisher now) _ _ rfl (.lost i x now _ hx hmourning.1) rfl
      (rearranged_loop 0 0 hgreeted hx rfl rfl hphase rfl rfl rfl (fun _ ↦ hmourning))
  · next hsession =>
    refine .own {} _ _ (Or.inl rfl) rfl rfl (booked_same rfl rfl rfl rfl)
      (rearranged_moveTo hgreeted hx rfl rfl (by simp [hphase]) ?_ ?_ (by simp))
    · unfold unit
      rw [inSession_of_out (x := x.moveTo .closing) rfl, inSession_of_loop (x := x) (by rw [hphase]; rfl),
        Bool.eq_false_iff.mpr hsession]
    · rw [hphase]
      rfl

theorem count_effect : Effect api c act .silent (c.count i x) := by
  unfold Coordinator.count
  cases hphase : x.phase with
  | admitted =>
    refine .own { counted := 1 } _ _ (Or.inl rfl) rfl rfl ?_
      (rearranged_loop 0 1 hgreeted hx rfl rfl hphase rfl rfl rfl (by simp))
    exact ⟨rfl, (UInt64.add_zero _).symm, (UInt64.add_zero _).symm, rfl⟩
  | refused ends =>
    cases ends with
    | true =>
      exact .own {} _ _ (Or.inl rfl) rfl rfl (booked_same rfl rfl rfl rfl)
        (rearranged_loop 0 0 hgreeted hx rfl rfl hphase rfl rfl rfl (by simp))
    | false =>
      exact .own {} _ _ (Or.inl rfl) rfl rfl (booked_same rfl rfl rfl rfl)
        (rearranged_loop 0 0 hgreeted hx rfl rfl hphase rfl rfl rfl (by simp))
  | mourning =>
    obtain ⟨hreg, hvalid⟩ := (hgreeted x (List.mem_of_getElem? hx)).mourning hphase
    refine .own { ended := 1 } _ _ (Or.inl rfl) rfl rfl ?_
      (rearranged_moveTo hgreeted hx rfl rfl (by simp [hphase]) ?_ ?_ (by simp))
    · exact ⟨rfl, (UInt64.add_zero _).symm, rfl, (UInt64.add_zero _).symm⟩
    · unfold unit
      rw [inSession_of_out (x := x.moveTo .closing) rfl, inSession_of_loop (x := x) (by rw [hphase]; rfl), hreg, hvalid]
      rfl
    · rw [hphase]
      rfl
  | _ => exact .own {} _ _ (Or.inl rfl) rfl rfl (booked_same rfl rfl rfl rfl) (.same hgreeted rfl rfl)

end

theorem stepConnection_effect (hgreeted : Greeted c) (hx : c.connections[i]? = some x) (act : ConnectionAct) :
    Effect api c (.connection i act) (stepConnection api i x act c).1 (stepConnection api i x act c).2 := by
  unfold stepConnection
  split
  · next hphase =>
    by_cases hstopping : x.stopping = true
    · rw [if_pos hstopping]
      exact moved hgreeted hx (Or.inl rfl) (Or.inr hphase) rfl rfl rfl (by simp)
    · rw [if_neg hstopping]
      exact moved hgreeted hx (Or.inl rfl) (Or.inr hphase) rfl rfl rfl (by simp)
  · next received now hphase =>
    unfold Coordinator.receive
    split
    · exact receiveFailed_effect hgreeted hx hphase _
    · split
      · next hreg => exact handshake_effect hgreeted hx hphase hreg
      · exact serve_effect hgreeted hx hphase
  · next sent hello hphase => exact welcomed_effect hgreeted hx hphase sent
  · exact count_effect hgreeted hx
  · next now hphase => exact leave_effect hgreeted hx hphase now
  · next hphase =>
    refine .own {} _ _ (Or.inl rfl) rfl rfl (booked_same rfl rfl rfl rfl)
      (rearranged_moveTo hgreeted hx rfl rfl (by simp [hphase]) ?_ ?_ (by simp))
    · unfold unit
      rw [inSession_of_out (x := x.moveTo .ended) rfl, inSession_of_out (x := x) (by rw [hphase]; rfl)]
    · rw [hphase]
      rfl
  · split
    · exact .own {} _ _ (Or.inl rfl) rfl rfl (booked_same rfl rfl rfl rfl) (.same hgreeted rfl rfl)
    · have hplaced := hgreeted x (List.mem_of_getElem? hx)
      exact .own {} _ _ (Or.inl rfl) rfl rfl (booked_same rfl rfl rfl rfl)
        (rearranged_set hgreeted hx rfl rfl id rfl rfl ⟨hplaced.welcoming, hplaced.mourning⟩)
  · exact .own {} _ _ (Or.inl rfl) rfl rfl (booked_same rfl rfl rfl rfl) (.same hgreeted rfl rfl)

theorem accept_effect (api : StoreApi σ) (hgreeted : Greeted c) (act : Act) :
    Effect api c act c.accept.1 c.accept.2 := by
  unfold Coordinator.accept
  split
  · exact .own {} _ _ (Or.inl rfl) rfl rfl (booked_same rfl rfl rfl rfl) (.same hgreeted rfl rfl)
  · split
    · exact .own {} _ _ (Or.inr ⟨_, rfl⟩) rfl rfl (booked_same rfl rfl rfl rfl) (.same hgreeted rfl rfl)
    · next hroom => exact .opened _ (not_le.mp hroom) rfl

theorem effect (api : StoreApi σ) (hgreeted : Greeted c) (act : Act) :
    Effect api c act (Coordination.step api act c).1 (Coordination.step api act c).2 := by
  cases act with
  | accept => exact accept_effect api hgreeted .accept
  | connection i act =>
    unfold Coordination.step
    dsimp only
    cases hx : c.connections[i]? with
    | none => exact .own {} _ _ (Or.inl rfl) rfl rfl (booked_same rfl rfl rfl rfl) (.same hgreeted rfl rfl)
    | some x => exact stepConnection_effect hgreeted hx act
  | stop => exact .own {} _ _ (Or.inl rfl) rfl rfl (booked_same rfl rfl rfl rfl) (.same hgreeted rfl rfl)
  | evaluate now => exact .called (.evaluate now) _ _ rfl (.evaluated now _) rfl (.same hgreeted rfl rfl)
  | commitDurable now => exact .called (.commitDurable now) _ _ rfl (.committed now _) rfl (.same hgreeted rfl rfl)

/-- The counters of a coordinator and what it has of connections, sessions and uncounted frames. -/
structure Balanced (past : List (Event Act Outcome (Coordinator σ))) (c : Coordinator σ) : Prop where
  bounded : c.connectionCount ≤ min c.config.maxConnections Limits.kMaxConnections
  accepted : c.counters.connectionsAccepted = UInt64.ofNat c.connections.length
  sessions : c.counters.hellos = c.counters.publishersLost + UInt64.ofNat (sessions c)
  admitted : c.counters.framesAdmitted + UInt64.ofNat (uncounted c) = UInt64.ofNat (tally (unit isAdmitted) past)
  greeted : Greeted c

variable {past : List (Event Act Outcome (Coordinator σ))} {out : Outcome}

theorem Balanced.rearranged (h : Balanced past c) (hre : Rearranged m c c') (hbooked : Booked m c.counters c'.counters)
    (hadmitted : m.admitted = unit announces out) : Balanced (past ++ [⟨c, act, out, c'⟩]) c' := by
  refine ⟨?_, ?_, ?_, ?_, hre.greeted⟩
  · rw [hre.config]
    exact hre.count.trans h.bounded
  · rw [hbooked.accepted, hre.length]
    exact h.accepted
  · have hbalance := congrArg UInt64.ofNat hre.sessions
    rw [UInt64.ofNat_add, UInt64.ofNat_add] at hbalance
    rw [hbooked.hellos, hbooked.lost, h.sessions, UInt64.add_assoc, UInt64.add_assoc, ← hbalance,
      UInt64.add_comm (UInt64.ofNat m.ended)]
  · have hframes := congrArg UInt64.ofNat hre.frames
    rw [UInt64.ofNat_add, UInt64.ofNat_add] at hframes
    have htally : tally (unit isAdmitted) (past ++ [⟨c, act, out, c'⟩]) =
        tally (unit isAdmitted) past + m.admitted := by
      rw [tally_snoc, hadmitted]
      rfl
    rw [htally, UInt64.ofNat_add, ← h.admitted, hbooked.admitted, UInt64.add_assoc, UInt64.add_assoc, ← hframes,
      UInt64.add_comm (UInt64.ofNat m.counted)]

theorem Balanced.opened (h : Balanced past c)
    (hroom : c.connectionCount < min c.config.maxConnections Limits.kMaxConnections)
    (hc' : c' = { c with
      connections := c.connections ++ [{}]
      counters := { c.counters with connectionsAccepted := c.counters.connectionsAccepted + 1 } }) :
    Balanced (past ++ [⟨c, act, .silent, c'⟩]) c' := by
  subst hc'
  have hnone : ∀ p : Connection → Bool, p {} = false →
      (c.connections ++ [({} : Connection)]).countP p = c.connections.countP p := by
    intro p hp
    rw [List.countP_append, List.countP_singleton, hp]
    rfl
  refine ⟨?_, ?_, ?_, ?_, ?_⟩
  · have hcount : (c.connections ++ [({} : Connection)]).countP (fun x ↦ decide (x.phase ≠ .ended)) =
        c.connectionCount + 1 := by
      rw [List.countP_append]
      rfl
    exact hcount.le.trans hroom
  · dsimp only
    rw [h.accepted, List.length_append, List.length_singleton, UInt64.ofNat_add]
    rfl
  · exact h.sessions.trans (congrArg (fun n ↦ c.counters.publishersLost + UInt64.ofNat n) (hnone inSession rfl).symm)
  · rw [tally_snoc]
    exact (congrArg (fun n ↦ c.counters.framesAdmitted + UInt64.ofNat n) (hnone _ rfl)).trans h.admitted
  · intro x hx
    rcases List.mem_append.mp hx with hx | hx
    · exact h.greeted x hx
    · rw [List.mem_singleton.mp hx]
      exact ⟨by simp, by simp⟩

theorem Local.unannounced (h : Local out) : unit announces out = 0 := by
  rcases h with rfl | ⟨e, rfl⟩ <;> rfl

theorem Conveys.counts {op : Op} {reply : Reply} (h : Conveys c act op reply out)
    (call : Event Op Reply (Governor σ)) (hcall : call.out = reply) :
    unit announces out = unit Tallies.isAccepted call := by
  unfold unit Tallies.isAccepted
  rw [hcall]
  cases h <;> rfl

theorem Balanced.effect (h : Balanced past c) (he : Effect api c act out c') :
    Balanced (past ++ [⟨c, act, out, c'⟩]) c' := by
  cases he with
  | own m out c' hout hgov hadmitted hbooked hre =>
      exact h.rearranged hre hbooked (hadmitted.trans hout.unannounced.symm)
  | opened c' hroom hc' => exact h.opened hroom hc'
  | called op out c' hgov hout hcounters hre =>
    refine h.rearranged hre ?_ rfl
    rw [hcounters]
    exact ⟨rfl, (UInt64.add_zero _).symm, (UInt64.add_zero _).symm, (UInt64.add_zero _).symm⟩

section Run

variable {config : CoordinatorConfig} {governor : GovernorConfig} {world : σ} {process : Process} {start : Millis}

theorem started_spec (api : StoreApi σ) (config : CoordinatorConfig) (governor : GovernorConfig) (world : σ)
    (process : Process) (now : Millis) :
    (started api config governor world process now).governor = ((recovered api governor world process now).installEpoch
      api (recovered api governor world process now).epoch (recovered api governor world process now).boot 0).2 ∧
    (started api config governor world process now).connections = [] ∧
    (started api config governor world process now).counters = {} := by
  unfold started Coordination.start
  split
  · next hout => exact ⟨(congrArg Prod.snd hout).symm, rfl, rfl⟩
  · next hout => exact ⟨(congrArg Prod.snd hout).symm, rfl, rfl⟩

theorem balanced_of_run (h : CoordinatorRun api config governor world process start past c) : Balanced past c := by
  refine Run.invariant ?_ (fun past c act hb ↦ hb.effect (effect api hb.greeted act)) h
  obtain ⟨-, hconnections, hcounters⟩ := started_spec api config governor world process start
  refine ⟨?_, ?_, ?_, ?_, ?_⟩
  · unfold Coordinator.connectionCount
    rw [hconnections]
    exact Nat.zero_le _
  · rw [hconnections, hcounters]
    rfl
  · unfold sessions
    rw [hconnections, hcounters]
    rfl
  · unfold uncounted
    rw [hconnections, hcounters]
    rfl
  · unfold Greeted
    rw [hconnections]
    simp

def startCall (api : StoreApi σ) (governor : GovernorConfig) (world : σ) (process : Process) (now : Millis) :
    Event Op Reply (Governor σ) :=
  let g := recovered api governor world process now
  event (Operations.step api) (.installEpoch g.epoch g.boot 0) g

theorem delegated_of_run (h : CoordinatorRun api config governor world process start past c) :
    ∃ calls, GovernorRun api governor world process start (startCall api governor world process start :: calls)
      c.governor ∧ Delegated past calls := by
  induction h with
  | start =>
    refine ⟨[], ?_, .start⟩
    rw [(started_spec api config governor world process start).1]
    exact Run.start.snoc (Op.installEpoch _ _ 0)
  | @snoc past c h act ih =>
    obtain ⟨calls, hrun, hdelegated⟩ := ih
    have heffect := effect api (balanced_of_run h).greeted act
    change ∃ calls, _ ∧ Delegated
      (past ++ [⟨c, act, (Coordination.step api act c).1, (Coordination.step api act c).2⟩]) calls
    generalize Coordination.step api act c = result at heffect ⊢
    obtain ⟨out, c'⟩ := result
    cases heffect with
    | own m out c' hout hgov hadmitted hbooked hre => exact ⟨calls, hgov.symm ▸ hrun, hdelegated.idle _ hout hgov⟩
    | opened c' hroom hc' =>
      subst hc'
      exact ⟨calls, hrun, hdelegated.idle _ (Or.inl rfl) rfl⟩
    | called op out c' hgov hout hcounters hre =>
      refine ⟨calls ++ [event (Operations.step api) op c.governor], ?_, hdelegated.call _ _ hout rfl hgov.symm⟩
      change Run _ _ _ c'.governor
      rw [hgov]
      exact hrun.snoc op

/-- Whatever its threads do in whatever order: a coordinator is a run of calls on its governor, made one
after the other. Each call is made by one step, with the input of that step, and the step goes on from what
the call returned; every other step leaves the governor as it was. -/
theorem coordinator_refines_governor (h : CoordinatorRun api config governor world process start past c) :
    ∃ calls, GovernorRun api governor world process start (startCall api governor world process start :: calls)
      c.governor ∧ Delegated past calls := delegated_of_run h

theorem Delegated.admitted {calls : List (Event Op Reply (Governor σ))} (h : Delegated past calls) :
    tally (unit isAdmitted) past = tally (unit Tallies.isAccepted) calls := by
  induction h with
  | start => rfl
  | idle h e hout hgov ih =>
    rw [tally_snoc, ih]
    change _ + unit announces e.out = _
    rw [hout.unannounced, Nat.add_zero]
  | call h e x hout hbefore hafter ih =>
    rw [tally_snoc, tally_snoc, ih]
    exact congrArg _ (hout.counts x rfl)

theorem uncounted_le (c : Coordinator σ) : uncounted c ≤ c.connectionCount := by
  refine List.countP_mono_left ?_
  intro x _ h
  refine decide_eq_true ?_
  intro hended
  rw [hended] at h
  cases h

/-- In every interleaving: the open connections stay within both bounds, every session that was begun is
counted as ended or is one of the connections, and the frames the coordinator has counted are those its
governor accepted but for the ones whose thread has not counted them yet, at most one for each open
connection. -/
theorem coordinator_accounts (h : CoordinatorRun api config governor world process start past c) :
    c.connectionCount ≤ min c.config.maxConnections Limits.kMaxConnections ∧
    c.counters.connectionsAccepted = UInt64.ofNat c.connections.length ∧
    c.counters.hellos = c.counters.publishersLost + UInt64.ofNat (sessions c) ∧
    uncounted c ≤ c.connectionCount ∧
    ∃ n, c.counters.framesAdmitted + UInt64.ofNat (uncounted c) = UInt64.ofNat n ∧
      c.governor.metrics.framesAccepted = saturated n := by
  have hbalanced := balanced_of_run h
  obtain ⟨calls, hrun, hdelegated⟩ := delegated_of_run h
  refine ⟨hbalanced.bounded, hbalanced.accepted, hbalanced.sessions, uncounted_le c, _, hbalanced.admitted, ?_⟩
  have haccepted := @Tallies.counter_of_run _ _ _ _ _ _ _ _ hrun .framesAccepted (fun _ _ ↦ rfl)
  have hcons : tally (unit Tallies.isAccepted) (startCall api governor world process start :: calls) =
      tally (unit Tallies.isAccepted) calls := rfl
  rw [hdelegated.admitted, ← hcons]
  exact haccepted

end Run

open Revocation Atomicity

def neighbour : HelloPayload := { publisher := ⟨8⟩, incarnation := ⟨1⟩, boot := ⟨11⟩ }

/-- Two connections take turns. The first counts its heartbeat, is refused when it sends it again, and notes
the death of its publisher; the second has a heartbeat accepted that it has not counted. -/
def sharedActs : List Act :=
  [.accept, .accept] ++ arrivalActs 0 introduction ++ arrivalActs 1 neighbour ++
    [.connection 1 (.welcome (.ok ())), .connection 0 (.welcome (.ok ())), .connection 0 .check, .connection 1 .check,
      .connection 0 (.receive (.ok (heartbeatOf introduction)) 0),
      .connection 1 (.receive (.ok (heartbeatOf neighbour)) 0), .connection 0 .count, .connection 0 .check,
      .connection 0 (.receive (.ok (heartbeatOf introduction)) 0), .connection 0 .count] ++
    closureActs 0 ++ [.connection 0 (.leave 0)]

def shared : Coordinator Unit := final (Coordination.step noStore) idleCoordinator sharedActs

theorem run_shared : CoordinatorRun noStore {} {} () ⟨0, 0⟩ 0
    (history (Coordination.step noStore) idleCoordinator sharedActs) shared := Run.of_ops sharedActs

theorem shared_refines : (history (Coordination.step noStore) idleCoordinator sharedActs).countP isAdmitted = 2 ∧
    ∃ calls, GovernorRun noStore {} () ⟨0, 0⟩ 0
      (startCall noStore {} () ⟨0, 0⟩ 0 :: calls) shared.governor ∧
      Delegated (history (Coordination.step noStore) idleCoordinator sharedActs) calls :=
  ⟨rfl, coordinator_refines_governor run_shared⟩

theorem shared_accounts : shared.counters.hellos = 2 ∧ shared.counters.framesAdmitted = 1 ∧ uncounted shared = 1 ∧
    shared.connections.map Connection.phase = [.mourning, .admitted] ∧
    shared.counters.hellos = shared.counters.publishersLost + UInt64.ofNat (sessions shared) ∧
    ∃ n, shared.counters.framesAdmitted + UInt64.ofNat (uncounted shared) = UInt64.ofNat n ∧
      shared.governor.metrics.framesAccepted = saturated n := by
  obtain ⟨-, -, hsessions, -, hframes⟩ := coordinator_accounts run_shared
  exact ⟨rfl, rfl, rfl, rfl, hsessions, hframes⟩

end HotspotGovernor.Delegation
