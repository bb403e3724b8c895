import HotspotGovernor.Atomicity
import HotspotGovernor.Sessions

namespace HotspotGovernor.Revocation

open Foundation Durable Framing Registry Governance Admission Effects Coordination Sessions Lib.Trace

variable {σ : Type} {api : StoreApi σ} {config : CoordinatorConfig} {governor : GovernorConfig} {world : σ}
  {process : Process} {start : Millis} {past : History σ} {c c' : Coordinator σ} {act : Act} {out : Outcome}

theorem holder_eq {i : ℕ} {x : Connection} (hx : c.connections[i]? = some x) : holder c i = holds x := by
  unfold holder
  rw [hx]
  rfl

def WelcomeLost (publisher : PublisherId) (e : Event Act Outcome (Coordinator σ)) : Prop :=
  ∃ i x hello failure, e.op = .connection i (.welcome (.error failure)) ∧
    e.before.connections[i]? = some x ∧ x.phase = .welcoming hello ∧ hello.publisher = publisher

structure Backed (publisher : PublisherId) (past : History σ) (c : Coordinator σ) : Prop where
  accounted : Accounted past c
  closed : c.governor.storeOpen = false
  backed : ∀ k, credentials c.governor publisher = some k → k.alive = true →
    ∃ i, holder c i = some publisher

variable {publisher : PublisherId}

theorem Backed.released {e : Event Act Outcome (Coordinator σ)} {i : ℕ} (h : Backed publisher past c)
    (hacc : Accounted (past ++ [e]) c') (hopen : c'.governor.storeOpen = c.governor.storeOpen)
    (hcred : ∀ k, credentials c'.governor publisher = some k → k.alive = true →
      credentials c.governor publisher = some k)
    (hre : Reassigned i none c c') (hne : holder c i ≠ some publisher) :
    Backed publisher (past ++ [e]) c' := by
  refine ⟨hacc, hopen.trans h.closed, ?_⟩
  intro k hk halive
  obtain ⟨j, hj⟩ := h.backed k (hcred k hk halive) halive
  refine ⟨j, ?_⟩
  have hij : j ≠ i := by
    rintro rfl
    exact hne hj
  rw [hre.holders, Function.update_of_ne hij]
  exact hj

theorem Backed.effect (h : Backed publisher past c) (he : Effect api c act out c')
    (hsent : ¬ WelcomeLost publisher (⟨c, act, out, c'⟩ : Event Act Outcome (Coordinator σ))) :
    Backed publisher (past ++ [⟨c, act, out, c'⟩]) c' := by
  have hacc := h.accounted.effect he
  cases he with
  | calm hgov hidle hout =>
    refine ⟨hacc, hgov.storeOpen.trans h.closed, ?_⟩
    rw [hgov.credentials, hidle.holders]
    exact h.backed
  | @enrolled i _ hello welcome _ hopen hfree hvalid hgov hre =>
    refine ⟨hacc, hgov.storeOpen.trans h.closed, ?_⟩
    rw [hgov.credentials, hre.holders]
    intro k hk halive
    by_cases hp : publisher = hello.publisher
    · exact ⟨i, by rw [Function.update_self, hp]⟩
    · rw [Function.update_of_ne hp] at hk
      obtain ⟨j, hj⟩ := h.backed k hk halive
      have hij : j ≠ i := by
        rintro rfl
        rw [hfree] at hj
        cases hj
      exact ⟨j, by rw [Function.update_of_ne hij, hj]⟩
  | @abandoned i x hello e _ hx hphase hgov hre =>
    refine h.released hacc (by rw [hgov]) (fun k hk _ ↦ hgov ▸ hk) hre ?_
    have hholds : holds x = some hello.publisher := by
      unfold holds
      rw [hphase]
    rw [holder_eq hx, hholds]
    intro hp
    exact hsent ⟨i, x, hello, e, rfl, hx, hphase, Option.some.inj hp⟩
  | @departed i x now status _ hx hphase hreg hvalid hgov hre hclosed =>
    have hdeath := notePublisherDeath_recorded
      (recorded_of_closed h.closed x.publisher now : Recorded api x.publisher now c.governor)
    have hholds : holder c i = some x.publisher := by
      rw [holder_eq hx, holds_of_active (by rw [hphase]; rfl), if_pos hreg]
    by_cases hp : publisher = x.publisher
    · refine ⟨hacc, (by rw [hgov, hdeath.storeOpen]; exact h.closed), ?_⟩
      intro k hk halive
      rw [hgov, hdeath.credentials, hp, Function.update_self] at hk
      obtain ⟨k', -, rfl⟩ := Option.map_eq_some_iff.mp hk
      cases halive
    · refine h.released hacc (by rw [hgov, hdeath.storeOpen]) ?_ hre ?_
      · intro k hk _
        rwa [hgov, hdeath.credentials, Function.update_of_ne hp] at hk
      · rw [hholds]
        exact fun hsome ↦ hp (Option.some.inj hsome).symm
  | @vanished i x now _ hx hphase hreg hgov hre hclosed =>
    refine h.released hacc (by rw [hgov]) (fun k hk _ ↦ hgov ▸ hk) hre ?_
    intro hp
    have hvalid := (h.accounted.held i publisher hp).1
    rw [holder_eq hx, holds_of_active (by rw [hphase]; rfl)] at hp
    split at hp
    · next hr => exact hreg ⟨hr, Option.some.inj hp ▸ hvalid⟩
    · cases hp

theorem started_storeOpen (hstore : governor.store = none) :
    (started api config governor world process start).governor.storeOpen = false := by
  have hrec : (Operations.recovered api governor world process start).storeOpen = false := by
    unfold Operations.recovered Governor.recover
    dsimp only
    rw [hstore]
  unfold started Coordination.start
  generalize Operations.recovered api governor world process start = g at hrec ⊢
  have ho : (g.installEpoch api g.epoch g.boot 0).2.storeOpen = g.storeOpen := installEpoch_storeOpen ..
  split
  · next hout =>
    rw [hout] at ho
    exact ho.trans hrec
  · next hout =>
    rw [hout] at ho
    exact ho.trans hrec

/-- Without a store, in every interleaving in which no welcome to a publisher fails to be sent: once
every connection that registered the publisher has ended, its entry is not alive. -/
theorem not_alive_of_ended (h : CoordinatorRun api config governor world process start past c)
    (hstore : governor.store = none) (publisher : PublisherId)
    (hsent : ∀ e ∈ past, ¬ WelcomeLost publisher e)
    (hended : ∀ e ∈ past, ∀ i hello, registration e = some (i, hello) → hello.publisher = publisher →
      Ended c i) (s : PublisherState) (hs : c.governor.findPublisher publisher = some s) :
    s.alive = false := by
  have hbacked : Backed publisher past c := by
    refine @Run.invariant_of _ _ _ _ _ _ _ (Backed publisher) (fun _ e ↦ ¬ WelcomeLost publisher e) ?_
      (fun past c act hb ↦ hb.effect (Sessions.effect api act c)) h ?_
    · refine ⟨accounted_of_run Run.start, started_storeOpen hstore, ?_⟩
      intro k hk
      rw [(started_spec api config governor world process start).2.2] at hk
      cases hk
    · intro pre e post he
      exact hsent e (by rw [he]; simp)
  rw [Bool.eq_false_iff]
  intro halive
  have hcred : credentials c.governor publisher = some (credentialsOf s) :=
    congrArg (Option.map credentialsOf) hs
  obtain ⟨i, hi⟩ := hbacked.backed _ hcred halive
  obtain ⟨-, e, he, hello, hreg, hname⟩ := hbacked.accounted.held i publisher hi
  obtain ⟨x, hx, hphase⟩ := hended e he i hello hreg hname
  rw [holder_eq hx] at hi
  unfold holds at hi
  rw [hphase] at hi
  cases hi

open Atomicity
open Operations (noStore)

def arrivalActs (i : ℕ) (hello : HelloPayload) : List Act :=
  [.connection i .check, .connection i (.receive (.ok (makeFrame .hello {} (encodeHello hello))) 0)]

def closureActs (i : ℕ) : List Act :=
  [.connection i .check,
    .connection i (.receive (Status.failure .connectionClosed "peer closed the connection") 0)]

def idleCoordinator : Coordinator Unit := started noStore {} {} () ⟨0, 0⟩ 0

def unwelcomedActs : List Act :=
  [.accept] ++ arrivalActs 0 introduction ++
    [.connection 0 (.welcome (Status.failure .connectionClosed "send failed: peer is gone")),
      .connection 0 (.leave 0), .connection 0 .forget]

def unwelcomed : Coordinator Unit := final (step noStore) idleCoordinator unwelcomedActs

/-- The peer goes before its welcome is sent: its only connection has ended, and it is still alive. -/
theorem unwelcomed_stays_alive : ∃ past, CoordinatorRun noStore {} {} () ⟨0, 0⟩ 0 past unwelcomed ∧
    (∃ e ∈ past, registration e = some (0, introduction)) ∧
    (∀ e ∈ past, ∀ i hello, registration e = some (i, hello) → Ended unwelcomed i) ∧
    ∃ s, unwelcomed.governor.findPublisher introduction.publisher = some s ∧ s.alive = true := by
  have hrun : CoordinatorRun noStore {} {} () ⟨0, 0⟩ 0
      (history (step noStore) idleCoordinator unwelcomedActs) unwelcomed := Run.of_ops unwelcomedActs
  refine ⟨_, hrun, ⟨_, List.mem_of_getElem? (i := 2) rfl, rfl⟩, ?_, _, rfl, rfl⟩
  intro e he i hello hreg
  have hi : i < 1 := (accounted_of_run hrun).indexed e he i hello hreg
  obtain rfl : i = 0 := by omega
  exact ⟨_, rfl, rfl⟩

def welcomedActs : List Act :=
  [.accept] ++ arrivalActs 0 introduction ++ [.connection 0 (.welcome (.ok ()))] ++ closureActs 0 ++
    [.connection 0 (.leave 0), .connection 0 .count, .connection 0 .forget]

/-- A session that ends after its welcome. -/
theorem welcomed_not_alive : ∃ s, (final (step noStore) idleCoordinator welcomedActs).governor.findPublisher
    introduction.publisher = some s ∧ s.alive = false := by
  have hrun : CoordinatorRun noStore {} {} () ⟨0, 0⟩ 0 (history (step noStore) idleCoordinator welcomedActs)
      (final (step noStore) idleCoordinator welcomedActs) := Run.of_ops welcomedActs
  refine ⟨_, rfl, not_alive_of_ended hrun rfl introduction.publisher ?_ ?_ _ rfl⟩
  · intro e he h
    obtain ⟨i, x, hello, failure, hop, -⟩ := h
    have hmem := op_mem_of_history he
    rw [hop] at hmem
    simp [welcomedActs, arrivalActs, closureActs] at hmem
  · intro e he i hello hreg _
    have hi : i < 1 := (accounted_of_run hrun).indexed e he i hello hreg
    obtain rfl : i = 0 := by omega
    exact ⟨_, rfl, rfl⟩

def Enrols (publisher : PublisherId) (e : Event Act Outcome (Coordinator σ)) : Prop :=
  ∃ i hello, registration e = some (i, hello) ∧ hello.publisher = publisher

/-- A well-formed frame of a registered sender, next in order after what its record has applied. -/
structure NextFrame (hello : HelloPayload) (g : Governor σ) (s : PublisherState) (f : Frame) : Prop where
  intact : verifyPayload f.header f.payload = .ok ()
  publisher : f.header.publisher = hello.publisher
  incarnation : f.header.incarnation = hello.incarnation
  boot : f.header.boot = hello.boot
  ordered : (f.header.type = .heartbeat ∧ (f.header.sequence = 0 ∨ s.lastSequence < f.header.sequence)) ∨
    (streamOf f.header.type ≠ .unknown ∧ f.header.epoch = g.epoch ∧
      sequenced (s.enter g.epoch) f.header = .ok () ∧
      ∃ snapshots n, decodeInto g.snapshots f = .ok (snapshots, n) ∧ verifyReferences snapshots = .ok ())

/-- The registration is in force: its publisher is alive as registered, and its next frame is admitted. -/
def Stands (hello : HelloPayload) (g : Governor σ) : Prop :=
  ∃ s, g.findPublisher hello.publisher = some s ∧ s.alive = true ∧ s.incarnation = hello.incarnation ∧
    s.boot = hello.boot ∧ ∀ f now, NextFrame hello g s f → ∃ report, (g.admitFrame f now).1 = .ok report

/-- The latest registration of every publisher stands for as long as its connection is open. -/
def Undisturbed (past : History σ) (c : Coordinator σ) : Prop :=
  ∀ e i hello, Last (Enrols hello.publisher) past e → registration e = some (i, hello) → Open c i →
    Stands hello c.governor

/-- A connection closes that completed its handshake and whose publisher has since been registered over
another connection, still open, and the store, if there is one, takes the record of the death. -/
def RevokesSuccessor (api : StoreApi σ) (past : History σ) (e : Event Act Outcome (Coordinator σ)) : Prop :=
  ∃ i x now, e.op = .connection i (.leave now) ∧ e.before.connections[i]? = some x ∧ x.phase = .leaving ∧
    x.registered = true ∧ x.publisher.valid = true ∧ Recorded api x.publisher now e.before.governor ∧
    ∃ successor j hello, Last (Enrols x.publisher) past successor ∧
      registration successor = some (j, hello) ∧ j ≠ i ∧ Open e.before j

theorem admit_next {g : Governor σ} {hello : HelloPayload} {s : PublisherState} {f : Frame}
    (hepoch : g.epoch.valid = true) (hs : g.findPublisher hello.publisher = some s) (halive : s.alive = true)
    (hi : s.incarnation = hello.incarnation) (hb : s.boot = hello.boot) (hf : NextFrame hello g s f)
    (now : Millis) : ∃ report, (g.admitFrame f now).1 = .ok report := by
  have hfound : g.findPublisher f.header.publisher = some s := hf.publisher ▸ hs
  have hinc : f.header.incarnation = s.incarnation := hf.incarnation.trans hi.symm
  have hboot : f.header.boot = s.boot := hf.boot.trans hb.symm
  have ha := admits f now g
  generalize g.admitFrame f now = out at ha ⊢
  rcases hf.ordered with ⟨ht, hseq⟩ | ⟨hstream, he, hseq, snapshots, n, hd, hv⟩
  · have hbeats : Beats f g s :=
      ⟨hf.intact, ht, authorizeHeartbeat_eq_ok.mpr ⟨hfound, hinc, hboot, halive, hseq⟩⟩
    cases ha with
    | unauthorized e m hs hb => exact absurd hbeats (hb s)
    | heartbeat p m hb => exact ⟨_, rfl⟩
    | undecoded p e m hp hd => exact absurd ht hp.stream
    | unresolved p s n e m hp hd hv => exact absurd ht hp.stream
    | applied p s n m hp hd hv => exact ⟨_, rfl⟩
  · have ht : f.header.type ≠ .heartbeat := by
      intro ht
      rw [ht] at hstream
      exact hstream rfl
    have hauth : Authorized f g s :=
      ⟨hf.intact, ht, authorize_eq_ok.mpr ⟨hstream, hepoch, he, hfound, hinc, hboot, halive⟩⟩
    have hdec : Decoded f g s snapshots n := ⟨hseq, hd⟩
    cases ha with
    | unauthorized e m hs hb => exact absurd hauth (hs s)
    | heartbeat p m hb => exact ⟨_, rfl⟩
    | undecoded p e m hp hd =>
      obtain rfl := hp.unique hauth
      exact absurd hdec (hd snapshots n)
    | unresolved p s' n' e m hp hd hv' =>
      obtain rfl := hp.unique hauth
      rw [hd.unique hdec, hv] at hv'
      cases hv'
    | applied p s n m hp hd hv => exact ⟨_, rfl⟩

theorem stands_iff {hello : HelloPayload} {g : Governor σ} (hepoch : g.epoch.valid = true) :
    Stands hello g ↔ credentials g hello.publisher = some ⟨hello.incarnation, hello.boot, true⟩ := by
  unfold credentials
  rw [Option.map_eq_some_iff]
  constructor
  · intro h
    obtain ⟨s, hs, halive, hi, hb, -⟩ := h
    refine ⟨s, hs, ?_⟩
    unfold credentialsOf
    rw [hi, hb, halive]
  · intro h
    obtain ⟨s, hs, hcred⟩ := h
    obtain ⟨hi, hb, halive⟩ := Credentials.mk.inj hcred
    exact ⟨s, hs, halive, hi, hb, fun f now hf ↦ admit_next hepoch hs halive hi hb hf now⟩

theorem not_enrols_of_none {e : Event Act Outcome (Coordinator σ)} (h : registration e = none) :
    ¬ Enrols publisher e := by
  intro h
  obtain ⟨i, hello, hreg, -⟩ := h
  cases h.symm.trans hreg

theorem Undisturbed.snoc {e₀ : Event Act Outcome (Coordinator σ)} (h : Undisturbed past c)
    (hacc : Accounted past c) (hepoch : c'.governor.epoch.valid = true) (hnone : registration e₀ = none)
    (hkept : ∀ e i hello, Last (Enrols hello.publisher) past e → registration e = some (i, hello) →
      Open c' i → Open c i ∧
        credentials c'.governor hello.publisher = credentials c.governor hello.publisher) :
    Undisturbed (past ++ [e₀]) c' := by
  intro e i hello hlast hreg hopen
  rcases last_snoc_iff.mp hlast with ⟨henrols, -⟩ | ⟨-, hlast⟩
  · exact absurd henrols (not_enrols_of_none hnone)
  · obtain ⟨hopen', hcred⟩ := hkept e i hello hlast hreg hopen
    rw [stands_iff hepoch, hcred, ← stands_iff hacc.epoch]
    exact h e i hello hlast hreg hopen'

theorem Undisturbed.effect (h : Undisturbed past c) (hacc : Accounted past c) (he : Effect api c act out c')
    (hgood : ¬ RevokesSuccessor api past ⟨c, act, out, c'⟩) :
    Undisturbed (past ++ [⟨c, act, out, c'⟩]) c' := by
  have hepoch := (hacc.effect he).epoch
  cases he with
  | calm hgov hidle hout =>
    refine h.snoc hacc hepoch (registration_eq_none hout) ?_
    intro e i hello hlast hreg hopen
    have hi := hacc.indexed e hlast.mem i hello hreg
    exact ⟨(hidle.opened i hi).mp hopen, by rw [hgov.credentials]⟩
  | @enrolled i₀ _ hello₀ welcome _ hopen₀ hfree hvalid hgov hre =>
    intro e i hello hlast hreg hopen
    rw [stands_iff hepoch, hgov.credentials]
    rcases last_snoc_iff.mp hlast with ⟨-, rfl⟩ | ⟨hnot, hlast⟩
    · obtain ⟨-, rfl⟩ := Prod.mk.inj (Option.some.inj hreg)
      rw [Function.update_self]
    · have hne : hello.publisher ≠ hello₀.publisher := fun hp ↦ hnot ⟨i₀, hello₀, rfl, hp.symm⟩
      have hopen' : Open c i := by
        by_cases hi : i = i₀
        · exact hi ▸ hopen₀
        · exact (hre.opened i hi).mp hopen
      rw [Function.update_of_ne hne, ← stands_iff hacc.epoch]
      exact h e i hello hlast hreg hopen'
  | @abandoned i₀ x hello₀ _ _ hx hphase hgov hre =>
    refine h.snoc hacc hepoch rfl ?_
    intro e i hello hlast hreg hopen
    refine ⟨?_, by rw [hgov]⟩
    by_cases hi : i = i₀
    · refine hi ▸ ⟨x, hx, ?_⟩
      unfold isOpen
      rw [hphase]
    · exact (hre.opened i hi).mp hopen
  | @departed k x now status _ hx hphase hreg hvalid hgov hre hclosed =>
    refine h.snoc hacc hepoch rfl ?_
    intro e i hello hlast hereg hopen
    have hi : i ≠ k := by
      rintro rfl
      exact hclosed hopen
    have hopen' := (hre.opened i hi).mp hopen
    refine ⟨hopen', ?_⟩
    rw [hgov]
    by_cases hrec : Recorded api x.publisher now c.governor
    · have hne : hello.publisher ≠ x.publisher := by
        intro hp
        exact hgood ⟨k, x, now, rfl, hx, hphase, hreg, hvalid, hrec, e, i, hello, hp ▸ hlast, hereg, hi, hopen'⟩
      rw [(notePublisherDeath_recorded hrec).credentials, Function.update_of_ne hne]
    · rw [(notePublisherDeath_unrecorded hrec).credentials]
  | @vanished k x now _ hx hphase hreg hgov hre hclosed =>
    refine h.snoc hacc hepoch rfl ?_
    intro e i hello hlast hereg hopen
    have hi : i ≠ k := by
      rintro rfl
      exact hclosed hopen
    exact ⟨(hre.opened i hi).mp hopen, by rw [hgov]⟩

theorem step_leave {k : ℕ} {x : Connection} (hx : c.connections[k]? = some x) (hphase : x.phase = .leaving)
    (hreg : x.registered = true) (hvalid : x.publisher.valid = true) (now : Millis) :
    ∃ out c', step api (.connection k (.leave now)) c = (out, c') ∧
      (∀ i hello welcome, out ≠ .enrolled i hello welcome) ∧
      c'.governor = (c.governor.notePublisherDeath api x.publisher now).2 ∧
      ∀ i, i ≠ k → (Open c' i ↔ Open c i) := by
  have hstep : step api (.connection k (.leave now)) c = c.leave k x api now := by
    unfold step stepConnection
    dsimp only
    rw [hx]
    dsimp only
    rw [hphase]
  refine ⟨_, _, hstep.trans (if_pos (by simp [hreg, hvalid])), by simp, rfl, ?_⟩
  intro i hi
  rw [open_set hx rfl, if_neg hi]

theorem not_undisturbed_of_revokes (hacc : Accounted past c)
    (hbad : RevokesSuccessor api past (event (step api) act c)) :
    ¬ Undisturbed (past ++ [event (step api) act c]) (step api act c).2 := by
  have hepoch := (hacc.effect (Sessions.effect api act c)).epoch
  obtain ⟨k, x, now, hact, hx, hphase, hreg, hvalid, hrec, e, i, hello, hlast, hereg, hi, hopen⟩ := hbad
  dsimp only [event] at hact hx hrec hopen
  subst hact
  have hname : hello.publisher = x.publisher := by
    obtain ⟨i', hello', hreg', hname⟩ := hlast.of_kind
    obtain ⟨-, rfl⟩ := Prod.mk.inj (Option.some.inj (hereg.symm.trans hreg'))
    exact hname
  obtain ⟨out, c', hstep, hout, hgov, hopened⟩ := @step_leave σ api c k x hx hphase hreg hvalid now
  intro hund
  unfold event at hund
  rw [hstep] at hund hepoch
  have hstands := hund e i hello ?_ hereg ((hopened i hi).mpr hopen)
  · rw [stands_iff hepoch, hgov, (notePublisherDeath_recorded hrec).credentials, hname,
      Function.update_self] at hstands
    obtain ⟨k', -, hk'⟩ := Option.map_eq_some_iff.mp hstands
    exact Bool.false_ne_true (congrArg Credentials.alive hk')
  · rw [hname]
    exact last_snoc_iff.mpr (Or.inr ⟨not_enrols_of_none (registration_eq_none hout), hlast⟩)

/-- In every interleaving: the latest registrations stand in every state reached exactly when no
connection with a completed handshake closes after its publisher registered over another, still open
connection, with the store taking the record. -/
theorem undisturbed_iff (h : CoordinatorRun api config governor world process start past c) :
    (∀ pre e post, past = pre ++ e :: post → Undisturbed (pre ++ [e]) e.after) ↔
      ∀ pre e post, past = pre ++ e :: post → ¬ RevokesSuccessor api pre e := by
  refine Run.forall_iff ?_ ?_ h
  · intro e i hello h
    obtain ⟨pre, post, hnil, -⟩ := h
    simp at hnil
  · intro past c act hrun hund
    have hacc := accounted_of_run hrun
    constructor
    · intro hafter hbad
      exact not_undisturbed_of_revokes hacc hbad hafter
    · intro hgood
      exact hund.effect hacc (Sessions.effect api act c) hgood

def reintroduction : HelloPayload := { introduction with incarnation := ⟨2⟩, boot := ⟨10⟩ }

/-- The publisher comes back over a second connection before the first one has noted its death. -/
def comebackActs : List Act :=
  [.accept, .accept] ++ arrivalActs 0 introduction ++ [.connection 0 (.welcome (.ok ()))] ++ closureActs 0 ++
    arrivalActs 1 reintroduction ++ [.connection 1 (.welcome (.ok ()))]

def comeback : Coordinator Unit := final (step noStore) idleCoordinator comebackActs

theorem run_comeback : CoordinatorRun noStore {} {} () ⟨0, 0⟩ 0
    (history (step noStore) idleCoordinator comebackActs) comeback := Run.of_ops comebackActs

def comebackEvent : Event Act Outcome (Coordinator Unit) :=
  event (step noStore) (.connection 1 (.receive (.ok (makeFrame .hello {} (encodeHello reintroduction))) 0))
    (final (step noStore) idleCoordinator (comebackActs.take 8))

theorem last_comebackEvent :
    Last (Enrols introduction.publisher) (history (step noStore) idleCoordinator comebackActs) comebackEvent := by
  refine ⟨(history (step noStore) idleCoordinator comebackActs).take 8, [_], rfl,
    ⟨1, reintroduction, rfl, rfl⟩, ?_⟩
  intro x hx
  obtain rfl := List.mem_singleton.mp hx
  exact not_enrols_of_none rfl

/-- No connection has noted a death yet, so the new registration stands. -/
theorem comeback_stands : Stands reintroduction comeback.governor := by
  have hund := (undisturbed_iff run_comeback).mpr ?_ _ _ [] (history_snoc comebackActs.dropLast _)
  · exact hund comebackEvent 1 reintroduction last_comebackEvent rfl ⟨_, rfl, rfl⟩
  · intro pre e post hsplit h
    obtain ⟨i, x, now, hop, -⟩ := h
    have hmem : e ∈ history (step noStore) idleCoordinator comebackActs := by
      rw [hsplit]
      simp
    have hact := op_mem_of_history hmem
    rw [hop] at hact
    simp [comebackActs, arrivalActs, closureActs] at hact

def lateClose : Coordinator Unit := (step noStore (.connection 0 (.leave 0)) comeback).2

def heartbeatOf (hello : HelloPayload) : Frame :=
  makeFrame .heartbeat
    { publisher := hello.publisher
      incarnation := hello.incarnation
      boot := hello.boot
      epoch := ⟨1⟩
      sequence := 1 } []

/-- The first connection then notes the death of the publisher, which is the second one's: the second
connection is still open, and its heartbeat is refused. -/
theorem lateClose_revokes : ∃ past e, CoordinatorRun noStore {} {} () ⟨0, 0⟩ 0 past comeback ∧
    (∃ e₀ ∈ past, registration e₀ = some (0, introduction)) ∧
    Last (Enrols introduction.publisher) past e ∧ registration e = some (1, reintroduction) ∧
    Open lateClose 1 ∧
    (∃ s, comeback.governor.findPublisher introduction.publisher = some s ∧ s.alive = true ∧
      s.incarnation = reintroduction.incarnation) ∧
    (∃ s, lateClose.governor.findPublisher introduction.publisher = some s ∧ s.alive = false) ∧
    (lateClose.governor.admitFrame (heartbeatOf reintroduction) 0).1 =
      Status.failure .unknownPublisher "publisher incarnation is not alive" := by
  have hadmitted : lateClose.governor.admitFrame (heartbeatOf reintroduction) 0 =
      lateClose.governor.countReceived.admitHeartbeat (heartbeatOf reintroduction) 0 :=
    (admit_makeFrame .heartbeat _ (show ([] : ByteIo.Bytes).length ≤ _ by decide) 0
      lateClose.governor).trans (if_pos rfl)
  refine ⟨_, comebackEvent, run_comeback, ⟨_, List.mem_of_getElem? (i := 3) rfl, rfl⟩, last_comebackEvent,
    rfl, ⟨_, rfl, rfl⟩, ⟨_, rfl, rfl, rfl⟩, ⟨_, rfl, rfl⟩, ?_⟩
  rw [hadmitted]
  rfl

end HotspotGovernor.Revocation
