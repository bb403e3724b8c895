import HotspotGovernor.Coordination
import HotspotGovernor.Effects

namespace HotspotGovernor.Sessions

open Foundation Durable Framing Registry Governance Admission Effects Coordination Lib.Trace

variable {σ : Type}

/-- The publisher a connection registered and has not noted dead yet, as far as its own thread still
knows. -/
def holds (connection : Connection) : Option PublisherId :=
  match connection.phase with
  | .welcoming hello => some hello.publisher
  | .checking | .receiving | .admitted | .refused _ | .leaving =>
    if connection.registered then some connection.publisher else none
  | .mourning | .closing | .ended => none

def isOpen (connection : Connection) : Bool :=
  match connection.phase with
  | .mourning | .closing | .ended => false
  | _ => true

def active : Phase → Bool
  | .checking | .receiving | .admitted | .refused _ | .leaving => true
  | _ => false

theorem holds_of_active {x : Connection} (h : active x.phase = true) :
    holds x = if x.registered then some x.publisher else none := by
  unfold holds
  split
  · next hphase =>
    rw [hphase] at h
    cases h
  all_goals first | rfl | (next hphase => rw [hphase] at h; cases h)

theorem isOpen_of_active {x : Connection} (h : active x.phase = true) : isOpen x = true := by
  unfold isOpen
  split
  all_goals first | rfl | (next hphase => rw [hphase] at h; cases h)

def holder (c : Coordinator σ) (i : ℕ) : Option PublisherId := c.connections[i]?.bind holds

def Open (c : Coordinator σ) (i : ℕ) : Prop :=
  ∃ connection, c.connections[i]? = some connection ∧ isOpen connection = true

def Ended (c : Coordinator σ) (i : ℕ) : Prop :=
  ∃ connection, c.connections[i]? = some connection ∧ connection.phase = .ended

variable {api : StoreApi σ} {c c' : Coordinator σ} {i : ℕ} {x y : Connection}

theorem Open.lt (h : Open c i) : i < c.connections.length := by
  obtain ⟨connection, hi, -⟩ := h
  exact (List.getElem?_eq_some_iff.mp hi).1

theorem getElem?_set (hx : c.connections[i]? = some x) (hc : c'.connections = c.connections.set i y) (j : ℕ) :
    c'.connections[j]? = if j = i then some y else c.connections[j]? := by
  have hi := (List.getElem?_eq_some_iff.mp hx).1
  rw [hc]
  by_cases hj : j = i
  · rw [if_pos hj, hj, List.getElem?_set_self hi]
  · rw [if_neg hj, List.getElem?_set_ne (Ne.symm hj)]

theorem holder_set (hx : c.connections[i]? = some x) (hc : c'.connections = c.connections.set i y) :
    holder c' = Function.update (holder c) i (holds y) := by
  funext j
  unfold holder
  rw [getElem?_set hx hc]
  by_cases hj : j = i
  · rw [if_pos hj, hj, Function.update_self]
    rfl
  · rw [if_neg hj, Function.update_of_ne hj]

theorem open_set (hx : c.connections[i]? = some x) (hc : c'.connections = c.connections.set i y) (j : ℕ) :
    Open c' j ↔ if j = i then isOpen y = true else Open c j := by
  unfold Open
  rw [getElem?_set hx hc]
  by_cases hj : j = i
  · simp [hj]
  · simp [hj]

/-- The connections answer for the same publishers, and no known one opened or closed. -/
structure Idle (c c' : Coordinator σ) : Prop where
  holders : holder c' = holder c
  opened : ∀ i < c.connections.length, Open c' i ↔ Open c i
  length : c.connections.length ≤ c'.connections.length

/-- One connection answers for another publisher, or for none. -/
structure Reassigned (i : ℕ) (entry : Option PublisherId) (c c' : Coordinator σ) : Prop where
  holders : holder c' = Function.update (holder c) i entry
  opened : ∀ j, j ≠ i → (Open c' j ↔ Open c j)
  length : c'.connections.length = c.connections.length

theorem Idle.refl (c : Coordinator σ) : Idle c c := ⟨rfl, fun _ _ ↦ Iff.rfl, le_refl _⟩

theorem idle_set (hx : c.connections[i]? = some x) (hc : c'.connections = c.connections.set i y)
    (hholds : holds y = holds x) (hopen : isOpen y = isOpen x) : Idle c c' := by
  constructor
  · rw [holder_set hx hc, hholds]
    refine Function.update_eq_self_iff.mpr ?_
    unfold holder
    rw [hx]
    rfl
  · intro j _
    rw [open_set hx hc]
    by_cases hj : j = i
    · rw [if_pos hj, hopen, hj]
      unfold Open
      simp [hx]
    · rw [if_neg hj]
  · rw [hc, List.length_set]

theorem reassigned_set {entry : Option PublisherId} (hx : c.connections[i]? = some x)
    (hc : c'.connections = c.connections.set i y) (hentry : holds y = entry) : Reassigned i entry c c' := by
  refine ⟨(holder_set hx hc).trans (by rw [hentry]), ?_, by rw [hc, List.length_set]⟩
  intro j hj
  rw [open_set hx hc, if_neg hj]

theorem steady_refl (g : Governor σ) : Steady g g := ⟨rfl, rfl, rfl⟩

/-- The kinds of steps, told apart by who may speak and who answers for it afterwards. -/
inductive Effect (api : StoreApi σ) (c : Coordinator σ) : Act → Outcome → Coordinator σ → Prop
  | calm {act : Act} {out : Outcome} {c' : Coordinator σ} (hgov : Steady c.governor c'.governor)
      (hidle : Idle c c') (hout : ∀ i hello welcome, out ≠ .enrolled i hello welcome) : Effect api c act out c'
  | enrolled {i : ℕ} {act : Act} {hello : HelloPayload} {welcome : WelcomePayload} {c' : Coordinator σ}
      (hopen : Open c i) (hfree : holder c i = none) (hvalid : hello.publisher.valid = true)
      (hgov : Entitles hello.publisher (some ⟨hello.incarnation, hello.boot, true⟩) c.governor c'.governor)
      (hre : Reassigned i (some hello.publisher) c c') : Effect api c act (.enrolled i hello welcome) c'
  | abandoned {i : ℕ} {x : Connection} {hello : HelloPayload} {e : Failure} {c' : Coordinator σ}
      (hx : c.connections[i]? = some x) (hphase : x.phase = .welcoming hello)
      (hgov : c'.governor = c.governor) (hre : Reassigned i none c c') :
      Effect api c (.connection i (.welcome (.error e))) .silent c'
  | departed {i : ℕ} {x : Connection} {now : Millis} {status : Status} {c' : Coordinator σ}
      (hx : c.connections[i]? = some x) (hphase : x.phase = .leaving) (hreg : x.registered = true)
      (hvalid : x.publisher.valid = true)
      (hgov : c'.governor = (c.governor.notePublisherDeath api x.publisher now).2)
      (hre : Reassigned i none c c') (hclosed : ¬ Open c' i) :
      Effect api c (.connection i (.leave now)) (.lost x.publisher status) c'
  | vanished {i : ℕ} {x : Connection} {now : Millis} {c' : Coordinator σ}
      (hx : c.connections[i]? = some x) (hphase : x.phase = .leaving)
      (hreg : ¬ (x.registered = true ∧ x.publisher.valid = true))
      (hgov : c'.governor = c.governor) (hre : Reassigned i none c c') (hclosed : ¬ Open c' i) :
      Effect api c (.connection i (.leave now)) .silent c'

theorem accept_effect (api : StoreApi σ) (c : Coordinator σ) : Effect api c .accept c.accept.1 c.accept.2 := by
  unfold Coordinator.accept
  split
  · exact .calm (steady_refl _) (Idle.refl c) (by simp)
  · split
    · exact .calm (steady_refl _) ⟨rfl, fun _ _ ↦ Iff.rfl, le_refl _⟩ (by simp)
    · refine .calm (steady_refl _) ⟨?_, ?_, by simp⟩ (by simp)
      · funext i
        unfold holder
        rw [List.getElem?_append]
        split
        · rfl
        · next hi =>
          rw [List.getElem?_eq_none (not_lt.mp hi)]
          cases hk : i - c.connections.length with
          | zero => rfl
          | succ k => rfl
      · intro i hi
        unfold Open
        rw [List.getElem?_append_left hi]

theorem calm_moveTo {act : Act} {out : Outcome} {phase : Phase} {h : ∀ hello, phase ≠ .welcoming hello}
    (hx : c.connections[i]? = some x) (hc : c'.connections = c.connections.set i (x.moveTo phase h))
    (hgov : Steady c.governor c'.governor) (hout : ∀ i hello welcome, out ≠ .enrolled i hello welcome)
    (hfrom : active x.phase = true) (hto : active phase = true) : Effect api c act out c' := by
  have hto' : active (x.moveTo phase h).phase = true := hto
  refine .calm hgov (idle_set hx hc ?_ ?_) hout
  · rw [holds_of_active hfrom, holds_of_active hto']
    rfl
  · rw [isOpen_of_active hfrom, isOpen_of_active hto']

section

variable (hx : c.connections[i]? = some x)

include hx

theorem receiveFailed_effect {act : Act} (hphase : active x.phase = true) (code : ErrorCode) :
    Effect api c act .silent (c.receiveFailed i x code) := by
  unfold Coordinator.receiveFailed
  split
  · exact calm_moveTo hx rfl (steady_refl _) (by simp) hphase rfl
  · split
    · exact calm_moveTo hx rfl (steady_refl _) (by simp) hphase rfl
    · exact calm_moveTo hx rfl (steady_refl _) (by simp) hphase rfl

theorem serve_effect {act : Act} (hphase : active x.phase = true) (frame : Frame) (now : Millis) :
    Effect api c act (c.serve i x frame now).1 (c.serve i x frame now).2 := by
  have hadmitted := admit_steady (g := c.governor) frame now
  unfold Coordinator.serve
  split
  · exact calm_moveTo hx rfl (steady_refl _) (by simp) hphase rfl
  · split
    · next hout =>
      rw [hout] at hadmitted
      exact calm_moveTo hx rfl hadmitted (by simp) hphase rfl
    · next e governor hout =>
      rw [hout] at hadmitted
      exact calm_moveTo hx rfl hadmitted (by simp) hphase rfl

theorem handshake_effect {act : Act} (hphase : active x.phase = true) (hreg : x.registered = false)
    (frame : Frame) (now : Millis) :
    Effect api c act (c.handshake i x hreg frame now).1 (c.handshake i x hreg frame now).2 := by
  unfold Coordinator.handshake
  split
  · exact calm_moveTo hx rfl (steady_refl _) (by simp) hphase rfl
  · split
    · exact calm_moveTo hx rfl (steady_refl _) (by simp) hphase rfl
    · next hello hdecode =>
      rcases registerPublisher_entitles (g := c.governor) hello now with
        ⟨e, g', hout, hsteady⟩ | ⟨welcome, g', hout, hvalid, hgov⟩
      · rw [hout]
        exact calm_moveTo hx rfl hsteady (by simp) hphase rfl
      · rw [hout]
        have hfree : holder c i = none := by
          unfold holder
          rw [hx]
          exact (holds_of_active hphase).trans (if_neg (Bool.eq_false_iff.mp hreg))
        exact .enrolled ⟨x, hx, isOpen_of_active hphase⟩ hfree hvalid hgov (reassigned_set hx rfl rfl)

theorem welcomed_effect {hello : HelloPayload} (hphase : x.phase = .welcoming hello) (sent : Status) :
    Effect api c (.connection i (.welcome sent)) .silent (c.welcomed i x hello sent) := by
  unfold Coordinator.welcomed
  split
  · refine .abandoned hx hphase rfl (reassigned_set hx rfl ?_)
    refine (holds_of_active rfl).trans (if_neg ?_)
    exact Bool.eq_false_iff.mp (x.handshaking hello hphase)
  · refine .calm (steady_refl _) (idle_set hx rfl ?_ ?_) (by simp)
    · unfold holds
      rw [hphase]
      rfl
    · unfold isOpen
      rw [hphase]
      rfl

theorem leave_effect (hphase : x.phase = .leaving) (now : Millis) :
    Effect api c (.connection i (.leave now)) (c.leave i x api now).1 (c.leave i x api now).2 := by
  have hclosed : ∀ {c₁ : Coordinator σ} {y : Connection}, c₁.connections = c.connections.set i y →
      isOpen y = false → ¬ Open c₁ i := by
    intro c₁ y hc hy
    rw [open_set hx hc, if_pos rfl, hy]
    exact Bool.false_ne_true
  unfold Coordinator.leave
  by_cases hreg : x.registered = true ∧ x.publisher.valid = true
  · rw [if_pos (by simpa using hreg)]
    exact .departed hx hphase hreg.1 hreg.2 rfl (reassigned_set hx rfl rfl) (hclosed rfl rfl)
  · rw [if_neg (by simpa using hreg)]
    exact .vanished hx hphase hreg rfl (reassigned_set hx rfl rfl) (hclosed rfl rfl)

theorem count_effect {act : Act} : Effect api c act .silent (c.count i x) := by
  unfold Coordinator.count
  cases hphase : x.phase with
  | admitted => exact calm_moveTo hx rfl (steady_refl _) (by simp) (by rw [hphase]; rfl) rfl
  | refused ends =>
    cases ends with
    | true => exact calm_moveTo hx rfl (steady_refl _) (by simp) (by rw [hphase]; rfl) rfl
    | false => exact calm_moveTo hx rfl (steady_refl _) (by simp) (by rw [hphase]; rfl) rfl
  | mourning =>
    refine .calm (steady_refl _) (idle_set hx rfl ?_ ?_) (by simp)
    · unfold holds
      rw [hphase]
      rfl
    · unfold isOpen
      rw [hphase]
      rfl
  | _ => exact .calm (steady_refl _) (Idle.refl c) (by simp)

theorem stepConnection_effect (act : ConnectionAct) :
    Effect api c (.connection i act) (stepConnection api i x act c).1 (stepConnection api i x act c).2 := by
  unfold stepConnection
  split
  · next hphase =>
    have hactive : active x.phase = true := by rw [hphase]; rfl
    split
    · exact calm_moveTo hx rfl (steady_refl _) (by simp) hactive rfl
    · exact calm_moveTo hx rfl (steady_refl _) (by simp) hactive rfl
  · next received now hphase =>
    have hactive : active x.phase = true := by rw [hphase]; rfl
    unfold Coordinator.receive
    split
    · exact receiveFailed_effect hx hactive _
    · split
      · next hreg => exact handshake_effect hx hactive hreg _ now
      · exact serve_effect hx hactive _ now
  · next sent hello hphase => exact welcomed_effect hx hphase sent
  · exact count_effect hx
  · next now hphase => exact leave_effect hx hphase now
  · next hphase =>
    refine .calm (steady_refl _) (idle_set hx rfl ?_ ?_) (by simp)
    · unfold holds
      rw [hphase]
      rfl
    · unfold isOpen
      rw [hphase]
      rfl
  · split
    · exact .calm (steady_refl _) (Idle.refl c) (by simp)
    · exact .calm (steady_refl _) (idle_set hx rfl rfl rfl) (by simp)
  · exact .calm (steady_refl _) (Idle.refl c) (by simp)

end

theorem effect (api : StoreApi σ) (act : Act) (c : Coordinator σ) :
    Effect api c act (step api act c).1 (step api act c).2 := by
  unfold step
  cases act with
  | accept => exact accept_effect api c
  | connection i act =>
    dsimp only
    cases hx : c.connections[i]? with
    | none => exact .calm (steady_refl _) (Idle.refl c) (by simp)
    | some x => exact stepConnection_effect hx act
  | stop => exact .calm (steady_refl _) ⟨rfl, fun _ _ ↦ Iff.rfl, le_refl _⟩ (by simp)
  | evaluate now =>
    exact .calm ((evaluate_same now).steady rfl) ⟨rfl, fun _ _ ↦ Iff.rfl, le_refl _⟩ (by simp)
  | commitDurable now =>
    exact .calm ((commitDurable_same now).steady (commitDurable_storeOpen now))
      ⟨rfl, fun _ _ ↦ Iff.rfl, le_refl _⟩ (by simp)

abbrev History (σ : Type) := List (Event Act Outcome (Coordinator σ))

def registration (e : Event Act Outcome (Coordinator σ)) : Option (ℕ × HelloPayload) :=
  match e.out with
  | .enrolled i hello _ => some (i, hello)
  | _ => none

theorem registration_eq_none {e : Event Act Outcome (Coordinator σ)}
    (h : ∀ i hello welcome, e.out ≠ .enrolled i hello welcome) : registration e = none := by
  unfold registration
  split
  · next hout => exact absurd hout (h _ _ _)
  · rfl

/-- Every publisher that a connection answers for was registered over it, an epoch is installed, and
registrations come from connections that were accepted. -/
structure Accounted (past : History σ) (c : Coordinator σ) : Prop where
  held : ∀ i p, holder c i = some p → p.valid = true ∧
    ∃ e ∈ past, ∃ hello, registration e = some (i, hello) ∧ hello.publisher = p
  epoch : c.governor.epoch.valid = true
  indexed : ∀ e ∈ past, ∀ i hello, registration e = some (i, hello) → i < c.connections.length

variable {past : History σ} {act : Act} {out : Outcome}

theorem Accounted.snoc {e : Event Act Outcome (Coordinator σ)} (h : Accounted past c)
    (hheld : ∀ i p, holder c' i = some p → holder c i = some p ∨
      (p.valid = true ∧ ∃ hello, registration e = some (i, hello) ∧ hello.publisher = p))
    (hepoch : c'.governor.epoch = c.governor.epoch) (hlen : c.connections.length ≤ c'.connections.length)
    (he : ∀ i hello, registration e = some (i, hello) → i < c.connections.length) :
    Accounted (past ++ [e]) c' := by
  constructor
  · intro i p hp
    rcases hheld i p hp with hp | ⟨hvalid, hello, hreg, hname⟩
    · obtain ⟨hvalid, x, hx, hello, hreg, hname⟩ := h.held i p hp
      exact ⟨hvalid, x, List.mem_append_left _ hx, hello, hreg, hname⟩
    · exact ⟨hvalid, e, by simp, hello, hreg, hname⟩
  · rw [hepoch]
    exact h.epoch
  · intro x hx i hello hreg
    rcases List.mem_append.mp hx with hx | hx
    · exact lt_of_lt_of_le (h.indexed x hx i hello hreg) hlen
    · rw [List.mem_singleton.mp hx] at hreg
      exact lt_of_lt_of_le (he i hello hreg) hlen

theorem Reassigned.held {entry : Option PublisherId} (h : Reassigned i entry c c') {j : ℕ} {p : PublisherId}
    (hp : holder c' j = some p) : holder c j = some p ∨ (j = i ∧ entry = some p) := by
  rw [h.holders] at hp
  by_cases hj : j = i
  · rw [hj, Function.update_self] at hp
    exact Or.inr ⟨hj, hp⟩
  · rw [Function.update_of_ne hj] at hp
    exact Or.inl hp

theorem Accounted.released {e : Event Act Outcome (Coordinator σ)} (h : Accounted past c)
    (hre : Reassigned i none c c') (hepoch : c'.governor.epoch = c.governor.epoch)
    (hnone : registration e = none) : Accounted (past ++ [e]) c' := by
  refine h.snoc ?_ hepoch hre.length.ge ?_
  · intro j p hp
    rcases hre.held hp with hp | ⟨-, hp⟩
    · exact Or.inl hp
    · cases hp
  · intro j hello hreg
    cases hnone.symm.trans hreg

theorem notePublisherDeath_kept (api : StoreApi σ) (publisher : PublisherId) (now : Millis)
    (g : Governor σ) : (g.notePublisherDeath api publisher now).2.epoch = g.epoch ∧
      (g.notePublisherDeath api publisher now).2.storeOpen = g.storeOpen := by
  by_cases h : Recorded api publisher now g
  · exact ⟨(notePublisherDeath_recorded h).epoch, (notePublisherDeath_recorded h).storeOpen⟩
  · exact ⟨(notePublisherDeath_unrecorded h).epoch, (notePublisherDeath_unrecorded h).storeOpen⟩

theorem Accounted.effect (h : Accounted past c) (he : Effect api c act out c') :
    Accounted (past ++ [⟨c, act, out, c'⟩]) c' := by
  cases he with
  | calm hgov hidle hout =>
    refine h.snoc (fun i p hp ↦ Or.inl (hidle.holders ▸ hp)) hgov.epoch hidle.length ?_
    intro i hello hreg
    cases (registration_eq_none hout).symm.trans hreg
  | @enrolled i _ hello welcome _ hopen hfree hvalid hgov hre =>
    refine h.snoc ?_ hgov.epoch hre.length.ge ?_
    · intro j p hp
      rcases hre.held hp with hp | ⟨hj, hp⟩
      · exact Or.inl hp
      · obtain rfl := Option.some.inj hp
        rw [hj]
        exact Or.inr ⟨hvalid, hello, rfl, rfl⟩
    · intro j hello' hreg
      obtain ⟨rfl, -⟩ := Prod.mk.inj (Option.some.inj hreg)
      exact hopen.lt
  | abandoned hx hphase hgov hre => exact h.released hre (congrArg Governor.epoch hgov) rfl
  | departed hx hphase hreg hvalid hgov hre hclosed =>
    refine h.released hre ?_ rfl
    rw [hgov]
    exact (notePublisherDeath_kept ..).1
  | vanished hx hphase hreg hgov hre hclosed => exact h.released hre (congrArg Governor.epoch hgov) rfl

section Run

variable {config : CoordinatorConfig} {governor : GovernorConfig} {world : σ} {process : Process}
  {start : Millis}

theorem started_spec (api : StoreApi σ) (config : CoordinatorConfig) (governor : GovernorConfig) (world : σ)
    (process : Process) (now : Millis) :
    (started api config governor world process now).governor.epoch.valid = true ∧
      (started api config governor world process now).connections = [] ∧
      ∀ p, credentials (started api config governor world process now).governor p = none := by
  obtain ⟨hepoch, hpub⟩ := recovered_spec api governor world process now
  have hnone : ∀ p, credentials (Operations.recovered api governor world process now) p = none := by
    intro p
    unfold credentials Governor.findPublisher
    rw [hpub]
    rfl
  unfold started Coordination.start
  generalize Operations.recovered api governor world process now = g at hepoch hpub hnone ⊢
  rcases installEpoch_cases (g := g) g.epoch g.boot 0 with
    ⟨e, g', hout, hsame, -⟩ | ⟨g', hout, -, -, hg', hpub', -⟩
  · rw [hout]
    refine ⟨hsame.epoch ▸ hepoch, rfl, fun p ↦ ?_⟩
    exact (congrArg (Option.map credentialsOf) (hsame.find p)).trans (hnone p)
  · rw [hout]
    refine ⟨hg' ▸ hepoch, rfl, fun p ↦ ?_⟩
    unfold credentials Governor.findPublisher
    dsimp only
    rw [hpub', Publishers.findPublisher_fenceAll, hpub]
    rfl

theorem accounted_of_run (h : CoordinatorRun api config governor world process start past c) :
    Accounted past c := by
  refine Run.invariant ?_ (fun past c act hacc ↦ hacc.effect (Sessions.effect api act c)) h
  obtain ⟨hepoch, hconn, -⟩ := started_spec api config governor world process start
  refine ⟨?_, hepoch, by simp⟩
  intro i p hp
  unfold holder at hp
  rw [hconn] at hp
  cases hp

end Run

end HotspotGovernor.Sessions
