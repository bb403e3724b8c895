import HotspotGovernor.Fencing

namespace HotspotGovernor.Entitlement

open Foundation Topology Evidence Decisions Durable Framing Registry Governance
open Admission Operations Effects Fencing Lib.Trace

variable {σ : Type}

def Accepted (e : Event Op Reply (Governor σ)) (f : Frame) : Prop :=
  ∃ now report, e.op = .admitFrame f now ∧ e.out = .report (.ok report)

/-- The call neither registers, nor buries, nor accepts a frame of the publisher. -/
structure Aside (e : Event Op Reply (Governor σ)) (publisher : PublisherId) : Prop where
  enrolled : ∀ hello, Enrolled e hello → hello.publisher ≠ publisher
  buried : ¬ Buried e publisher
  accepted : ∀ f, Accepted e f → f.header.publisher ≠ publisher

/-- How the record of a publisher moves when one of its frames is accepted. -/
structure Advances (f : FrameHeader) (s s' : PublisherState) : Prop where
  incarnation : f.incarnation = s.incarnation ∧ s'.incarnation = s.incarnation
  boot : f.boot = s.boot ∧ s'.boot = s.boot
  alive : s.alive = true ∧ s'.alive = true
  epoch : s'.epoch = s.epoch
  newer : f.sequence = 0 ∨ s.lastSequence < f.sequence
  sequence : s'.lastSequence = if f.sequence ≠ 0 then f.sequence else s.lastSequence
  streams : s'.streamGenerations = s.streamGenerations ∧ streamOf f.type = .unknown ∨
    s.streamGenerations (streamOf f.type) < f.generation ∧
      s'.streamGenerations = Function.update s.streamGenerations (streamOf f.type) f.generation
  counted : s'.accepted = if streamOf f.type = .unknown then s.accepted else satAdd s.accepted 1

inductive Turn (e : Event Op Reply (Governor σ)) (publisher : PublisherId) :
    Option PublisherState → Option PublisherState → Prop
  | aside (entry : Option PublisherState) (h : Aside e publisher) (hepoch : e.after.epoch = e.before.epoch) :
      Turn e publisher entry entry
  | fenced (entry : Option PublisherState) (epoch : CoordinatorEpoch) (now : Millis) (h : Aside e publisher)
      (hle : e.before.epoch ≤ epoch) (hepoch : e.after.epoch = epoch) :
      Turn e publisher entry (entry.map (fun s ↦ s.fence epoch now))
  | enrolled (hello : HelloPayload) (now : Millis) (entry : Option PublisherState) (s' : PublisherState)
      (h : Enrolled e hello) (hp : hello.publisher = publisher)
      (hr : Registers hello e.before.epoch now entry s') (hacc : ∀ f, ¬ Accepted e f)
      (hepoch : e.after.epoch = e.before.epoch) : Turn e publisher entry (some s')
  | buried (s s' : PublisherState) (h : Buried e publisher) (hen : ∀ hello, ¬ Enrolled e hello)
      (hacc : ∀ f, ¬ Accepted e f) (hs' : s' = s ∧ s.alive = false ∨ ∃ now, s' = s.die now)
      (hepoch : e.after.epoch = e.before.epoch) : Turn e publisher (some s) (some s')
  | accepted (f : Frame) (s s' : PublisherState) (h : Accepted e f) (hp : f.header.publisher = publisher)
      (hen : ∀ hello, ¬ Enrolled e hello) (hbur : ¬ Buried e publisher) (hadvance : Advances f.header s s')
      (hepoch : e.after.epoch = e.before.epoch) : Turn e publisher (some s) (some s')

section Events

variable {e : Event Op Reply (Governor σ)} {publisher : PublisherId}

theorem Accepted.unique {f f' : Frame} (h : Accepted e f) (h' : Accepted e f') : f = f' := by
  obtain ⟨now, report, hop, -⟩ := h
  obtain ⟨now', report', hop', -⟩ := h'
  rw [hop] at hop'
  exact (Op.admitFrame.inj hop').1

theorem Accepted.admission {f : Frame} (h : Accepted e f) : (∀ hello, ¬ Enrolled e hello) ∧
    ∀ publisher, ¬ Buried e publisher := by
  obtain ⟨now, report, hop, -⟩ := h
  constructor
  · intro hello hen
    obtain ⟨_, _, hop', -⟩ := hen
    cases hop.symm.trans hop'
  · intro publisher hbur
    obtain ⟨_, hop', -⟩ := hbur
    cases hop.symm.trans hop'

theorem Accepted.aside {f : Frame} (h : Accepted e f) (hne : publisher ≠ f.header.publisher) :
    Aside e publisher := by
  obtain ⟨hen, hbur⟩ := h.admission
  refine ⟨fun hello hello' ↦ absurd hello' (hen hello), hbur publisher, fun f' hf' ↦ ?_⟩
  rw [hf'.unique h]
  exact Ne.symm hne

theorem aside_of_silent (hen : ∀ hello, ¬ Enrolled e hello) (hbur : ¬ Buried e publisher)
    (hacc : ∀ f, ¬ Accepted e f) : Aside e publisher :=
  ⟨fun hello h ↦ absurd h (hen hello), hbur, fun f h ↦ absurd h (hacc f)⟩

end Events

variable {api : StoreApi σ} {g g' : Governor σ} {past : Fencing.History σ} {publisher : PublisherId}

theorem turn_installEpoch (epoch : CoordinatorEpoch) (boot : BootId) (now : Millis) (hv : g.epoch.valid = true) :
    Turn (event (step api) (.installEpoch epoch boot now) g) publisher (g.findPublisher publisher)
      ((g.installEpoch api epoch boot now).2.findPublisher publisher) := by
  have haside : Aside (event (step api) (.installEpoch epoch boot now) g) publisher := by
    refine aside_of_silent ?_ ?_ ?_
    · intro hello h
      obtain ⟨_, _, hop, -⟩ := h
      cases hop
    · intro h
      obtain ⟨_, hop, -⟩ := h
      cases hop
    · intro f h
      obtain ⟨_, _, hop, -⟩ := h
      cases hop
  rcases @installEpoch_cases σ api g epoch boot now with
    ⟨e, g', hout, hsame, -⟩ | ⟨g', hout, -, hle, hepoch, hpub, -⟩
  · have hafter : (event (step api) (.installEpoch epoch boot now) g).after.epoch = g.epoch :=
      (congrArg (fun out : Status × Governor σ ↦ out.2.epoch) hout).trans hsame.epoch
    rw [hout, hsame.find]
    exact .aside _ haside hafter
  · have hafter : (event (step api) (.installEpoch epoch boot now) g).after.epoch = epoch :=
      (congrArg (fun out : Status × Governor σ ↦ out.2.epoch) hout).trans hepoch
    have hfind : g'.findPublisher publisher = (g.findPublisher publisher).map (fun s ↦ s.fence epoch now) := by
      unfold Governor.findPublisher
      rw [hpub, Publishers.findPublisher_fenceAll]
    rw [hout, hfind]
    exact .fenced _ epoch now haside (hle hv) hafter

theorem turn_registerPublisher (hello : HelloPayload) (now : Millis) :
    Turn (event (step api) (.registerPublisher hello now) g) publisher (g.findPublisher publisher)
      ((g.registerPublisher hello now).2.findPublisher publisher) := by
  have hacc : ∀ f, ¬ Accepted (event (step api) (.registerPublisher hello now) g) f := by
    intro f h
    obtain ⟨_, _, hop, -⟩ := h
    cases hop
  have hbur : ∀ publisher, ¬ Buried (event (step api) (.registerPublisher hello now) g) publisher := by
    intro publisher h
    obtain ⟨_, hop, -⟩ := h
    cases hop
  rcases @registerPublisher_cases σ g hello now with
    ⟨e, g', hout, hsame⟩ | ⟨w, g', hout, -, honly, s', hs', hreg⟩
  · have hfail : ∀ hello', ¬ Enrolled (event (step api) (.registerPublisher hello now) g) hello' := by
      intro hello' h
      obtain ⟨_, _, -, hw⟩ := h
      have hreply : (event (step api) (.registerPublisher hello now) g).out = .welcome (.error e) :=
        congrArg (fun out : Result WelcomePayload × Governor σ ↦ Reply.welcome out.1) hout
      rw [hreply] at hw
      cases hw
    have hafter : (event (step api) (.registerPublisher hello now) g).after.epoch = g.epoch :=
      (congrArg (fun out : Result WelcomePayload × Governor σ ↦ out.2.epoch) hout).trans hsame.epoch
    rw [hout, hsame.find]
    exact .aside _ (aside_of_silent hfail (hbur publisher) hacc) hafter
  · have hen : Enrolled (event (step api) (.registerPublisher hello now) g) hello :=
      ⟨now, w, rfl, congrArg (fun out : Result WelcomePayload × Governor σ ↦ Reply.welcome out.1) hout⟩
    have hafter : (event (step api) (.registerPublisher hello now) g).after.epoch = g.epoch :=
      (congrArg (fun out : Result WelcomePayload × Governor σ ↦ out.2.epoch) hout).trans honly.epoch
    rw [hout]
    by_cases hne : publisher = hello.publisher
    · rw [hne, hs']
      exact .enrolled hello now _ s' hen rfl hreg hacc hafter
    · rw [honly.others publisher hne]
      refine .aside _ ⟨?_, hbur publisher, fun f hf ↦ absurd hf (hacc f)⟩ hafter
      intro hello' h
      obtain ⟨_, _, hop, -⟩ := h
      cases hop
      exact Ne.symm hne

theorem turn_notePublisherDeath (dead : PublisherId) (now : Millis) :
    Turn (event (step api) (.notePublisherDeath dead now) g) publisher (g.findPublisher publisher)
      ((g.notePublisherDeath api dead now).2.findPublisher publisher) := by
  have hacc : ∀ f, ¬ Accepted (event (step api) (.notePublisherDeath dead now) g) f := by
    intro f h
    obtain ⟨_, _, hop, -⟩ := h
    cases hop
  have hen : ∀ hello, ¬ Enrolled (event (step api) (.notePublisherDeath dead now) g) hello := by
    intro hello h
    obtain ⟨_, _, hop, -⟩ := h
    cases hop
  rcases @notePublisherDeath_cases σ api g dead now with
    ⟨e, g', hout, hsame, -, -⟩ | ⟨s, g', s', hout, hs, honly, hs', hdead, hcase, -, -⟩
  · have hfail : ∀ p, ¬ Buried (event (step api) (.notePublisherDeath dead now) g) p := by
      intro p h
      obtain ⟨_, -, hst⟩ := h
      have hreply : (event (step api) (.notePublisherDeath dead now) g).out = .status (.error e) :=
        congrArg (fun out : Status × Governor σ ↦ Reply.status out.1) hout
      rw [hreply] at hst
      cases hst
    have hafter : (event (step api) (.notePublisherDeath dead now) g).after.epoch = g.epoch :=
      (congrArg (fun out : Status × Governor σ ↦ out.2.epoch) hout).trans hsame.epoch
    rw [hout, hsame.find]
    exact .aside _ (aside_of_silent hen (hfail publisher) hacc) hafter
  · have hafter : (event (step api) (.notePublisherDeath dead now) g).after.epoch = g.epoch :=
      (congrArg (fun out : Status × Governor σ ↦ out.2.epoch) hout).trans honly.epoch
    have hreply : (event (step api) (.notePublisherDeath dead now) g).out = .status (.ok ()) :=
      congrArg (fun out : Status × Governor σ ↦ Reply.status out.1) hout
    rw [hout]
    by_cases hne : publisher = dead
    · rw [hne, hs, hs']
      refine .buried s s' ⟨now, rfl, hreply⟩ hen hacc ?_ hafter
      rcases hcase with rfl | hdie
      · exact Or.inl ⟨rfl, hdead⟩
      · exact Or.inr ⟨now, hdie⟩
    · rw [honly.others publisher hne]
      refine .aside _ (aside_of_silent hen ?_ hacc) hafter
      intro h
      obtain ⟨_, hop, -⟩ := h
      cases hop
      exact hne rfl

theorem turn_refused {f : Frame} {now : Millis} {e : Failure} (hepoch : g'.epoch = g.epoch)
    (hpub : g'.publishers = g.publishers) :
    Turn (⟨g, .admitFrame f now, .report (.error e), g'⟩ : Event Op Reply (Governor σ)) publisher
      (g.findPublisher publisher) (g'.findPublisher publisher) := by
  have hfind : g'.findPublisher publisher = g.findPublisher publisher :=
    congrArg (fun r ↦ Publishers.findPublisher r publisher) hpub
  rw [hfind]
  refine .aside _ (aside_of_silent ?_ ?_ ?_) hepoch
  · intro hello h
    obtain ⟨_, _, hop, -⟩ := h
    cases hop
  · intro h
    obtain ⟨_, hop, -⟩ := h
    cases hop
  · intro f' h
    obtain ⟨_, _, -, hout⟩ := h
    cases hout

theorem turn_accepted {f : Frame} {now : Millis} {report : AdmissionReport} {s : PublisherState}
    (move : PublisherState → PublisherState) (hmove : ∀ p, (move p).id = p.id)
    (hs : g.findPublisher f.header.publisher = some s) (hepoch : g'.epoch = g.epoch)
    (hpub : g'.publishers = g.publishers.modify f.header.publisher move hmove)
    (hadvance : Advances f.header s (move s)) :
    Turn (⟨g, .admitFrame f now, .report (.ok report), g'⟩ : Event Op Reply (Governor σ)) publisher
      (g.findPublisher publisher) (g'.findPublisher publisher) := by
  have hacc : Accepted (⟨g, .admitFrame f now, .report (.ok report), g'⟩ : Event Op Reply (Governor σ)) f :=
    ⟨now, report, rfl, rfl⟩
  by_cases hne : publisher = f.header.publisher
  · obtain ⟨hen, hbur⟩ := hacc.admission
    rw [hne, hs, find_modify move hmove hs hpub]
    exact .accepted f s (move s) hacc rfl hen (hbur _) hadvance hepoch
  · rw [(onlyPublisher_modify move hmove hepoch hpub).others publisher hne]
    exact .aside _ (hacc.aside hne) hepoch

theorem advances_beat {f : Frame} {p : PublisherState} (now : Millis) (hb : Beats f g p) :
    Advances f.header p (p.beat f.header.sequence now) := by
  obtain ⟨-, hinc, hboot, halive, hseq⟩ := authorizeHeartbeat_eq_ok.mp hb.fenced
  have hunknown : streamOf f.header.type = .unknown := by
    rw [hb.heartbeat]
    rfl
  exact ⟨⟨hinc, rfl⟩, ⟨hboot, rfl⟩, ⟨halive, halive⟩, rfl, hseq, rfl,
    Or.inl ⟨rfl, hunknown⟩, (if_pos hunknown).symm⟩

theorem ne_zero_of_lt {a b : UInt64} (h : a < b) : b ≠ 0 := by
  intro hzero
  rw [hzero] at h
  exact absurd h (UInt64.not_lt.mpr UInt64.zero_le)

theorem advances_apply {f : Frame} {p : PublisherState} (now : Millis) (hp : Authorized f g p)
    (hseq : sequenced p f.header = .ok ()) :
    Advances f.header p (p.apply (streamOf f.header.type) f.header now) := by
  obtain ⟨hstream, -, -, -, hinc, hboot, halive⟩ := authorize_eq_ok.mp hp.fenced
  rw [sequenced_eq_ok] at hseq
  refine ⟨⟨hinc, rfl⟩, ⟨hboot, rfl⟩, ⟨halive, rfl⟩, rfl, Or.inr hseq.1, ?_,
    Or.inr ⟨hseq.2.2, rfl⟩, (if_neg hstream).symm⟩
  rw [if_pos (ne_zero_of_lt hseq.1)]
  rfl

theorem turn_applied (hfenced : Fenced past g) {f : Frame} {now : Millis} {report : AdmissionReport}
    {p : PublisherState} (hp : Authorized f g p) (hseq : sequenced (p.enter g.epoch) f.header = .ok ())
    (hepoch : g'.epoch = g.epoch)
    (hpub : g'.publishers = (g.enterPublisher f.header.publisher).publishers.modify f.header.publisher
      (fun p ↦ p.apply (streamOf f.header.type) f.header now) (fun _ ↦ rfl)) :
    Turn (⟨g, .admitFrame f now, .report (.ok report), g'⟩ : Event Op Reply (Governor σ)) publisher
      (g.findPublisher publisher) (g'.findPublisher publisher) := by
  obtain ⟨-, -, -, hs, -, -, halive⟩ := authorize_eq_ok.mp hp.fenced
  rw [p.enter_eq_self (hfenced.epoch_eq hs halive)] at hseq
  rw [hfenced.entered hp] at hpub
  exact turn_accepted (fun p ↦ p.apply (streamOf f.header.type) f.header now) (fun _ ↦ rfl) hs hepoch hpub
    (advances_apply now hp hseq)

theorem turn_admitFrame (hfenced : Fenced past g) (f : Frame) (now : Millis) :
    Turn (event (step api) (.admitFrame f now) g) publisher (g.findPublisher publisher)
      ((g.admitFrame f now).2.findPublisher publisher) := by
  have h := admits f now g
  change Turn (⟨g, .admitFrame f now, .report (g.admitFrame f now).1, (g.admitFrame f now).2⟩ :
    Event Op Reply (Governor σ)) publisher _ _
  generalize g.admitFrame f now = out at h ⊢
  cases h with
  | unauthorized e m hs hb => exact turn_refused rfl rfl
  | undecoded p e m hp hd => exact turn_refused rfl (hfenced.entered hp)
  | unresolved p s n e m hp hd hv => exact turn_refused rfl (hfenced.entered hp)
  | heartbeat p m hb =>
    exact turn_accepted (fun p ↦ p.beat f.header.sequence now) (fun _ ↦ rfl)
      (authorizeHeartbeat_eq_ok.mp hb.fenced).1 rfl rfl (advances_beat now hb)
  | applied p s n m hp hd hv => exact turn_applied hfenced hp hd.ordered rfl rfl

theorem turn_of_step (hfenced : Fenced past g) (op : Op) :
    Turn (event (step api) op g) publisher (g.findPublisher publisher)
      ((step api op g).2.findPublisher publisher) := by
  have hquiet : ∀ {g'}, SameAuthority g g' → (∀ hello now, op ≠ .registerPublisher hello now) →
      (∀ p now, op ≠ .notePublisherDeath p now) → (∀ f now, op ≠ .admitFrame f now) →
      (event (step api) op g).after = g' →
      Turn (event (step api) op g) publisher (g.findPublisher publisher) (g'.findPublisher publisher) := by
    intro g' hsame hr hd ha hafter
    rw [hsame.find]
    refine .aside _ (aside_of_silent ?_ ?_ ?_) ((congrArg Governor.epoch hafter).trans hsame.epoch)
    · intro hello h
      obtain ⟨now, _, hop, -⟩ := h
      exact hr hello now hop
    · intro h
      obtain ⟨now, hop, -⟩ := h
      exact hd publisher now hop
    · intro f h
      obtain ⟨now, _, hop, -⟩ := h
      exact ha f now hop
  cases op with
  | installEpoch epoch boot now => exact turn_installEpoch epoch boot now hfenced.epoch
  | registerPublisher hello now => exact turn_registerPublisher hello now
  | notePublisherDeath dead now => exact turn_notePublisherDeath dead now
  | admitFrame f now => exact turn_admitFrame hfenced f now
  | evaluate now => exact hquiet (evaluate_same now) (by simp) (by simp) (by simp) rfl
  | commitDurable now => exact hquiet (commitDurable_same now) (by simp) (by simp) (by simp) rfl

section

variable (past : Fencing.History σ) (epoch : CoordinatorEpoch) (publisher : PublisherId)

def Covers (s : PublisherState) (f : FrameHeader) : Prop :=
  s.epoch = epoch ∧ f.sequence ≤ s.lastSequence ∧
    (streamOf f.type ≠ .unknown → f.generation ≤ s.streamGenerations (streamOf f.type))

/-- A number in the record is nothing yet, or that of a frame accepted under this epoch. -/
def Grounded (s : PublisherState) (number : UInt64) (of : FrameHeader → UInt64)
    (kind : FrameHeader → Prop) : Prop :=
  number = 0 ∨ ∃ e ∈ past, ∃ f, Accepted e f ∧ f.header.publisher = publisher ∧
    f.header.incarnation = s.incarnation ∧ e.before.epoch = epoch ∧ kind f.header ∧ of f.header = number

/-- The record of a publisher is what the history makes of it. -/
structure Exact (entry : Option PublisherState) : Prop where
  session : ∀ hello r since, Latest past publisher hello r since → ∃ s, entry = some s ∧
    s.incarnation = hello.incarnation ∧ s.boot = hello.boot ∧
    (r.before.epoch = epoch → (∀ x ∈ since, ¬ Buried x publisher) → s.alive = true)
  covers : ∀ e ∈ past, ∀ f, Accepted e f → f.header.publisher = publisher → ∃ s, entry = some s ∧
    f.header.incarnation ≤ s.incarnation ∧
    (e.before.epoch = epoch → f.header.incarnation = s.incarnation → Covers epoch s f.header)
  entered : ∀ s, entry = some s → s.epoch ≤ epoch ∧ (s.alive = true → s.epoch = epoch)
  sequence : ∀ s, entry = some s →
    Grounded past epoch publisher s s.lastSequence FrameHeader.sequence (fun _ ↦ True)
  streams : ∀ s, entry = some s → ∀ stream, stream ≠ .unknown →
    Grounded past epoch publisher s (s.streamGenerations stream) FrameHeader.generation (streamOf ·.type = stream)

end

variable {e : Event Op Reply (Governor σ)} {epoch : CoordinatorEpoch} {entry entry' : Option PublisherState}
  {s s' : PublisherState} {hello : HelloPayload} {r : Event Op Reply (Governor σ)} {since : Fencing.History σ}

theorem latest_of_snoc (h : Latest (past ++ [e]) publisher hello r since)
    (hen : ∀ hello, Enrolled e hello → hello.publisher ≠ publisher) :
    ∃ earlier, since = earlier ++ [e] ∧ Latest past publisher hello r earlier := by
  obtain ⟨before, hsplit⟩ := h.split
  rcases append_singleton_eq.mp hsplit with ⟨-, rfl, -⟩ | ⟨earlier, rfl, hpast⟩
  · exact absurd h.named (hen hello h.enrolled)
  · exact ⟨earlier, rfl, ⟨before, hpast⟩, h.enrolled, h.named,
      fun x hx ↦ h.newest x (List.mem_append_left _ hx)⟩

theorem enrolled_unique {other : HelloPayload} (h : Enrolled e hello) (h' : Enrolled e other) : hello = other := by
  obtain ⟨_, _, hop, -⟩ := h
  obtain ⟨_, _, hop', -⟩ := h'
  rw [hop] at hop'
  exact (Op.registerPublisher.inj hop').1

theorem latest_of_new {other : HelloPayload} (h : Latest (past ++ [e]) other.publisher hello r since)
    (hen : Enrolled e other) : hello = other ∧ r = e ∧ since = [] := by
  obtain ⟨before, hsplit⟩ := h.split
  rcases append_singleton_eq.mp hsplit with ⟨-, rfl, rfl⟩ | ⟨earlier, rfl, -⟩
  · exact ⟨enrolled_unique h.enrolled hen, rfl, rfl⟩
  · exact absurd rfl (h.newest e (by simp) other hen)

variable {number : UInt64} {of : FrameHeader → UInt64} {kind : FrameHeader → Prop}

theorem Grounded.mono (h : Grounded past epoch publisher s number of kind) (hi : s'.incarnation = s.incarnation) :
    Grounded (past ++ [e]) epoch publisher s' number of kind := by
  rcases h with hzero | ⟨x, hx, f, hf, hp, hinc, hepoch, hkind, hnumber⟩
  · exact Or.inl hzero
  · exact Or.inr ⟨x, List.mem_append_left _ hx, f, hf, hp, hinc.trans hi.symm, hepoch, hkind, hnumber⟩

theorem Grounded.here {f : Frame} (hf : Accepted e f) (hp : f.header.publisher = publisher)
    (hinc : f.header.incarnation = s.incarnation) (hepoch : e.before.epoch = epoch) (hkind : kind f.header) :
    Grounded (past ++ [e]) epoch publisher s (of f.header) of kind :=
  Or.inr ⟨e, by simp, f, hf, hp, hinc, hepoch, hkind, rfl⟩

theorem Exact.aside (h : Exact past epoch publisher entry) (he : Aside e publisher) :
    Exact (past ++ [e]) epoch publisher entry := by
  refine ⟨?_, ?_, h.entered, ?_, ?_⟩
  · intro hello r since hlatest
    obtain ⟨earlier, rfl, hearlier⟩ := latest_of_snoc hlatest he.enrolled
    obtain ⟨s, hs, hi, hb, halive⟩ := h.session hello r earlier hearlier
    exact ⟨s, hs, hi, hb, fun hr hq ↦ halive hr fun x hx ↦ hq x (List.mem_append_left _ hx)⟩
  · intro x hx f hf hp
    rcases List.mem_append.mp hx with hx | hx
    · exact h.covers x hx f hf hp
    · rw [List.mem_singleton.mp hx] at hf
      exact absurd hp (he.accepted f hf)
  · intro s hs
    exact (h.sequence s hs).mono rfl
  · intro s hs stream hstream
    exact (h.streams s hs stream hstream).mono rfl

theorem fence_cases (s : PublisherState) (epoch : CoordinatorEpoch) (now : Millis) :
    s.epoch = epoch ∧ s.fence epoch now = s ∨ s.epoch ≠ epoch ∧ (s.fence epoch now).epoch = s.epoch ∧
      (s.fence epoch now).alive = false ∧ (s.fence epoch now).lastSequence = 0 ∧
      (s.fence epoch now).streamGenerations = fun _ ↦ 0 := by
  unfold PublisherState.fence
  split
  · next hne => exact Or.inr ⟨hne, rfl, rfl, rfl, rfl⟩
  · next heq => exact Or.inl ⟨not_not.mp heq, rfl⟩

theorem fence_same (s : PublisherState) (epoch : CoordinatorEpoch) (now : Millis) :
    (s.fence epoch now).incarnation = s.incarnation ∧ (s.fence epoch now).boot = s.boot := by
  unfold PublisherState.fence
  split <;> exact ⟨rfl, rfl⟩

theorem Exact.fenced {epoch' : CoordinatorEpoch} (h : Exact past epoch publisher entry)
    (hpast : ∀ x ∈ past, x.before.epoch ≤ epoch) (hle : epoch ≤ epoch') (now : Millis) :
    Exact past epoch' publisher (entry.map (fun s ↦ s.fence epoch' now)) := by
  have hback : ∀ {x : Event Op Reply (Governor σ)}, x ∈ past → x.before.epoch = epoch' → epoch' = epoch :=
    fun hx he ↦ le_antisymm (he ▸ hpast _ hx) hle
  refine ⟨?_, ?_, ?_, ?_, ?_⟩
  · intro hello r since hlatest
    obtain ⟨s, hs, hi, hb, halive⟩ := h.session hello r since hlatest
    obtain ⟨hsi, hsb⟩ := fence_same s epoch' now
    refine ⟨_, by rw [hs]; rfl, hsi.trans hi, hsb.trans hb, ?_⟩
    intro hr hq
    obtain ⟨earlier, hsplit⟩ := hlatest.split
    have hepoch : epoch' = epoch := hback (by simp [hsplit]) hr
    have hlive := halive (hr.trans hepoch) hq
    rcases fence_cases s epoch' now with ⟨-, hsame⟩ | ⟨hne, -⟩
    · rw [hsame]
      exact hlive
    · exact absurd (((h.entered s hs).2 hlive).trans hepoch.symm) hne
  · intro x hx f hf hp
    obtain ⟨s, hs, hi, hcovers⟩ := h.covers x hx f hf hp
    obtain ⟨hsi, -⟩ := fence_same s epoch' now
    refine ⟨_, by rw [hs]; rfl, hsi.symm ▸ hi, ?_⟩
    intro hxe hinc
    have hepoch := hback hx hxe
    have hold := hcovers (hxe.trans hepoch) (hinc.trans hsi)
    rcases fence_cases s epoch' now with ⟨-, hsame⟩ | ⟨hne, -⟩
    · rw [hsame, hepoch]
      exact hold
    · exact absurd (hold.1.trans hepoch.symm) hne
  · intro s' hs'
    obtain ⟨s, hs, rfl⟩ := Option.map_eq_some_iff.mp hs'
    rcases fence_cases s epoch' now with ⟨hse, hsame⟩ | ⟨-, hse, hdead, -⟩
    · rw [hsame]
      exact ⟨hse.le, fun _ ↦ hse⟩
    · rw [hse, hdead]
      exact ⟨(h.entered s hs).1.trans hle, nofun⟩
  · intro s' hs'
    obtain ⟨s, hs, rfl⟩ := Option.map_eq_some_iff.mp hs'
    rcases fence_cases s epoch' now with ⟨hse, hsame⟩ | ⟨-, -, -, hzero, -⟩
    · have hepoch : epoch = epoch' := le_antisymm hle (hse ▸ (h.entered s hs).1)
      rw [hsame, ← hepoch]
      exact h.sequence s hs
    · exact Or.inl hzero
  · intro s' hs' stream hstream
    obtain ⟨s, hs, rfl⟩ := Option.map_eq_some_iff.mp hs'
    rcases fence_cases s epoch' now with ⟨hse, hsame⟩ | ⟨-, -, -, -, hzero⟩
    · have hepoch : epoch = epoch' := le_antisymm hle (hse ▸ (h.entered s hs).1)
      rw [hsame, ← hepoch]
      exact h.streams s hs stream hstream
    · exact Or.inl (congrFun hzero stream)

theorem Exact.enrolled (h : Exact past epoch publisher entry) {hello : HelloPayload} {now : Millis}
    (he : Enrolled e hello) (hp : hello.publisher = publisher) (hr : Registers hello epoch now entry s')
    (hacc : ∀ f, ¬ Accepted e f) : Exact (past ++ [e]) epoch publisher (some s') := by
  have hnew : s'.incarnation = hello.incarnation ∧ s'.boot = hello.boot ∧ s'.epoch = epoch ∧ s'.alive = true := by
    cases hr with
    | enroll => exact ⟨rfl, rfl, rfl, rfl⟩
    | refresh s hi hb => exact ⟨hi.symm, hb.symm, rfl, rfl⟩
    | supersede s hi => exact ⟨rfl, rfl, rfl, rfl⟩
  refine ⟨?_, ?_, ?_, ?_, ?_⟩
  · intro hello' r since hlatest
    rw [← hp] at hlatest
    obtain ⟨rfl, -, -⟩ := latest_of_new hlatest he
    exact ⟨s', rfl, hnew.1, hnew.2.1, fun _ _ ↦ hnew.2.2.2⟩
  · intro x hx f hf hpub
    rcases List.mem_append.mp hx with hx | hx
    · obtain ⟨s, hs, hi, hcovers⟩ := h.covers x hx f hf hpub
      refine ⟨s', rfl, ?_⟩
      cases hr with
      | enroll => cases hs
      | refresh old hi' hb =>
        obtain rfl := Option.some.inj hs
        exact ⟨hi, fun hxe hinc ↦ ⟨rfl, (hcovers hxe hinc).2⟩⟩
      | supersede old hi' =>
        obtain rfl := Option.some.inj hs
        exact ⟨hi.trans hi'.le, fun _ hinc ↦ absurd (hinc.symm.le.trans hi) (not_le.mpr hi')⟩
    · rw [List.mem_singleton.mp hx] at hf
      exact absurd hf (hacc f)
  · intro s hs
    rw [← Option.some.inj hs]
    exact ⟨hnew.2.2.1.le, fun _ ↦ hnew.2.2.1⟩
  · intro s hs
    obtain rfl := Option.some.inj hs
    cases hr with
    | enroll => exact Or.inl rfl
    | refresh old hi hb => exact (h.sequence old rfl).mono rfl
    | supersede old hi => exact Or.inl rfl
  · intro s hs stream hstream
    obtain rfl := Option.some.inj hs
    cases hr with
    | enroll => exact Or.inl rfl
    | refresh old hi hb => exact (h.streams old rfl stream hstream).mono rfl
    | supersede old hi => exact Or.inl rfl

theorem Exact.buried (h : Exact past epoch publisher (some s)) (he : Buried e publisher)
    (hen : ∀ hello, ¬ Enrolled e hello) (hacc : ∀ f, ¬ Accepted e f)
    (hs' : s' = s ∧ s.alive = false ∨ ∃ now, s' = s.die now) : Exact (past ++ [e]) epoch publisher (some s') := by
  have hsame : s'.incarnation = s.incarnation ∧ s'.boot = s.boot ∧ s'.epoch = s.epoch ∧
      s'.lastSequence = s.lastSequence ∧ s'.streamGenerations = s.streamGenerations ∧ s'.alive = false := by
    rcases hs' with ⟨rfl, hdead⟩ | ⟨now, rfl⟩
    · exact ⟨rfl, rfl, rfl, rfl, rfl, hdead⟩
    · exact ⟨rfl, rfl, rfl, rfl, rfl, rfl⟩
  obtain ⟨hi, hb, hepoch, hseq, hgen, hdead⟩ := hsame
  refine ⟨?_, ?_, ?_, ?_, ?_⟩
  · intro hello r since hlatest
    obtain ⟨earlier, rfl, hearlier⟩ := latest_of_snoc hlatest fun hello hello' ↦ absurd hello' (hen hello)
    obtain ⟨s₀, hs₀, hi₀, hb₀, -⟩ := h.session hello r earlier hearlier
    obtain rfl := Option.some.inj hs₀
    exact ⟨s', rfl, hi.trans hi₀, hb.trans hb₀, fun _ hq ↦ absurd he (hq e (by simp))⟩
  · intro x hx f hf hp
    rcases List.mem_append.mp hx with hx | hx
    · obtain ⟨s₀, hs₀, hi₀, hcovers⟩ := h.covers x hx f hf hp
      obtain rfl := Option.some.inj hs₀
      refine ⟨s', rfl, hi.symm ▸ hi₀, fun hxe hinc ↦ ?_⟩
      have hold := hcovers hxe (hinc.trans hi)
      unfold Covers
      rw [hepoch, hseq, hgen]
      exact hold
    · rw [List.mem_singleton.mp hx] at hf
      exact absurd hf (hacc f)
  · intro s₀ hs₀
    rw [← Option.some.inj hs₀, hepoch, hdead]
    exact ⟨(h.entered s rfl).1, nofun⟩
  · intro s₀ hs₀
    rw [← Option.some.inj hs₀, hseq]
    exact (h.sequence s rfl).mono hi
  · intro s₀ hs₀ stream hstream
    rw [← Option.some.inj hs₀, hgen]
    exact (h.streams s rfl stream hstream).mono hi

theorem Covers.advance {f f' : FrameHeader} (h : Covers epoch s f) (ha : Advances f' s s') : Covers epoch s' f := by
  obtain ⟨hepoch, hseq, hgen⟩ := h
  refine ⟨ha.epoch.trans hepoch, ?_, ?_⟩
  · rw [ha.sequence]
    split
    · next hne => exact UInt64.le_trans hseq (UInt64.le_of_lt (ha.newer.resolve_left hne))
    · exact hseq
  · intro hstream
    rcases ha.streams with ⟨hsame, -⟩ | ⟨hlt, hupdate⟩
    · rw [hsame]
      exact hgen hstream
    · rw [hupdate]
      by_cases hf : streamOf f.type = streamOf f'.type
      · rw [hf, Function.update_self]
        have hle := hgen hstream
        rw [hf] at hle
        exact UInt64.le_trans hle (UInt64.le_of_lt hlt)
      · rw [Function.update_of_ne hf]
        exact hgen hstream

theorem Advances.covers {f : FrameHeader} (ha : Advances f s s') (hepoch : s.epoch = epoch) : Covers epoch s' f := by
  refine ⟨ha.epoch.trans hepoch, ?_, ?_⟩
  · rw [ha.sequence]
    split
    · exact UInt64.le_refl _
    · next hzero => rw [not_not.mp hzero]; exact UInt64.zero_le
  · intro hstream
    rcases ha.streams with ⟨-, hunknown⟩ | ⟨-, hupdate⟩
    · exact absurd hunknown hstream
    · rw [hupdate, Function.update_self]
      exact UInt64.le_refl _

theorem Exact.accepted (h : Exact past epoch publisher (some s)) {f : Frame} (he : Accepted e f)
    (hp : f.header.publisher = publisher) (ha : Advances f.header s s') (hbefore : e.before.epoch = epoch) :
    Exact (past ++ [e]) epoch publisher (some s') := by
  obtain ⟨hen, hbur⟩ := he.admission
  have hepoch := (h.entered s rfl).2 ha.alive.1
  have hinc : f.header.incarnation = s'.incarnation := ha.incarnation.1.trans ha.incarnation.2.symm
  refine ⟨?_, ?_, ?_, ?_, ?_⟩
  · intro hello r since hlatest
    obtain ⟨earlier, rfl, hearlier⟩ := latest_of_snoc hlatest fun hello hello' ↦ absurd hello' (hen hello)
    obtain ⟨s₀, hs₀, hi₀, hb₀, -⟩ := h.session hello r earlier hearlier
    obtain rfl := Option.some.inj hs₀
    exact ⟨s', rfl, ha.incarnation.2.trans hi₀, ha.boot.2.trans hb₀, fun _ _ ↦ ha.alive.2⟩
  · intro x hx f' hf' hp'
    rcases List.mem_append.mp hx with hx | hx
    · obtain ⟨s₀, hs₀, hi₀, hcovers⟩ := h.covers x hx f' hf' hp'
      obtain rfl := Option.some.inj hs₀
      exact ⟨s', rfl, ha.incarnation.2.symm ▸ hi₀,
        fun hxe hi ↦ (hcovers hxe (hi.trans ha.incarnation.2)).advance ha⟩
    · rw [List.mem_singleton.mp hx] at hf'
      rw [hf'.unique he]
      exact ⟨s', rfl, hinc.le, fun _ _ ↦ ha.covers hepoch⟩
  · intro s₀ hs₀
    rw [← Option.some.inj hs₀, ha.epoch, hepoch]
    exact ⟨le_rfl, fun _ ↦ rfl⟩
  · intro s₀ hs₀
    rw [← Option.some.inj hs₀, ha.sequence]
    split
    · exact Grounded.here he hp hinc hbefore trivial
    · exact (h.sequence s rfl).mono ha.incarnation.2
  · intro s₀ hs₀ stream hstream
    rw [← Option.some.inj hs₀]
    rcases ha.streams with ⟨hsame, -⟩ | ⟨-, hupdate⟩
    · rw [hsame]
      exact (h.streams s rfl stream hstream).mono ha.incarnation.2
    · rw [hupdate]
      by_cases hf : stream = streamOf f.header.type
      · rw [hf, Function.update_self]
        exact Grounded.here he hp hinc hbefore rfl
      · rw [Function.update_of_ne hf]
        exact (h.streams s rfl stream hstream).mono ha.incarnation.2

/-- The record of every publisher is what the history makes of it, and no epoch of the past is newer
than the installed one. -/
structure Determined (past : Fencing.History σ) (g : Governor σ) : Prop where
  epochs : ∀ x ∈ past, x.before.epoch ≤ g.epoch
  exact : ∀ publisher, Exact past g.epoch publisher (g.findPublisher publisher)

theorem Turn.le (h : Turn e publisher entry entry') : e.before.epoch ≤ e.after.epoch := by
  cases h with
  | aside entry h hepoch => exact hepoch.ge
  | fenced entry epoch now h hle hepoch => exact hle.trans hepoch.ge
  | enrolled hello now entry s' h hp hr hacc hepoch => exact hepoch.ge
  | buried s s' h hen hacc hs' hepoch => exact hepoch.ge
  | accepted f s s' h hp hen hbur ha hepoch => exact hepoch.ge

theorem Exact.turn (h : Exact past e.before.epoch publisher entry)
    (hpast : ∀ x ∈ past, x.before.epoch ≤ e.before.epoch) (ht : Turn e publisher entry entry') :
    Exact (past ++ [e]) e.after.epoch publisher entry' := by
  cases ht with
  | aside entry ha hepoch =>
    rw [hepoch]
    exact h.aside ha
  | fenced entry epoch now ha hle hepoch =>
    rw [hepoch]
    exact (h.fenced hpast hle now).aside ha
  | enrolled hello now entry s' he hp hr hacc hepoch =>
    rw [hepoch]
    exact h.enrolled he hp hr hacc
  | buried s s' hb hen hacc hs' hepoch =>
    rw [hepoch]
    exact h.buried hb hen hacc hs'
  | accepted f s s' hf hp hen hbur ha hepoch =>
    rw [hepoch]
    exact h.accepted hf hp ha rfl

theorem Determined.step (h : Determined past g) (hfenced : Fenced past g) (op : Op) :
    Determined (past ++ [event (Operations.step api) op g]) (Operations.step api op g).2 := by
  have hturn : ∀ publisher, Turn (event (Operations.step api) op g) publisher (g.findPublisher publisher)
      ((Operations.step api op g).2.findPublisher publisher) := fun publisher ↦ turn_of_step hfenced op
  refine ⟨?_, fun publisher ↦ (h.exact publisher).turn h.epochs (hturn publisher)⟩
  intro x hx
  have hle := (hturn default).le
  rcases List.mem_append.mp hx with hx | hx
  · exact (h.epochs x hx).trans hle
  · rw [List.mem_singleton.mp hx]
    exact hle

section Run

variable {config : GovernorConfig} {world : σ} {process : Process} {start : Millis}

theorem determined_of_run (h : GovernorRun api config world process start past g) :
    Fenced past g ∧ Determined past g := by
  refine @Run.invariant _ _ _ _ _ _ _ (fun past g ↦ Fenced past g ∧ Determined past g) ?_ ?_ h
  · refine ⟨fenced_of_run .start, by simp, fun publisher ↦ ?_⟩
    have hnone : (recovered api config world process start).findPublisher publisher = none := by
      unfold Governor.findPublisher
      rw [(recovered_spec api config world process start).2]
      rfl
    rw [hnone]
    refine ⟨?_, by simp, nofun, nofun, nofun⟩
    intro hello r since hlatest
    obtain ⟨earlier, hsplit⟩ := hlatest.split
    simp at hsplit
  · intro past g op hboth
    exact ⟨hboth.1.step op, hboth.2.step hboth.1 op⟩

end Run

section

variable (past : Fencing.History σ) (epoch : CoordinatorEpoch) (f : FrameHeader)

/-- The latest registration of the sender has these credentials, was made under the installed epoch,
and no death was noted since. -/
def InSession : Prop :=
  ∃ hello r since, Latest past f.publisher hello r since ∧ hello.incarnation = f.incarnation ∧
    hello.boot = f.boot ∧ r.before.epoch = epoch ∧ ∀ x ∈ since, ¬ Buried x f.publisher

/-- A frame of the same incarnation that was accepted under the installed epoch. -/
def Earlier (f' : FrameHeader) : Prop :=
  ∃ e ∈ past, ∃ frame, Accepted e frame ∧ frame.header = f' ∧ f'.publisher = f.publisher ∧
    f'.incarnation = f.incarnation ∧ e.before.epoch = epoch

def Ahead : Prop :=
  f.sequence ≠ 0 ∧ f.generation ≠ 0 ∧ ∀ f', Earlier past epoch f f' → f'.sequence < f.sequence ∧
    (streamOf f'.type = streamOf f.type → f'.generation < f.generation)

end

variable {f : FrameHeader}

theorem inSession_iff (hfenced : Fenced past g) (h : Determined past g) : InSession past g.epoch f ↔
    ∃ p, g.findPublisher f.publisher = some p ∧ f.incarnation = p.incarnation ∧ f.boot = p.boot ∧
      p.alive = true := by
  constructor
  · intro hsession
    obtain ⟨hello, r, since, hlatest, hi, hb, hr, hq⟩ := hsession
    obtain ⟨p, hp, hpi, hpb, halive⟩ := (h.exact f.publisher).session hello r since hlatest
    exact ⟨p, hp, hi.symm.trans hpi.symm, hb.symm.trans hpb.symm, halive hr hq⟩
  · intro hfound
    obtain ⟨p, hp, hi, hb, halive⟩ := hfound
    obtain ⟨hello, r, since, hlatest, hpi, hpb, hlive⟩ := (hfenced.consistent f.publisher).standing p hp
    obtain ⟨hr, -, hq⟩ := hlive halive
    exact ⟨hello, r, since, hlatest, hpi.symm.trans hi.symm, hpb.symm.trans hb.symm, hr, hq⟩

theorem Grounded.below (hg : Grounded past epoch f.publisher s number of kind) (hinc : f.incarnation = s.incarnation)
    {bound : UInt64} (hbound : bound ≠ 0)
    (hall : ∀ f', Earlier past epoch f f' → kind f' → of f' < bound) : number < bound := by
  rcases hg with hzero | ⟨e, he, frame, hframe, hp, hi, hepoch, hkind, hnumber⟩
  · rw [hzero]
    exact UInt64.pos_iff_ne_zero.mpr hbound
  · rw [← hnumber]
    exact hall frame.header ⟨e, he, frame, hframe, rfl, hp, hi.trans hinc.symm, hepoch⟩ hkind

theorem newer_iff (h : Determined past g) {p : PublisherState} (hp : g.findPublisher f.publisher = some p)
    (hinc : f.incarnation = p.incarnation) (hs : f.sequence ≠ 0) :
    p.lastSequence < f.sequence ↔ ∀ f', Earlier past g.epoch f f' → f'.sequence < f.sequence := by
  have hexact := h.exact f.publisher
  constructor
  · intro hlt f' hf'
    obtain ⟨e, he, frame, hframe, rfl, hpub, hi, hepoch⟩ := hf'
    obtain ⟨p', hp', -, hcovers⟩ := hexact.covers e he frame hframe hpub
    obtain rfl : p = p' := Option.some.inj (hp.symm.trans hp')
    exact UInt64.lt_of_le_of_lt (hcovers hepoch (hi.trans hinc)).2.1 hlt
  · intro hall
    exact (hexact.sequence p hp).below hinc hs fun f' hf' _ ↦ hall f' hf'

theorem live_iff (h : Determined past g) {p : PublisherState} (hp : g.findPublisher f.publisher = some p)
    (hinc : f.incarnation = p.incarnation) (hstream : streamOf f.type ≠ .unknown) (hgen : f.generation ≠ 0) :
    p.streamGenerations (streamOf f.type) < f.generation ↔
      ∀ f', Earlier past g.epoch f f' → streamOf f'.type = streamOf f.type → f'.generation < f.generation := by
  have hexact := h.exact f.publisher
  constructor
  · intro hlt f' hf' hsame
    obtain ⟨e, he, frame, hframe, rfl, hpub, hi, hepoch⟩ := hf'
    obtain ⟨p', hp', -, hcovers⟩ := hexact.covers e he frame hframe hpub
    obtain rfl : p = p' := Option.some.inj (hp.symm.trans hp')
    have hle := (hcovers hepoch (hi.trans hinc)).2.2 (hsame ▸ hstream)
    rw [hsame] at hle
    exact UInt64.lt_of_le_of_lt hle hlt
  · intro hall
    exact (hexact.streams p hp _ hstream).below hinc hgen fun f' hf' hsame ↦ hall f' hf' hsame

theorem ahead_iff (h : Determined past g) {p : PublisherState} (hp : g.findPublisher f.publisher = some p)
    (hinc : f.incarnation = p.incarnation) (hstream : streamOf f.type ≠ .unknown) :
    sequenced p f = .ok () ↔ Ahead past g.epoch f := by
  rw [sequenced_eq_ok]
  constructor
  · intro hseq
    obtain ⟨hs, hgen, hlive⟩ := hseq
    have hnonzero := ne_zero_of_lt hs
    rw [newer_iff h hp hinc hnonzero] at hs
    rw [live_iff h hp hinc hstream hgen] at hlive
    exact ⟨hnonzero, hgen, fun f' hf' ↦ ⟨hs f' hf', hlive f' hf'⟩⟩
  · intro hahead
    obtain ⟨hs, hgen, hall⟩ := hahead
    rw [newer_iff h hp hinc hs, live_iff h hp hinc hstream hgen]
    exact ⟨fun f' hf' ↦ (hall f' hf').1, hgen, fun f' hf' ↦ (hall f' hf').2⟩

/-- What a frame needs to be accepted, told by the history and the evidence alone. -/
def Admissible (past : Fencing.History σ) (g : Governor σ) (f : Frame) : Prop :=
  verifyPayload f.header f.payload = .ok () ∧ InSession past g.epoch f.header ∧
    if f.header.type = .heartbeat then
      f.header.sequence = 0 ∨ ∀ f', Earlier past g.epoch f.header f' → f'.sequence < f.header.sequence
    else streamOf f.header.type ≠ .unknown ∧ f.header.epoch = g.epoch ∧ Ahead past g.epoch f.header ∧
      ∃ s n, decodeInto g.snapshots f = .ok (s, n) ∧ verifyReferences s = .ok ()

theorem accepted_stream_iff {f : Frame} {now : Millis} (ht : f.header.type ≠ .heartbeat) :
    (∃ report, (g.admitFrame f now).1 = .ok report) ↔ ∃ p, Authorized f g p ∧
      ∃ s n, Decoded f g p s n ∧ verifyReferences s = .ok () := by
  have h := admits f now g
  generalize g.admitFrame f now = out at h ⊢
  cases h with
  | unauthorized e m hs hb => simp [hs]
  | heartbeat p m hb => exact absurd hb.heartbeat ht
  | undecoded p e m hp hd =>
    refine ⟨by simp, ?_⟩
    intro hex
    obtain ⟨q, hq, s, n, hdec, -⟩ := hex
    rw [hp.unique hq] at hd
    exact absurd hdec (hd s n)
  | unresolved p s n e m hp hd hv =>
    refine ⟨by simp, ?_⟩
    intro hex
    obtain ⟨q, hq, s', n', hdec, hv'⟩ := hex
    rw [← hp.unique hq] at hdec
    rw [hd.unique hdec, hv'] at hv
    cases hv
  | applied p s n m hp hd hv => exact ⟨fun _ ↦ ⟨p, hp, s, n, hd, hv⟩, fun _ ↦ ⟨_, rfl⟩⟩

theorem accepted_heartbeat_iff {f : Frame} {now : Millis} (ht : f.header.type = .heartbeat) :
    (∃ report, (g.admitFrame f now).1 = .ok report) ↔ ∃ p, Beats f g p := by
  have h := admits f now g
  generalize g.admitFrame f now = out at h ⊢
  cases h with
  | unauthorized e m hs hb => simp [hb]
  | heartbeat p m hb => exact ⟨fun _ ↦ ⟨p, hb⟩, fun _ ↦ ⟨_, rfl⟩⟩
  | undecoded p e m hp hd => exact absurd ht hp.stream
  | unresolved p s n e m hp hd hv => exact absurd ht hp.stream
  | applied p s n m hp hd hv => exact absurd ht hp.stream

theorem Determined.accepted_iff (hdetermined : Determined past g) (hfenced : Fenced past g) (f : Frame) (now : Millis) :
    (∃ report, (g.admitFrame f now).1 = .ok report) ↔ Admissible past g f := by
  unfold Admissible
  by_cases ht : f.header.type = .heartbeat
  · rw [accepted_heartbeat_iff ht, if_pos ht, inSession_iff hfenced hdetermined]
    constructor
    · intro hbeats
      obtain ⟨p, hb⟩ := hbeats
      obtain ⟨hp, hi, hboot, halive, hseq⟩ := authorizeHeartbeat_eq_ok.mp hb.fenced
      refine ⟨hb.intact, ⟨p, hp, hi, hboot, halive⟩, hseq.imp_right fun hlt ↦ ?_⟩
      exact (newer_iff hdetermined hp hi (ne_zero_of_lt hlt)).mp hlt
    · intro hadmissible
      obtain ⟨hintact, ⟨p, hp, hi, hboot, halive⟩, hseq⟩ := hadmissible
      refine ⟨p, hintact, ht, authorizeHeartbeat_eq_ok.mpr ⟨hp, hi, hboot, halive, ?_⟩⟩
      by_cases hzero : f.header.sequence = 0
      · exact Or.inl hzero
      · exact Or.inr ((newer_iff hdetermined hp hi hzero).mpr (hseq.resolve_left hzero))
  · rw [accepted_stream_iff ht, if_neg ht, inSession_iff hfenced hdetermined]
    constructor
    · intro hauthorized
      obtain ⟨p, hauth, s, n, hdec, hv⟩ := hauthorized
      obtain ⟨hstream, -, hepoch, hp, hi, hboot, halive⟩ := authorize_eq_ok.mp hauth.fenced
      have hseq := hdec.ordered
      rw [p.enter_eq_self (hfenced.epoch_eq hp halive), ahead_iff hdetermined hp hi hstream] at hseq
      exact ⟨hauth.intact, ⟨p, hp, hi, hboot, halive⟩, hstream, hepoch, hseq, s, n, hdec.decoded, hv⟩
    · intro hadmissible
      obtain ⟨hintact, ⟨p, hp, hi, hboot, halive⟩, hstream, hepoch, hahead, s, n, hdecode, hv⟩ := hadmissible
      refine ⟨p, ⟨hintact, ht, authorize_eq_ok.mpr ⟨hstream, hfenced.epoch, hepoch, hp, hi, hboot, halive⟩⟩,
        s, n, ⟨?_, hdecode⟩, hv⟩
      rw [p.enter_eq_self (hfenced.epoch_eq hp halive), ahead_iff hdetermined hp hi hstream]
      exact hahead

section Run

variable {config : GovernorConfig} {world : σ} {process : Process} {start : Millis}

/-- In every run, whether a frame is accepted is a function of what happened before and of the
installed evidence: nothing else in the registry matters. -/
theorem accepted_iff_admissible (h : GovernorRun api config world process start past g) (f : Frame) (now : Millis) :
    (∃ report, (g.admitFrame f now).1 = .ok report) ↔ Admissible past g f := by
  obtain ⟨hfenced, hdetermined⟩ := determined_of_run h
  exact hdetermined.accepted_iff hfenced f now

end Run

open Atomicity in
/-- Capacity for the switch that the one-switch fabric does define is due in the run that installed it. -/
theorem switchCapacity_admissible : ∃ past, GovernorRun noStore {} () ⟨0, 0⟩ 0 past oneSwitchGovernor ∧
    Admissible past oneSwitchGovernor (makeFrame .capacity (sentAs 1 2 1) (capacityPayload 1 1)) := by
  obtain ⟨past, hrun⟩ : ∃ past, GovernorRun noStore {} () ⟨0, 0⟩ 0 past oneSwitchGovernor :=
    Run.exists oneSwitchOps
  have hadmitted : oneSwitchGovernor.admitFrame (makeFrame .capacity (sentAs 1 2 1) (capacityPayload 1 1)) 0 =
      oneSwitchGovernor.countReceived.admitStream
        (makeFrame .capacity (sentAs 1 2 1) (capacityPayload 1 1)) 0 :=
    (admit_makeFrame .capacity (sentAs 1 2 1) (show (capacityPayload 1 1).length ≤ _ by decide) 0
      oneSwitchGovernor).trans (if_neg (by decide))
  refine ⟨past, hrun, (accepted_iff_admissible hrun _ 0).mp ⟨reportOf
    (makeFrame .capacity (sentAs 1 2 1) (capacityPayload 1 1)).header 1, ?_⟩⟩
  rw [hadmitted, oneSwitchGovernor_eq]
  rfl

end HotspotGovernor.Entitlement
