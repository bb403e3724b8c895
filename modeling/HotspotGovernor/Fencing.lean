import HotspotGovernor.Atomicity
import HotspotGovernor.Effects

namespace HotspotGovernor.Fencing

open Foundation Topology Evidence Decisions Durable Framing Registry Governance
open Admission Operations Effects Lib.Trace

variable {σ : Type}

abbrev History (σ : Type) := List (Event Op Reply (Governor σ))

def Enrolled (e : Event Op Reply (Governor σ)) (hello : HelloPayload) : Prop :=
  ∃ now welcome, e.op = .registerPublisher hello now ∧ e.out = .welcome (.ok welcome)

def Buried (e : Event Op Reply (Governor σ)) (publisher : PublisherId) : Prop :=
  ∃ now, e.op = .notePublisherDeath publisher now ∧ e.out = .status (.ok ())

def AcceptedStream (e : Event Op Reply (Governor σ)) (f : Frame) : Prop :=
  f.header.type ≠ .heartbeat ∧ ∃ now report, e.op = .admitFrame f now ∧ e.out = .report (.ok report)

/-- The latest successful registration of a publisher, and what happened after it. -/
structure Latest (past : History σ) (publisher : PublisherId) (hello : HelloPayload)
    (r : Event Op Reply (Governor σ)) (since : History σ) : Prop where
  split : ∃ earlier, past = earlier ++ r :: since
  enrolled : Enrolled r hello
  named : hello.publisher = publisher
  newest : ∀ x ∈ since, ∀ hello', Enrolled x hello' → hello'.publisher ≠ publisher

theorem Latest.snoc {past since : History σ} {publisher : PublisherId} {hello : HelloPayload}
    {r e : Event Op Reply (Governor σ)} (h : Latest past publisher hello r since)
    (he : ∀ hello', Enrolled e hello' → hello'.publisher ≠ publisher) :
    Latest (past ++ [e]) publisher hello r (since ++ [e]) := by
  obtain ⟨earlier, rfl⟩ := h.split
  refine ⟨⟨earlier, by simp⟩, h.enrolled, h.named, ?_⟩
  intro x hx
  rcases List.mem_append.mp hx with hx | hx
  · exact h.newest x hx
  · rw [List.mem_singleton.mp hx]
    exact he

theorem Latest.new {past : History σ} {hello : HelloPayload} {e : Event Op Reply (Governor σ)}
    (he : Enrolled e hello) : Latest (past ++ [e]) hello.publisher hello e [] :=
  ⟨⟨past, rfl⟩, he, rfl, by simp⟩

section

variable (past : History σ) (epoch : CoordinatorEpoch) (publisher : PublisherId)

/-- The record is that of the latest registration, and a live record was registered under the
installed epoch and not noted dead since. -/
def Standing (s : PublisherState) : Prop :=
  ∃ hello r since, Latest past publisher hello r since ∧ s.incarnation = hello.incarnation ∧
    s.boot = hello.boot ∧ (s.alive = true →
      r.before.epoch = epoch ∧ s.epoch = epoch ∧ ∀ x ∈ since, ¬ Buried x publisher)

/-- The record bounds an accepted frame of its own incarnation and of the installed epoch. -/
def Bounds (s : PublisherState) (header : FrameHeader) : Prop :=
  s.epoch = epoch ∧ header.sequence ≤ s.lastSequence ∧
    header.generation ≤ s.streamGenerations (streamOf header.type)

structure Consistent (entry : Option PublisherState) : Prop where
  standing : ∀ s, entry = some s → Standing past epoch publisher s
  history : ∀ e ∈ past, ∀ f, AcceptedStream e f → f.header.publisher = publisher →
    f.header.epoch ≤ epoch ∧ ∃ s, entry = some s ∧ f.header.incarnation ≤ s.incarnation ∧
      (f.header.epoch = epoch → f.header.incarnation = s.incarnation → Bounds epoch s f.header)

end

/-- The invariant of every run: an epoch is installed, and every record agrees with the history. -/
structure Fenced (past : History σ) (g : Governor σ) : Prop where
  epoch : g.epoch.valid = true
  consistent : ∀ publisher, Consistent past g.epoch publisher (g.findPublisher publisher)

variable {past : History σ} {epoch : CoordinatorEpoch} {publisher : PublisherId}
  {entry entry' : Option PublisherState} {s s' : PublisherState} {e : Event Op Reply (Governor σ)}

theorem Standing.snoc (h : Standing past epoch publisher s)
    (hi : s'.incarnation = s.incarnation) (hb : s'.boot = s.boot)
    (hlive : s'.alive = true → s.alive = true ∧ s'.epoch = s.epoch ∧ ¬ Buried e publisher)
    (he : ∀ hello', Enrolled e hello' → hello'.publisher ≠ publisher) :
    Standing (past ++ [e]) epoch publisher s' := by
  obtain ⟨hello, r, since, hl, hinc, hboot, halive⟩ := h
  refine ⟨hello, r, since ++ [e], hl.snoc he, hi.trans hinc, hb.trans hboot, ?_⟩
  intro hs'
  obtain ⟨hs, hepoch, hbur⟩ := hlive hs'
  obtain ⟨hr, hse, hsince⟩ := halive hs
  refine ⟨hr, hepoch.trans hse, ?_⟩
  intro x hx
  rcases List.mem_append.mp hx with hx | hx
  · exact hsince x hx
  · rw [List.mem_singleton.mp hx]
    exact hbur

/-- An event that neither registers, nor buries, nor accepts a stream frame of the publisher. -/
structure Unconcerned (e : Event Op Reply (Governor σ)) (publisher : PublisherId) : Prop where
  enrolled : ∀ hello, Enrolled e hello → hello.publisher ≠ publisher
  buried : ¬ Buried e publisher
  accepted : ∀ f, AcceptedStream e f → f.header.publisher ≠ publisher

theorem Consistent.history_snoc (h : Consistent past epoch publisher entry)
    (he : ∀ f, AcceptedStream e f → f.header.publisher ≠ publisher)
    (hup : ∀ s, entry = some s → ∃ s', entry' = some s' ∧ s.incarnation ≤ s'.incarnation ∧
      ∀ header, s'.incarnation = s.incarnation → Bounds epoch s header → Bounds epoch s' header) :
    ∀ x ∈ past ++ [e], ∀ f, AcceptedStream x f → f.header.publisher = publisher →
      f.header.epoch ≤ epoch ∧ ∃ s', entry' = some s' ∧ f.header.incarnation ≤ s'.incarnation ∧
        (f.header.epoch = epoch → f.header.incarnation = s'.incarnation → Bounds epoch s' f.header) := by
  intro x hx f hf hp
  rcases List.mem_append.mp hx with hx | hx
  · obtain ⟨hle, s, hs, hinc, hbound⟩ := h.history x hx f hf hp
    obtain ⟨s', hs', hmono, hkeep⟩ := hup s hs
    refine ⟨hle, s', hs', hinc.trans hmono, ?_⟩
    intro hepoch heq
    have hsame : s'.incarnation = s.incarnation := le_antisymm (heq ▸ hinc) hmono
    exact hkeep _ hsame (hbound hepoch (heq.trans hsame))
  · rw [List.mem_singleton.mp hx] at hf
    exact absurd hp (he f hf)

theorem Consistent.snoc (h : Consistent past epoch publisher entry) (he : Unconcerned e publisher) :
    Consistent (past ++ [e]) epoch publisher entry := by
  constructor
  · intro s hs
    exact (h.standing s hs).snoc rfl rfl (fun ha ↦ ⟨ha, rfl, he.buried⟩) he.enrolled
  · exact h.history_snoc he.accepted (fun s hs ↦ ⟨s, hs, le_refl _, fun _ _ hb ↦ hb⟩)

variable {api : StoreApi σ} {g g' : Governor σ}

theorem Fenced.of_same (h : Fenced past g) (hsame : SameAuthority g g')
    (he : ∀ publisher, Unconcerned e publisher) : Fenced (past ++ [e]) g' := by
  constructor
  · rw [hsame.epoch]
    exact h.epoch
  · intro publisher
    rw [hsame.epoch, hsame.find]
    exact (h.consistent publisher).snoc (he publisher)

theorem Fenced.of_only (h : Fenced past g) (honly : OnlyPublisher publisher g g')
    (he : ∀ other, other ≠ publisher → Unconcerned e other)
    (hp : Consistent (past ++ [e]) g.epoch publisher (g'.findPublisher publisher)) :
    Fenced (past ++ [e]) g' := by
  constructor
  · rw [honly.epoch]
    exact h.epoch
  · intro other
    rw [honly.epoch]
    by_cases hne : other = publisher
    · rw [hne]
      exact hp
    · rw [honly.others other hne]
      exact (h.consistent other).snoc (he other hne)

theorem Bounds.fence {header : FrameHeader} (h : Bounds epoch s header) (now : Millis) :
    Bounds epoch (s.fence epoch now) header := by
  have hf : s.fence epoch now = s := if_neg (not_not.mpr h.1)
  rwa [hf]

theorem Consistent.fence {epoch' : CoordinatorEpoch} (h : Consistent past epoch publisher entry)
    (hle : epoch ≤ epoch') (now : Millis) :
    Consistent past epoch' publisher (entry.map (fun s ↦ s.fence epoch' now)) := by
  constructor
  · intro s' hs'
    obtain ⟨s, hs, rfl⟩ := Option.map_eq_some_iff.mp hs'
    obtain ⟨hello, r, since, hl, hi, hb, halive⟩ := h.standing s hs
    by_cases he : s.epoch = epoch'
    · have hf : s.fence epoch' now = s := if_neg (not_not.mpr he)
      rw [hf]
      refine ⟨hello, r, since, hl, hi, hb, ?_⟩
      intro ha
      obtain ⟨hr, hse, hsince⟩ := halive ha
      exact ⟨hr.trans (hse.symm.trans he), he, hsince⟩
    · have hf : s.fence epoch' now = _ := if_pos he
      rw [hf]
      exact ⟨hello, r, since, hl, hi, hb, fun ha ↦ by cases ha⟩
  · intro e he f hf hp
    obtain ⟨hfe, s, hs, hinc, hbound⟩ := h.history e he f hf hp
    have hinc' : (s.fence epoch' now).incarnation = s.incarnation := by
      unfold PublisherState.fence
      split <;> rfl
    refine ⟨hfe.trans hle, _, by rw [hs]; rfl, hinc'.symm ▸ hinc, ?_⟩
    intro hepoch heq
    obtain rfl : epoch = epoch' := le_antisymm hle (hepoch ▸ hfe)
    exact (hbound hepoch (heq.trans hinc')).fence now

theorem Fenced.installEpoch (h : Fenced past g) (epoch : CoordinatorEpoch) (boot : BootId) (now : Millis) :
    Fenced (past ++ [event (step api) (.installEpoch epoch boot now) g])
      (g.installEpoch api epoch boot now).2 := by
  have hun : ∀ publisher, Unconcerned (event (step api) (.installEpoch epoch boot now) g) publisher := by
    intro publisher
    refine ⟨?_, ?_, ?_⟩
    · intro hello h
      obtain ⟨_, _, hop, -⟩ := h
      cases hop
    · intro h
      obtain ⟨_, hop, -⟩ := h
      cases hop
    · intro f h
      obtain ⟨-, _, _, hop, -⟩ := h
      cases hop
  rcases @installEpoch_cases σ api g epoch boot now with
    ⟨e, g', hout, hsame, -⟩ | ⟨g', hout, hv, hle, hepoch, hpub, -⟩
  · rw [hout]
    exact h.of_same hsame hun
  · rw [hout]
    constructor
    · rw [hepoch]
      exact hv
    · intro publisher
      have hfind : g'.findPublisher publisher =
          (g.findPublisher publisher).map (fun s ↦ s.fence epoch now) := by
        unfold Governor.findPublisher
        rw [hpub, Publishers.findPublisher_fenceAll]
      rw [hepoch, hfind]
      exact ((h.consistent publisher).fence (hle h.epoch) now).snoc (hun publisher)

theorem Consistent.register {hello : HelloPayload} {now : Millis}
    (h : Consistent past epoch hello.publisher entry) (hr : Registers hello epoch now entry s')
    (he : Enrolled e hello) (hbefore : e.before.epoch = epoch) (hacc : ∀ f, ¬ AcceptedStream e f) :
    Consistent (past ++ [e]) epoch hello.publisher (some s') := by
  have hspec : s'.incarnation = hello.incarnation ∧ s'.boot = hello.boot ∧ s'.epoch = epoch := by
    cases hr with
    | enroll => exact ⟨rfl, rfl, rfl⟩
    | refresh s hi hb => exact ⟨hi.symm, hb.symm, rfl⟩
    | supersede s hi => exact ⟨rfl, rfl, rfl⟩
  constructor
  · intro s hs
    obtain rfl := Option.some.inj hs
    exact ⟨hello, e, [], Latest.new he, hspec.1, hspec.2.1, fun _ ↦ ⟨hbefore, hspec.2.2, by simp⟩⟩
  · refine h.history_snoc (fun f hf ↦ absurd hf (hacc f)) ?_
    intro s hs
    cases hr with
    | enroll => cases hs
    | refresh s hi hb =>
      obtain rfl := Option.some.inj hs
      exact ⟨_, rfl, le_refl _, fun header _ hbound ↦ ⟨rfl, hbound.2⟩⟩
    | supersede s hi =>
      obtain rfl := Option.some.inj hs
      exact ⟨_, rfl, hi.le, fun header heq _ ↦ absurd heq hi.ne'⟩

theorem Fenced.registerPublisher (h : Fenced past g) (hello : HelloPayload) (now : Millis) :
    Fenced (past ++ [event (step api) (.registerPublisher hello now) g])
      (g.registerPublisher hello now).2 := by
  have hacc : ∀ f, ¬ AcceptedStream (event (step api) (.registerPublisher hello now) g) f := by
    intro f h
    obtain ⟨-, _, _, hop, -⟩ := h
    cases hop
  have hbur : ∀ publisher, ¬ Buried (event (step api) (.registerPublisher hello now) g) publisher := by
    intro publisher h
    obtain ⟨_, hop, -⟩ := h
    cases hop
  rcases @registerPublisher_cases σ g hello now with
    ⟨e, g', hout, hsame⟩ | ⟨w, g', hout, -, honly, s', hs', hreg⟩
  · have hfail : ∀ hello', ¬ Enrolled (event (step api) (.registerPublisher hello now) g) hello' := by
      intro hello' h
      obtain ⟨_, _, -, hw⟩ := h
      have hreply : (event (step api) (.registerPublisher hello now) g).out = .welcome (.error e) :=
        congrArg (fun out : Result WelcomePayload × Governor σ ↦ Reply.welcome out.1) hout
      rw [hreply] at hw
      cases hw
    rw [hout]
    exact h.of_same hsame (fun p ↦
      ⟨fun hello' hn ↦ absurd hn (hfail hello'), hbur p, fun f hf ↦ absurd hf (hacc f)⟩)
  · have hen : Enrolled (event (step api) (.registerPublisher hello now) g) hello :=
      ⟨now, w, rfl, congrArg (fun out : Result WelcomePayload × Governor σ ↦ Reply.welcome out.1) hout⟩
    rw [hout]
    refine h.of_only honly ?_ ?_
    · intro other hne
      refine ⟨?_, hbur other, fun f hf ↦ absurd hf (hacc f)⟩
      intro hello' h
      obtain ⟨_, _, hop, -⟩ := h
      cases hop
      exact Ne.symm hne
    · rw [hs']
      exact (h.consistent hello.publisher).register hreg hen rfl hacc

theorem Fenced.notePublisherDeath (h : Fenced past g) (publisher : PublisherId) (now : Millis) :
    Fenced (past ++ [event (step api) (.notePublisherDeath publisher now) g])
      (g.notePublisherDeath api publisher now).2 := by
  have hacc : ∀ f, ¬ AcceptedStream (event (step api) (.notePublisherDeath publisher now) g) f := by
    intro f h
    obtain ⟨-, _, _, hop, -⟩ := h
    cases hop
  have hen : ∀ hello, ¬ Enrolled (event (step api) (.notePublisherDeath publisher now) g) hello := by
    intro hello h
    obtain ⟨_, _, hop, -⟩ := h
    cases hop
  rcases @notePublisherDeath_cases σ api g publisher now with
    ⟨e, g', hout, hsame, -, -⟩ | ⟨s, g', s', hout, hs, honly, hs', hdead, hcase, -, -⟩
  · have hfail : ∀ p, ¬ Buried (event (step api) (.notePublisherDeath publisher now) g) p := by
      intro p h
      obtain ⟨_, -, hst⟩ := h
      have hreply : (event (step api) (.notePublisherDeath publisher now) g).out = .status (.error e) :=
        congrArg (fun out : Status × Governor σ ↦ Reply.status out.1) hout
      rw [hreply] at hst
      cases hst
    rw [hout]
    exact h.of_same hsame
      (fun p ↦ ⟨fun hello hn ↦ absurd hn (hen hello), hfail p, fun f hf ↦ absurd hf (hacc f)⟩)
  · have hsame : s'.incarnation = s.incarnation ∧ s'.boot = s.boot ∧
        ∀ header, Bounds g.epoch s header → Bounds g.epoch s' header := by
      rcases hcase with rfl | rfl
      · exact ⟨rfl, rfl, fun _ hb ↦ hb⟩
      · exact ⟨rfl, rfl, fun _ hb ↦ hb⟩
    have hcons := h.consistent publisher
    rw [hs] at hcons
    rw [hout]
    refine h.of_only honly ?_ ?_
    · intro other hne
      refine ⟨fun hello hn ↦ absurd hn (hen hello), ?_, fun f hf ↦ absurd hf (hacc f)⟩
      intro h
      obtain ⟨_, hop, -⟩ := h
      cases hop
      exact hne rfl
    · rw [hs']
      constructor
      · intro _ hsome
        obtain rfl := Option.some.inj hsome
        refine (hcons.standing s rfl).snoc hsame.1 hsame.2.1 ?_ (fun hello hn ↦ absurd hn (hen hello))
        intro ha
        rw [hdead] at ha
        cases ha
      · refine hcons.history_snoc (fun f hf ↦ absurd hf (hacc f)) ?_
        intro _ hsome
        obtain rfl := Option.some.inj hsome
        exact ⟨s', rfl, hsame.1.symm.le, fun header _ hb ↦ hsame.2.2 header hb⟩

theorem Fenced.epoch_eq (h : Fenced past g) (hs : g.findPublisher publisher = some s)
    (ha : s.alive = true) : s.epoch = g.epoch := by
  obtain ⟨hello, r, since, -, -, -, halive⟩ := (h.consistent publisher).standing s hs
  exact (halive ha).2.1

theorem Fenced.entered (h : Fenced past g) {f : Frame} (hf : Authorized f g s) :
    (g.enterPublisher f.header.publisher).publishers = g.publishers := by
  have hauth := authorize_eq_ok.mp hf.fenced
  exact (enterPublisher_publishers_iff hf.found).mpr (h.epoch_eq hf.found hauth.2.2.2.2.2.2)

theorem unconcerned_admission {f : Frame} {now : Millis} {out : Result AdmissionReport}
    (h : ∀ report, out = .ok report → f.header.type = .heartbeat) :
    Unconcerned (⟨g, .admitFrame f now, .report out, g'⟩ : Event Op Reply (Governor σ)) publisher := by
  refine ⟨?_, ?_, ?_⟩
  · intro hello h
    obtain ⟨_, _, hop, -⟩ := h
    cases hop
  · intro h
    obtain ⟨_, hop, -⟩ := h
    cases hop
  · intro f' h
    obtain ⟨ht, _, report, hop, hout⟩ := h
    cases hop
    exact absurd (h report (Reply.report.inj hout)) ht

theorem beat_le {sequence : Sequence} (now : Millis) (h : sequence = 0 ∨ s.lastSequence < sequence) :
    s.lastSequence ≤ (s.beat sequence now).lastSequence := by
  unfold PublisherState.beat
  dsimp only
  split
  · next hne => exact UInt64.le_of_lt (h.resolve_left hne)
  · exact UInt64.le_refl _

theorem Fenced.beat (h : Fenced past g) {f : Frame} {now : Millis} {m : Metrics} (hb : Beats f g s)
    (hg' : g' = { g with
      publishers := g.publishers.modify f.header.publisher
        (fun p ↦ p.beat f.header.sequence now) (fun _ ↦ rfl)
      metrics := m }) {report : AdmissionReport} :
    Fenced (past ++ [⟨g, .admitFrame f now, .report (.ok report), g'⟩]) g' := by
  have hun : ∀ p, Unconcerned
      (⟨g, .admitFrame f now, .report (.ok report), g'⟩ : Event Op Reply (Governor σ)) p :=
    fun p ↦ unconcerned_admission (fun _ _ ↦ hb.heartbeat)
  obtain ⟨hs, -, -, -, hseq⟩ := authorizeHeartbeat_eq_ok.mp hb.fenced
  have hpub : g'.publishers = g.publishers.modify f.header.publisher
      (fun p ↦ p.beat f.header.sequence now) (fun _ ↦ rfl) := by rw [hg']
  have hepoch : g'.epoch = g.epoch := by rw [hg']
  have hs' := find_modify (fun p ↦ p.beat f.header.sequence now) (fun _ ↦ rfl) hs hpub
  have hcons := h.consistent f.header.publisher
  rw [hs] at hcons
  refine h.of_only (onlyPublisher_modify _ _ hepoch hpub) (fun p _ ↦ hun p) ?_
  rw [hs']
  constructor
  · intro _ hsome
    obtain rfl := Option.some.inj hsome
    exact (hcons.standing s rfl).snoc rfl rfl (fun ha ↦ ⟨ha, rfl, (hun _).buried⟩) (hun _).enrolled
  · refine hcons.history_snoc (hun _).accepted ?_
    intro _ hsome
    obtain rfl := Option.some.inj hsome
    refine ⟨_, rfl, le_refl _, ?_⟩
    rintro header - ⟨he, hle, hgen⟩
    exact ⟨he, UInt64.le_trans hle (beat_le now hseq), hgen⟩

theorem Bounds.apply {header header' : FrameHeader} (hb : Bounds epoch s header)
    (hseq : s.lastSequence < header'.sequence)
    (hgen : s.streamGenerations (streamOf header'.type) < header'.generation) (now : Millis) :
    Bounds epoch (s.apply (streamOf header'.type) header' now) header := by
  obtain ⟨he, hs, hg⟩ := hb
  refine ⟨he, UInt64.le_trans hs (UInt64.le_of_lt hseq), ?_⟩
  unfold PublisherState.apply
  dsimp only
  by_cases hstream : streamOf header.type = streamOf header'.type
  · rw [hstream, Function.update_self]
    rw [hstream] at hg
    exact UInt64.le_trans hg (UInt64.le_of_lt hgen)
  · rw [Function.update_of_ne hstream]
    exact hg

theorem Fenced.applied (h : Fenced past g) {f : Frame} {now : Millis} (hf : Authorized f g s)
    (hseq : sequenced (s.enter g.epoch) f.header = .ok ())
    (hepoch : g'.epoch = g.epoch)
    (hpub : g'.publishers = (g.enterPublisher f.header.publisher).publishers.modify f.header.publisher
      (fun p ↦ p.apply (streamOf f.header.type) f.header now) (fun _ ↦ rfl)) {report : AdmissionReport} :
    Fenced (past ++ [⟨g, .admitFrame f now, .report (.ok report), g'⟩]) g' := by
  obtain ⟨-, -, hfe, hs, hinc, -, halive⟩ := authorize_eq_ok.mp hf.fenced
  have hse := h.epoch_eq hs halive
  rw [s.enter_eq_self hse, sequenced_eq_ok] at hseq
  rw [h.entered hf] at hpub
  have hs' := find_modify (fun p ↦ p.apply (streamOf f.header.type) f.header now) (fun _ ↦ rfl) hs hpub
  have hen : ∀ hello, ¬ Enrolled
      (⟨g, .admitFrame f now, .report (.ok report), g'⟩ : Event Op Reply (Governor σ)) hello := by
    intro hello h
    obtain ⟨_, _, hop, -⟩ := h
    cases hop
  have hbur : ∀ p, ¬ Buried
      (⟨g, .admitFrame f now, .report (.ok report), g'⟩ : Event Op Reply (Governor σ)) p := by
    intro p h
    obtain ⟨_, hop, -⟩ := h
    cases hop
  have hcons := h.consistent f.header.publisher
  rw [hs] at hcons
  refine h.of_only (onlyPublisher_modify _ _ hepoch hpub) ?_ ?_
  · intro other hne
    refine ⟨fun hello hn ↦ absurd hn (hen hello), hbur other, ?_⟩
    intro f' h
    obtain ⟨-, _, _, hop, -⟩ := h
    cases hop
    exact Ne.symm hne
  · rw [hs']
    constructor
    · intro _ hsome
      obtain rfl := Option.some.inj hsome
      exact (hcons.standing s rfl).snoc rfl rfl (fun _ ↦ ⟨halive, rfl, hbur _⟩)
        (fun hello hn ↦ absurd hn (hen hello))
    · intro x hx f' hf' hp'
      rcases List.mem_append.mp hx with hx | hx
      · obtain ⟨hle, s₀, hs₀, hinc', hbound⟩ := hcons.history x hx f' hf' hp'
        obtain rfl := Option.some.inj hs₀
        exact ⟨hle, _, rfl, hinc', fun he hi ↦ (hbound he hi).apply hseq.1 hseq.2.2 now⟩
      · rw [List.mem_singleton.mp hx] at hf'
        obtain ⟨-, _, _, hop, -⟩ := hf'
        cases hop
        refine ⟨hfe.le, _, rfl, hinc.le, fun _ _ ↦ ⟨hse, UInt64.le_refl _, ?_⟩⟩
        unfold PublisherState.apply
        dsimp only
        rw [Function.update_self]
        exact UInt64.le_refl _

theorem Fenced.admission (h : Fenced past g) {f : Frame} {now : Millis}
    {out : Result AdmissionReport × Governor σ} (ha : Admits f now g out) :
    Fenced (past ++ [⟨g, .admitFrame f now, .report out.1, out.2⟩]) out.2 := by
  cases ha with
  | unauthorized e m hs hb =>
    exact h.of_same ⟨rfl, rfl⟩ (fun _ ↦ unconcerned_admission (fun _ hr ↦ by cases hr))
  | heartbeat p m hb => exact h.beat hb rfl
  | undecoded p e m hp hd =>
    exact h.of_same ⟨rfl, h.entered hp⟩ (fun _ ↦ unconcerned_admission (fun _ hr ↦ by cases hr))
  | unresolved p s n e m hp hd hv =>
    exact h.of_same ⟨rfl, h.entered hp⟩ (fun _ ↦ unconcerned_admission (fun _ hr ↦ by cases hr))
  | applied p s n m hp hd hv =>
    refine h.applied hp hd.ordered ?_ ?_
    · rfl
    · rfl

theorem unconcerned_of_silent {op : Op} (hr : ∀ hello now, op ≠ .registerPublisher hello now)
    (hd : ∀ p now, op ≠ .notePublisherDeath p now) (ha : ∀ f now, op ≠ .admitFrame f now) :
    Unconcerned (event (step api) op g) publisher := by
  refine ⟨?_, ?_, ?_⟩
  · intro hello h
    obtain ⟨now, _, hop, -⟩ := h
    exact absurd hop (hr hello now)
  · intro h
    obtain ⟨now, hop, -⟩ := h
    exact hd publisher now hop
  · intro f h
    obtain ⟨-, now, _, hop, -⟩ := h
    exact absurd hop (ha f now)

theorem Fenced.step (h : Fenced past g) (op : Op) :
    Fenced (past ++ [event (step api) op g]) (Operations.step api op g).2 := by
  cases op with
  | installEpoch epoch boot now => exact h.installEpoch epoch boot now
  | registerPublisher hello now => exact h.registerPublisher hello now
  | notePublisherDeath publisher now => exact h.notePublisherDeath publisher now
  | admitFrame f now => exact h.admission (admits f now g)
  | evaluate now =>
    exact h.of_same (evaluate_same now) (fun _ ↦ unconcerned_of_silent (by simp) (by simp) (by simp))
  | commitDurable now =>
    exact h.of_same (commitDurable_same now) (fun _ ↦ unconcerned_of_silent (by simp) (by simp) (by simp))

section Run

variable {config : GovernorConfig} {world : σ} {process : Process} {start : Millis}

theorem fenced_of_run (h : GovernorRun api config world process start past g) : Fenced past g := by
  refine Run.invariant ?_ (fun past g op hf ↦ hf.step op) h
  obtain ⟨hepoch, hpub⟩ := recovered_spec api config world process start
  refine ⟨hepoch, ?_⟩
  intro publisher
  have hnone : (recovered api config world process start).findPublisher publisher = none := by
    unfold Governor.findPublisher
    rw [hpub]
    rfl
  rw [hnone]
  constructor
  · intro s hs
    cases hs
  · intro e he
    cases he

theorem Fenced.accepted (h : Fenced past g) {f : Frame} {now : Millis} {report : AdmissionReport}
    (haccepted : (g.admitFrame f now).1 = .ok report) (hstream : f.header.type ≠ .heartbeat) :
    f.header.epoch = g.epoch ∧
    (∃ hello r since, Latest past f.header.publisher hello r since ∧
      hello.incarnation = f.header.incarnation ∧ hello.boot = f.header.boot ∧
      r.before.epoch = g.epoch ∧ ∀ x ∈ since, ¬ Buried x f.header.publisher) ∧
    ∀ e ∈ past, ∀ f', AcceptedStream e f' → f'.header.publisher = f.header.publisher →
      f'.header.incarnation = f.header.incarnation → f'.header.epoch = f.header.epoch →
      f'.header.sequence < f.header.sequence ∧
        (streamOf f'.header.type = streamOf f.header.type →
          f'.header.generation < f.header.generation) := by
  have ha := admits f now g
  generalize g.admitFrame f now = out at ha haccepted
  cases ha with
  | unauthorized e m hs hb => cases haccepted
  | heartbeat p m hb => exact absurd hb.heartbeat hstream
  | undecoded p e m hp hd => cases haccepted
  | unresolved p s n e m hp hd hv => cases haccepted
  | applied p s n m hp hd hv =>
    obtain ⟨-, -, hfe, hfound, hinc, hboot, halive⟩ := authorize_eq_ok.mp hp.fenced
    have hcons := h.consistent f.header.publisher
    obtain ⟨hello, r, since, hl, hi, hb, hlive⟩ := hcons.standing p hfound
    obtain ⟨hr, hpe, hsince⟩ := hlive halive
    have hseq := hd.ordered
    rw [p.enter_eq_self hpe, sequenced_eq_ok] at hseq
    refine ⟨hfe, ⟨hello, r, since, hl, hi.symm.trans hinc.symm, hb.symm.trans hboot.symm, hr, hsince⟩, ?_⟩
    intro e he f' hf' hp' hi' he'
    obtain ⟨-, p', hp'', -, hbound⟩ := hcons.history e he f' hf' hp'
    obtain rfl : p = p' := Option.some.inj (hfound.symm.trans hp'')
    obtain ⟨-, hs', hg'⟩ := hbound (he'.trans hfe) (hi'.trans hinc)
    refine ⟨UInt64.lt_of_le_of_lt hs' hseq.1, ?_⟩
    intro hstream'
    rw [hstream'] at hg'
    exact UInt64.lt_of_le_of_lt hg' hseq.2.2

/-- Over every run after one recovery: an accepted stream frame is one of the installed epoch, its
sender is the latest registration of that publisher, made under that epoch and not noted dead since,
and it is later than every accepted stream frame of the same publisher, incarnation and epoch. -/
theorem accepted_stream_fenced (h : GovernorRun api config world process start past g) (f : Frame)
    (now : Millis) (report : AdmissionReport) (haccepted : (g.admitFrame f now).1 = .ok report)
    (hstream : f.header.type ≠ .heartbeat) :
    f.header.epoch = g.epoch ∧
    (∃ hello r since, Latest past f.header.publisher hello r since ∧
      hello.incarnation = f.header.incarnation ∧ hello.boot = f.header.boot ∧
      r.before.epoch = g.epoch ∧ ∀ x ∈ since, ¬ Buried x f.header.publisher) ∧
    ∀ e ∈ past, ∀ f', AcceptedStream e f' → f'.header.publisher = f.header.publisher →
      f'.header.incarnation = f.header.incarnation → f'.header.epoch = f.header.epoch →
      f'.header.sequence < f.header.sequence ∧
        (streamOf f'.header.type = streamOf f.header.type →
          f'.header.generation < f.header.generation) :=
  (fenced_of_run h).accepted haccepted hstream

end Run

open Atomicity in
/-- Capacity for the switch that the one-switch fabric does define, in the run that installed it. -/
theorem switchCapacity_fenced : ∃ past, GovernorRun noStore {} () ⟨0, 0⟩ 0 past oneSwitchGovernor ∧
    ∃ hello r since, Latest past introduction.publisher hello r since ∧
      hello.incarnation = introduction.incarnation ∧ r.before.epoch = oneSwitchGovernor.epoch := by
  obtain ⟨past, hrun⟩ : ∃ past, GovernorRun noStore {} () ⟨0, 0⟩ 0 past oneSwitchGovernor :=
    Run.exists oneSwitchOps
  have hadmitted : oneSwitchGovernor.admitFrame (makeFrame .capacity (sentAs 1 2 1) (capacityPayload 1 1)) 0 =
      oneSwitchGovernor.countReceived.admitStream
        (makeFrame .capacity (sentAs 1 2 1) (capacityPayload 1 1)) 0 :=
    (admit_makeFrame .capacity (sentAs 1 2 1) (show (capacityPayload 1 1).length ≤ _ by decide) 0
      oneSwitchGovernor).trans (if_neg (by decide))
  obtain ⟨-, ⟨hello, r, since, hl, hi, -, hr, -⟩, -⟩ := accepted_stream_fenced hrun
    (makeFrame .capacity (sentAs 1 2 1) (capacityPayload 1 1)) 0
    (reportOf (makeFrame .capacity (sentAs 1 2 1) (capacityPayload 1 1)).header 1)
    (by rw [hadmitted, oneSwitchGovernor_eq]; rfl) (by decide)
  exact ⟨past, hrun, hello, r, since, hl, hi, hr⟩

end HotspotGovernor.Fencing
