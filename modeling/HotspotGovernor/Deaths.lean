import HotspotGovernor.Fencing
import HotspotGovernor.Installation

namespace HotspotGovernor.Deaths

open Foundation ByteIo Topology Evidence Decisions Durable Framing Registry Governance
open Admission Operations Effects Fencing Lib.Trace

variable {σ : Type} {api : StoreApi σ} {g g' : Governor σ} {publisher : PublisherId}

def Silenced (publisher : PublisherId) (g : Governor σ) : Prop :=
  ∀ s, g.findPublisher publisher = some s → s.alive = false

/-- No live record, and no frame is accepted from the publisher in any state that the governor reaches
before it registers the publisher again. -/
def Revoked (api : StoreApi σ) (publisher : PublisherId) (g : Governor σ) : Prop :=
  Silenced publisher g ∧ ∀ past g', Run (step api) g past g' →
    (∀ e ∈ past, ∀ hello, Enrolled e hello → hello.publisher ≠ publisher) →
      ∀ f now, f.header.publisher = publisher → ∃ e, (g'.admitFrame f now).1 = .error e

theorem silenced_iff : Silenced publisher g ↔ ∀ c, credentials g publisher = some c → c.alive = false := by
  simp only [Silenced, credentials, Option.map_eq_some_iff]
  constructor
  · rintro h c ⟨s, hs, rfl⟩
    exact h s hs
  · intro h s hs
    exact h (credentialsOf s) ⟨s, hs, rfl⟩

theorem not_silenced_iff :
    ¬ Silenced publisher g ↔ ∃ s, g.findPublisher publisher = some s ∧ s.alive = true := by
  simp only [Silenced, not_forall, Bool.not_eq_false, exists_prop]

theorem Silenced.of_credentials (h : Silenced publisher g)
    (hsame : credentials g' publisher = credentials g publisher) : Silenced publisher g' := by
  rw [silenced_iff] at h ⊢
  rwa [hsame]

theorem Silenced.refused (h : Silenced publisher g) {f : Frame} (hf : f.header.publisher = publisher)
    (now : Millis) : ∃ e, (g.admitFrame f now).1 = .error e := by
  have hauth : ∀ s, ¬ Authorized f g s := by
    intro s hs
    obtain ⟨-, -, -, hfound, -, -, halive⟩ := authorize_eq_ok.mp hs.fenced
    rw [hf] at hfound
    exact absurd (h s hfound) (by simp [halive])
  have hbeats : ∀ s, ¬ Beats f g s := by
    intro s hs
    obtain ⟨hfound, -, -, halive, -⟩ := authorizeHeartbeat_eq_ok.mp hs.fenced
    rw [hf] at hfound
    exact absurd (h s hfound) (by simp [halive])
  have hadmits := admits f now g
  generalize g.admitFrame f now = out at hadmits ⊢
  cases hadmits with
  | unauthorized e m => exact ⟨e, rfl⟩
  | heartbeat s m hs => exact absurd hs (hbeats s)
  | undecoded s e m hs => exact ⟨e, rfl⟩
  | unresolved s snapshots n e m hs => exact ⟨e, rfl⟩
  | applied s snapshots n m hs => exact absurd hs (hauth s)

theorem fence_alive {s : PublisherState} (epoch : CoordinatorEpoch) (now : Millis) (h : s.alive = false) :
    (s.fence epoch now).alive = false := by
  simp only [PublisherState.fence]
  split
  · rfl
  · exact h

theorem Silenced.installEpoch (h : Silenced publisher g) (epoch : CoordinatorEpoch) (boot : BootId)
    (now : Millis) : Silenced publisher (g.installEpoch api epoch boot now).2 := by
  rcases @installEpoch_cases σ api g epoch boot now with
    ⟨e, g', hout, hsame, -⟩ | ⟨g', hout, -, -, -, hpub, -⟩
  · rw [hout]
    intro s hs
    exact h s ((hsame.find publisher).symm.trans hs)
  · rw [hout]
    intro s hs
    have hfenced : (g.findPublisher publisher).map (fun p ↦ p.fence epoch now) = some s := by
      rw [← hs, Governor.findPublisher, Governor.findPublisher, hpub, Publishers.findPublisher_fenceAll]
    obtain ⟨s₀, hs₀, rfl⟩ := Option.map_eq_some_iff.mp hfenced
    exact fence_alive epoch now (h s₀ hs₀)

theorem Silenced.registerPublisher (h : Silenced publisher g) (hello : HelloPayload) (now : Millis)
    (hother : ∀ welcome, (g.registerPublisher hello now).1 = .ok welcome → hello.publisher ≠ publisher) :
    Silenced publisher (g.registerPublisher hello now).2 := by
  rcases @registerPublisher_entitles σ g hello now with
    ⟨e, g', hout, hsteady⟩ | ⟨welcome, g', hout, -, hentitles⟩
  · rw [hout]
    exact h.of_credentials (congrFun hsteady.credentials publisher)
  · rw [hout] at hother ⊢
    apply h.of_credentials
    rw [hentitles.credentials, Function.update_of_ne (hother welcome rfl).symm]

theorem silenced_of_recorded {now : Millis} (h : Recorded api publisher now g) :
    Silenced publisher (g.notePublisherDeath api publisher now).2 := by
  rw [silenced_iff, (notePublisherDeath_recorded h).credentials, Function.update_self]
  intro c hc
  obtain ⟨c₀, -, rfl⟩ := Option.map_eq_some_iff.mp hc
  rfl

theorem Silenced.notePublisherDeath (h : Silenced publisher g) (other : PublisherId) (now : Millis) :
    Silenced publisher (g.notePublisherDeath api other now).2 := by
  by_cases hrec : Recorded api other now g
  · by_cases hsame : publisher = other
    · rw [hsame]
      exact silenced_of_recorded hrec
    · apply h.of_credentials
      rw [(notePublisherDeath_recorded hrec).credentials, Function.update_of_ne hsame]
  · exact h.of_credentials (congrFun (notePublisherDeath_unrecorded hrec).credentials publisher)

theorem Silenced.kept (h : Silenced publisher g) (op : Op)
    (hother : ∀ hello, Enrolled (event (step api) op g) hello → hello.publisher ≠ publisher) :
    Silenced publisher (step api op g).2 := by
  cases op with
  | installEpoch epoch boot now => exact h.installEpoch epoch boot now
  | registerPublisher hello now =>
    apply h.registerPublisher hello now
    intro welcome hwelcome
    exact hother hello ⟨now, welcome, rfl, congrArg Reply.welcome hwelcome⟩
  | notePublisherDeath other now => exact h.notePublisherDeath other now
  | admitFrame f now => exact h.of_credentials (congrFun (admit_steady f now).credentials publisher)
  | evaluate now =>
    intro s hs
    exact h s (((evaluate_same now).find publisher).symm.trans hs)
  | commitDurable now =>
    intro s hs
    exact h s (((@commitDurable_same σ api g now).find publisher).symm.trans hs)

theorem Silenced.run (h : Silenced publisher g) {past : History σ} (hrun : Run (step api) g past g')
    (hother : ∀ e ∈ past, ∀ hello, Enrolled e hello → hello.publisher ≠ publisher) :
    Silenced publisher g' := by
  induction hrun with
  | start => exact h
  | @snoc past g' hrun op ih =>
    apply (ih (fun e he ↦ hother e (List.mem_append_left _ he))).kept op
    exact hother _ (List.mem_append_right _ (List.mem_singleton.mpr rfl))

theorem Silenced.revoked (h : Silenced publisher g) : Revoked api publisher g := by
  refine ⟨h, ?_⟩
  intro past g' hrun hother f now hf
  exact (h.run hrun hother).refused hf now

def StoreTakes (api : StoreApi σ) (publisher : PublisherId) (now : Millis) (g : Governor σ) : Prop :=
  g.storeOpen = false ∨
    (api.commit (g.durableSnapshot api g.boot g.epoch now)
      [{ type := .publisherDeath, at_ := now, payload := putU64 publisher.value ++ putI64 now }] g.world).1 =
        .ok ()

theorem recorded_iff {now : Millis} : Recorded api publisher now g ↔ StoreTakes api publisher now g := by
  simp only [Recorded, StoreTakes, Governor.persist]
  generalize g.durableSnapshot api g.boot g.epoch now = candidate
  generalize putU64 publisher.value ++ putI64 now = payload
  cases hopen : g.storeOpen with
  | false => simp
  | true =>
    cases api.commit candidate [{ type := .publisherDeath, at_ := now, payload }] g.world with
    | mk status world => cases status <;> simp

/-- A noted death takes the authority of a live publisher exactly when the store takes the record. -/
theorem death_revokes_iff (api : StoreApi σ) (g : Governor σ) (publisher : PublisherId) (s : PublisherState)
    (hs : g.findPublisher publisher = some s) (now : Millis) :
    Revoked api publisher (g.notePublisherDeath api publisher now).2 ↔
      StoreTakes api publisher now g ∨ s.alive = false := by
  rw [← recorded_iff]
  constructor
  · intro h
    by_cases hrec : Recorded api publisher now g
    · exact Or.inl hrec
    · have hsame := (notePublisherDeath_unrecorded hrec).credentials
      have hsilent : Silenced publisher g := h.1.of_credentials (congrFun hsame publisher).symm
      exact Or.inr (hsilent s hs)
  · rintro (hrec | hdead)
    · exact (silenced_of_recorded hrec).revoked
    · have hsilent : Silenced publisher g := by
        intro s' hs'
        rw [hs, Option.some.injEq] at hs'
        rwa [← hs']
      exact (hsilent.notePublisherDeath publisher now).revoked

open Atomicity in
/-- A governor on a directory of its own, with one publisher, and how many accesses of the store still work. -/
def enrolled (power : Option ℕ) : Governor Storage.Store :=
  let g := ((Installation.fresh 4096).registerPublisher introduction 0).2
  { g with world := { g.world with power } }

open Atomicity Storage in
/-- The disk fails under the record of the death: the notice returns an error that the coordinator does not
read, and the next heartbeat of the dead publisher is accepted. -/
theorem unrecorded_death_leaves_alive :
    ((enrolled (some 0)).findPublisher introduction.publisher).map PublisherState.alive = some true ∧
    (∃ e, ((enrolled (some 0)).notePublisherDeath durableStore introduction.publisher 5).1 = .error e) ∧
    (((enrolled (some 0)).notePublisherDeath durableStore introduction.publisher 5).2.findPublisher
      introduction.publisher).map PublisherState.alive = some true ∧
    (((enrolled (some 0)).notePublisherDeath durableStore introduction.publisher 5).2.admitFrame
      lateHeartbeat 6).1 = .ok (reportOf lateHeartbeat.header 0) ∧
    ¬ Revoked durableStore introduction.publisher
      ((enrolled (some 0)).notePublisherDeath durableStore introduction.publisher 5).2 := by
  have hbeat : (((enrolled (some 0)).notePublisherDeath durableStore introduction.publisher 5).2.admitFrame
      lateHeartbeat 6).1 = .ok (reportOf lateHeartbeat.header 0) := by
    rw [lateHeartbeat, admit_makeFrame .heartbeat (sentAs 1 5 0) (show ([] : Bytes).length ≤ _ by decide),
      if_pos rfl]
    rfl
  refine ⟨rfl, ⟨_, rfl⟩, rfl, hbeat, ?_⟩
  intro hrevoked
  obtain ⟨e, he⟩ := hrevoked.2 [] _ .start (by simp) lateHeartbeat 6 rfl
  rw [hbeat] at he
  cases he

open Atomicity Storage in
theorem recorded_death_revokes : ∃ s, (enrolled none).findPublisher introduction.publisher = some s ∧
    s.alive = true ∧ Revoked durableStore introduction.publisher
      ((enrolled none).notePublisherDeath durableStore introduction.publisher 5).2 := by
  have hs : (enrolled none).findPublisher introduction.publisher =
      some (PublisherState.enroll introduction ⟨1⟩ 0) := rfl
  have htakes : StoreTakes durableStore introduction.publisher 5 (enrolled none) := Or.inr rfl
  exact ⟨_, hs, rfl, (death_revokes_iff durableStore (enrolled none) introduction.publisher _ hs 5).mpr
    (Or.inl htakes)⟩

def owner (s : Snapshots) : StreamKind → Option PublisherId
  | .unknown => none
  | .topology => s.topology.map (fun x ↦ x.provenance.publisher)
  | .capacity => s.capacity.map (fun x ↦ x.provenance.publisher)
  | .signals => s.signals.map (fun x ↦ x.provenance.publisher)
  | .paths => s.paths.map (fun x ↦ x.provenance.publisher)
  | .traffic => s.traffic.map (fun x ↦ x.provenance.publisher)
  | .policy => s.policy.map (fun x ↦ x.provenance.publisher)

def Owns (publisher : PublisherId) (s : Snapshots) : Prop := ∃ stream, owner s stream = some publisher

/-- Of one stream: nothing of the publisher is installed afterwards, and what another published stays as it
was. -/
def Exact {α : Type} (publisher : PublisherId) (provenance : α → Provenance) (before after : Option α) : Prop :=
  (∀ x, after = some x → (provenance x).publisher ≠ publisher) ∧
    ∀ x, before = some x → (provenance x).publisher ≠ publisher → after = some x

structure DropsExactly (publisher : PublisherId) (before after : Snapshots) : Prop where
  topology : Exact publisher TopologySnapshot.provenance before.topology after.topology
  capacity : Exact publisher CapacitySnapshot.provenance before.capacity after.capacity
  signals : Exact publisher SignalSnapshot.provenance before.signals after.signals
  paths : Exact publisher PathSnapshot.provenance before.paths after.paths
  traffic : Exact publisher TrafficSnapshot.provenance before.traffic after.traffic
  policy : Exact publisher PolicySnapshot.provenance before.policy after.policy

theorem exact_filter {α : Type} (provenance : α → Provenance) (before : Option α) :
    Exact publisher provenance before (before.filter (fun x ↦ (provenance x).publisher ≠ publisher)) := by
  constructor
  · intro x hx
    simpa using (Option.filter_eq_some_iff.mp hx).2
  · intro x hx hne
    rw [hx]
    exact Option.filter_eq_some_iff.mpr ⟨rfl, by simpa using hne⟩

theorem exact_self_iff {α : Type} {provenance : α → Provenance} {before : Option α} :
    Exact publisher provenance before before ↔
      before.map (fun x ↦ (provenance x).publisher) ≠ some publisher := by
  cases before <;> simp [Exact]

theorem dropsExactly_dropEvidence (s : Snapshots) : DropsExactly publisher s (Governor.dropEvidence publisher s) :=
  ⟨exact_filter _ _, exact_filter _ _, exact_filter _ _, exact_filter _ _, exact_filter _ _, exact_filter _ _⟩

theorem dropsExactly_self_iff {s : Snapshots} : DropsExactly publisher s s ↔ ¬ Owns publisher s := by
  constructor
  · rintro h ⟨stream, hstream⟩
    cases stream with
    | unknown => cases hstream
    | topology => exact exact_self_iff.mp h.topology hstream
    | capacity => exact exact_self_iff.mp h.capacity hstream
    | signals => exact exact_self_iff.mp h.signals hstream
    | paths => exact exact_self_iff.mp h.paths hstream
    | traffic => exact exact_self_iff.mp h.traffic hstream
    | policy => exact exact_self_iff.mp h.policy hstream
  · intro h
    have hne : ∀ stream, owner s stream ≠ some publisher := fun stream hstream ↦ h ⟨stream, hstream⟩
    exact ⟨exact_self_iff.mpr (hne .topology), exact_self_iff.mpr (hne .capacity),
      exact_self_iff.mpr (hne .signals), exact_self_iff.mpr (hne .paths), exact_self_iff.mpr (hne .traffic),
      exact_self_iff.mpr (hne .policy)⟩

theorem owner_dropEvidence (publisher : PublisherId) (s : Snapshots) (stream : StreamKind) :
    owner (Governor.dropEvidence publisher s) stream = (owner s stream).filter (fun x ↦ x ≠ publisher) := by
  cases stream <;> simp only [owner, Governor.dropEvidence, Option.filter_map, Option.filter_none, Function.comp_def]

theorem owns_dropEvidence_iff {other : PublisherId} {s : Snapshots} :
    Owns publisher (Governor.dropEvidence other s) ↔ Owns publisher s ∧ publisher ≠ other := by
  simp only [Owns, owner_dropEvidence, Option.filter_eq_some_iff, decide_eq_true_eq, exists_and_right]

theorem owner_of_decoded {α : Type} {decoded : Result α} {put : α → Snapshots × ℕ} {s' : Snapshots} {n : ℕ}
    {owners : StreamKind → Option PublisherId} (h : (decoded >>= fun a ↦ .ok (put a)) = .ok (s', n))
    (hput : ∀ a stream, owner (put a).1 stream = owners stream) : owner s' = owners := by
  obtain ⟨a, -, hok⟩ := TopologyIndex.bind_eq_ok h
  obtain rfl : (put a).1 = s' := congrArg Prod.fst (Except.ok.inj hok)
  exact funext (hput a)

theorem owner_decodeInto {s s' : Snapshots} {f : Frame} {n : ℕ} (h : decodeInto s f = .ok (s', n)) :
    owner s' = Function.update (owner s) (streamOf f.header.type) (some f.header.publisher) := by
  simp only [decodeInto] at h
  split at h
  · next ht =>
    obtain ⟨snapshot, -, h⟩ := TopologyIndex.bind_eq_ok h
    split at h
    · cases h
    · obtain ⟨rfl, -⟩ := Prod.mk.inj (Except.ok.inj h)
      rw [ht]
      funext stream
      cases stream <;> rfl
  · next ht =>
    rw [ht]
    exact owner_of_decoded h (fun _ stream ↦ by cases stream <;> rfl)
  · next ht =>
    rw [ht]
    exact owner_of_decoded h (fun _ stream ↦ by cases stream <;> rfl)
  · next ht =>
    rw [ht]
    exact owner_of_decoded h (fun _ stream ↦ by cases stream <;> rfl)
  · next ht =>
    rw [ht]
    exact owner_of_decoded h (fun _ stream ↦ by cases stream <;> rfl)
  · next ht =>
    rw [ht]
    exact owner_of_decoded h (fun _ stream ↦ by cases stream <;> rfl)
  · cases h

theorem owns_of_decodeInto {s s' : Snapshots} {f : Frame} {n : ℕ} (h : decodeInto s f = .ok (s', n))
    (hs' : Owns publisher s') : Owns publisher s ∨ f.header.publisher = publisher := by
  obtain ⟨stream, hstream⟩ := hs'
  rw [owner_decodeInto h] at hstream
  by_cases hsame : stream = streamOf f.header.type
  · rw [hsame, Function.update_self] at hstream
    exact Or.inr (Option.some.inj hstream)
  · rw [Function.update_of_ne hsame] at hstream
    exact Or.inl ⟨stream, hstream⟩

/-- A death that is noted of a live record drops what the publisher owned; noted of a dead one, or refused, it
drops nothing. -/
inductive Drops (publisher : PublisherId) (g : Governor σ) : Status → Snapshots → Prop
  | refused (e : Failure) : Drops publisher g (.error e) g.snapshots
  | dead (hdead : Silenced publisher g) : Drops publisher g (.ok ()) g.snapshots
  | live (hlive : ¬ Silenced publisher g) :
      Drops publisher g (.ok ()) (Governor.dropEvidence publisher g.snapshots)

theorem drops (api : StoreApi σ) (publisher : PublisherId)
    (hdrop : g.config.dropEvidenceOnPublisherDeath = true) (now : Millis) :
    Drops publisher g (g.notePublisherDeath api publisher now).1
      (g.notePublisherDeath api publisher now).2.snapshots := by
  have h := notes api now g publisher
  generalize g.notePublisherDeath api publisher now = out at h ⊢
  cases h with
  | unknown e hs => exact .refused e
  | refused e g' hp =>
    obtain ⟨world, durable, rfl⟩ := persist_eq hp
    exact .refused e
  | dead s g' hs hdead hp =>
    obtain ⟨world, durable, rfl⟩ := persist_eq hp
    refine .dead ?_
    intro s' hs'
    rw [hs, Option.some.injEq] at hs'
    rwa [← hs']
  | revoked s g' hs halive hp =>
    obtain ⟨world, durable, rfl⟩ := persist_eq hp
    simp only [Governor.revoke, hdrop, if_true]
    exact .live (not_silenced_iff.mpr ⟨s, hs, halive⟩)

theorem dropsExactly_iff {now : Millis} (hdrop : g.config.dropEvidenceOnPublisherDeath = true)
    (h : (g.notePublisherDeath api publisher now).1 = .ok ()) :
    DropsExactly publisher g.snapshots (g.notePublisherDeath api publisher now).2.snapshots ↔
      ¬ Silenced publisher g ∨ ¬ Owns publisher g.snapshots := by
  have hdrops := drops api publisher hdrop now
  rw [h] at hdrops
  generalize (g.notePublisherDeath api publisher now).2.snapshots = after at hdrops ⊢
  cases hdrops with
  | dead hdead =>
    rw [dropsExactly_self_iff]
    exact ⟨Or.inr, fun h ↦ h.resolve_left (not_not.mpr hdead)⟩
  | live hlive => exact ⟨fun _ ↦ Or.inl hlive, fun _ ↦ dropsExactly_dropEvidence g.snapshots⟩

def Attended (publisher : PublisherId) (g : Governor σ) : Prop :=
  Owns publisher g.snapshots → ¬ Silenced publisher g

/-- An epoch change that takes the authority of a publisher and leaves its evidence. -/
structure Orphans (e : Event Op Reply (Governor σ)) (publisher : PublisherId) : Prop where
  fenced : ∃ epoch boot now, e.op = .installEpoch epoch boot now
  owned : Owns publisher e.before.snapshots
  live : ¬ Silenced publisher e.before
  silenced : Silenced publisher e.after

theorem Attended.of_credentials (h : Attended publisher g) (hsnapshots : g'.snapshots = g.snapshots)
    (hsame : credentials g' publisher = credentials g publisher) : Attended publisher g' := by
  intro howns hsilent
  rw [hsnapshots] at howns
  exact h howns (hsilent.of_credentials hsame.symm)

theorem Attended.installEpoch (h : Attended publisher g) {epoch : CoordinatorEpoch} {boot : BootId}
    {now : Millis} (hkept : ¬ Orphans (event (step api) (.installEpoch epoch boot now) g) publisher) :
    Attended publisher (g.installEpoch api epoch boot now).2 := by
  intro howns hsilent
  obtain ⟨_, _, _, _, _, _, heq⟩ := installEpoch_eq api epoch boot now g
  have hbefore : Owns publisher g.snapshots := by
    rw [heq] at howns
    exact howns
  exact hkept ⟨⟨epoch, boot, now, rfl⟩, hbefore, h hbefore, hsilent⟩

theorem Attended.registerPublisher (h : Attended publisher g) (hello : HelloPayload) (now : Millis) :
    Attended publisher (g.registerPublisher hello now).2 := by
  obtain ⟨_, _, heq⟩ := registerPublisher_eq hello now g
  have hsnapshots : (g.registerPublisher hello now).2.snapshots = g.snapshots := by rw [heq]
  rcases @registerPublisher_entitles σ g hello now with
    ⟨e, g', hout, hsteady⟩ | ⟨welcome, g', hout, -, hentitles⟩
  · rw [hout] at hsnapshots ⊢
    exact h.of_credentials hsnapshots (congrFun hsteady.credentials publisher)
  · rw [hout] at hsnapshots ⊢
    by_cases hsame : publisher = hello.publisher
    · intro _ hsilent
      rw [silenced_iff, hentitles.credentials, hsame, Function.update_self] at hsilent
      exact absurd (hsilent _ rfl) (by simp)
    · apply h.of_credentials hsnapshots
      rw [hentitles.credentials, Function.update_of_ne hsame]

theorem Attended.notePublisherDeath (h : Attended publisher g)
    (hdrop : g.config.dropEvidenceOnPublisherDeath = true) (other : PublisherId) (now : Millis) :
    Attended publisher (g.notePublisherDeath api other now).2 := by
  intro howns hsilent
  have hdrops := drops api other hdrop now
  rcases @notePublisherDeath_cases σ api g other now with
    ⟨e, g', hout, hsame, -⟩ | ⟨s, g', s', hout, -, honly, -⟩
  · rw [hout] at hdrops howns hsilent
    generalize (g'.snapshots : Snapshots) = after at hdrops howns
    cases hdrops with
    | refused e =>
      apply h howns
      intro s hs
      exact hsilent s ((hsame.find publisher).trans hs)
  · rw [hout] at hdrops howns hsilent
    have hbefore : publisher ≠ other → Silenced publisher g := by
      intro hne s hs
      exact hsilent s ((honly.others publisher hne).trans hs)
    generalize (g'.snapshots : Snapshots) = after at hdrops howns
    cases hdrops with
    | dead hdead =>
      by_cases hne : publisher = other
      · apply h howns
        rwa [hne]
      · exact h howns (hbefore hne)
    | live hlive =>
      obtain ⟨howned, hne⟩ := owns_dropEvidence_iff.mp howns
      exact h howned (hbefore hne)

theorem owns_of_admitFrame {f : Frame} {now : Millis} (h : Owns publisher (g.admitFrame f now).2.snapshots) :
    Owns publisher g.snapshots ∨ ¬ Silenced publisher g := by
  have hlive : ∀ s, Authorized f g s → f.header.publisher = publisher → ¬ Silenced publisher g := by
    intro s hs hname hsilent
    obtain ⟨-, -, -, hfound, -, -, halive⟩ := authorize_eq_ok.mp hs.fenced
    rw [hname] at hfound
    exact absurd (hsilent s hfound) (by simp [halive])
  have hadmits := admits f now g
  generalize g.admitFrame f now = out at hadmits h
  cases hadmits with
  | unauthorized e m => exact Or.inl h
  | heartbeat s m hs => exact Or.inl h
  | undecoded s e m hs => exact Or.inl h
  | unresolved s snapshots n e m hs hd => exact (owns_of_decodeInto hd.decoded h).imp_right (hlive s hs)
  | applied s snapshots n m hs hd => exact (owns_of_decodeInto hd.decoded h).imp_right (hlive s hs)

theorem Attended.kept (h : Attended publisher g) (hdrop : g.config.dropEvidenceOnPublisherDeath = true)
    (op : Op) (hkept : ¬ Orphans (event (step api) op g) publisher) :
    Attended publisher (step api op g).2 := by
  cases op with
  | installEpoch epoch boot now => exact h.installEpoch hkept
  | registerPublisher hello now => exact h.registerPublisher hello now
  | notePublisherDeath other now => exact h.notePublisherDeath hdrop other now
  | admitFrame f now =>
    intro howns hsilent
    have hbefore := hsilent.of_credentials (congrFun (admit_steady f now).credentials publisher).symm
    rcases owns_of_admitFrame howns with howned | hlive
    · exact h howned hbefore
    · exact hlive hbefore
  | evaluate now => exact h
  | commitDurable now =>
    have hsame := (@commitDurable_same σ api g now).find publisher
    obtain ⟨_, _, _, heq⟩ := commitDurable_eq api now g
    exact h.of_credentials (congrArg Governor.snapshots heq :) (congrArg (Option.map credentialsOf) hsame)

theorem config_of_run {config : GovernorConfig} {world : σ} {process : Process} {start : Millis}
    {past : History σ} (h : GovernorRun api config world process start past g) : g.config = config := by
  induction h with
  | start => exact (recovered_evidence api config world process start).1
  | snoc _ op ih => exact (step_config api op _).1.trans ih

theorem attended_of_run {config : GovernorConfig} {world : σ} {process : Process} {start : Millis}
    {past : History σ} (h : GovernorRun api config world process start past g)
    (hdrop : config.dropEvidenceOnPublisherDeath = true) (hkept : ∀ e ∈ past, ¬ Orphans e publisher) :
    Attended publisher g := by
  induction h with
  | start =>
    rintro ⟨stream, howner⟩
    rw [(recovered_evidence api config world process start).2.1] at howner
    cases stream <;> cases howner
  | @snoc past g h op ih =>
    have hconfig : g.config.dropEvidenceOnPublisherDeath = true := by rwa [config_of_run h]
    apply (ih (fun e he ↦ hkept e (List.mem_append_left _ he))).kept hconfig op
    exact hkept _ (List.mem_append_right _ (List.mem_singleton.mpr rfl))

/-- A successful death notice drops exactly the publisher's evidence when the publisher's record was alive or
owned nothing, and only then; so it does in every run in which no epoch change has orphaned that evidence. -/
theorem deaths_drop_exactly_iff {config : GovernorConfig} {world : σ} {process : Process} {start : Millis}
    {past : History σ} (h : GovernorRun api config world process start past g)
    (hdrop : config.dropEvidenceOnPublisherDeath = true) (publisher : PublisherId) (pre post : History σ)
    (e : Event Op Reply (Governor σ)) (hpast : past = pre ++ e :: post) (hdeath : Buried e publisher) :
    (DropsExactly publisher e.before.snapshots e.after.snapshots ↔
      (∃ s, e.before.findPublisher publisher = some s ∧ s.alive = true) ∨
        ¬ Owns publisher e.before.snapshots) ∧
    ((∀ x ∈ pre, ¬ Orphans x publisher) → DropsExactly publisher e.before.snapshots e.after.snapshots) := by
  obtain ⟨hrun, hevent⟩ := h.splitAt hpast
  obtain ⟨now, hop, hout⟩ := hdeath
  rw [hop] at hevent
  have hok : (e.before.notePublisherDeath api publisher now).1 = .ok () := by
    rw [hevent] at hout
    exact Reply.status.inj hout
  have hafter : e.after = (e.before.notePublisherDeath api publisher now).2 := congrArg Event.after hevent
  have hconfig : e.before.config.dropEvidenceOnPublisherDeath = true := by rwa [config_of_run hrun]
  rw [hafter, ← not_silenced_iff]
  refine ⟨dropsExactly_iff hconfig hok, ?_⟩
  intro hkept
  apply (dropsExactly_iff hconfig hok).mpr
  have hattended := attended_of_run hrun hdrop hkept
  by_cases howns : Owns publisher e.before.snapshots
  · exact Or.inl (hattended howns)
  · exact Or.inr howns

section

open Atomicity

def dropping : GovernorConfig := { dropEvidenceOnPublisherDeath := true }

/-- A governor that drops the evidence of the dead, after one publisher has introduced itself and its fabric. -/
def attendedGovernor : Governor Unit :=
  final (step noStore) (recovered noStore dropping () ⟨0, 0⟩ 0) oneSwitchOps

theorem attendedGovernor_eq : attendedGovernor =
    (Governor.admitStream oneSwitchFrame 0
      (Governor.registerPublisher introduction 0 (recovered noStore dropping () ⟨0, 0⟩ 0)).2.countReceived).2 := by
  have h := admit_makeFrame .topology (sentAs 1 1 1) (show oneSwitchPayload.length ≤ _ by decide) 0
    (Governor.registerPublisher introduction 0 (recovered noStore dropping () ⟨0, 0⟩ 0)).2
  rw [if_neg (by decide)] at h
  rw [attendedGovernor, oneSwitchOps, final, List.foldl_cons, List.foldl_cons, List.foldl_nil, step_admitFrame,
    step_registerPublisher, oneSwitchFrame, h]

theorem buried_of_run {config : GovernorConfig} {world : σ} {process : Process} {start now : Millis}
    {past : History σ} (h : GovernorRun api config world process start past g)
    (hok : (g.notePublisherDeath api publisher now).1 = .ok ()) :
    ∃ past' g' e, GovernorRun api config world process start past' g' ∧ past' = past ++ e :: [] ∧
      Buried e publisher ∧ e.before = g ∧ e.after = (g.notePublisherDeath api publisher now).2 :=
  ⟨_, _, event (step api) (.notePublisherDeath publisher now) g, h.snoc _, rfl,
    ⟨now, rfl, congrArg Reply.status hok⟩, rfl, rfl⟩

/-- The same governor after the change to epoch 2, which fences the publisher. -/
def orphanedGovernor : Governor Unit := (attendedGovernor.installEpoch noStore ⟨2⟩ default 0).2

/-- The notice of a death finds nothing left to revoke: it succeeds, and the fabric of the dead publisher stays
installed. -/
theorem fenced_fabric_stays :
    ∃ past g, GovernorRun noStore dropping () ⟨0, 0⟩ 0 past g ∧ ∃ pre e post, past = pre ++ e :: post ∧
      Buried e introduction.publisher ∧ owner e.after.snapshots .topology = some introduction.publisher ∧
      ¬ DropsExactly introduction.publisher e.before.snapshots e.after.snapshots := by
  obtain ⟨past, hrun⟩ : ∃ past, GovernorRun noStore dropping () ⟨0, 0⟩ 0 past attendedGovernor :=
    Run.exists oneSwitchOps
  have hfenced : ∃ past, GovernorRun noStore dropping () ⟨0, 0⟩ 0 past orphanedGovernor := by
    rw [orphanedGovernor, ← step_installEpoch]
    exact ⟨_, hrun.snoc (.installEpoch ⟨2⟩ default 0)⟩
  have hok : (orphanedGovernor.notePublisherDeath noStore introduction.publisher 0).1 = .ok () := by
    rw [orphanedGovernor, attendedGovernor_eq]
    rfl
  have howner : owner (orphanedGovernor.notePublisherDeath noStore introduction.publisher 0).2.snapshots .topology =
      some introduction.publisher := by
    rw [orphanedGovernor, attendedGovernor_eq]
    rfl
  obtain ⟨past, hrun⟩ := hfenced
  obtain ⟨past', g', e, hrun', hpast, hdeath, -, hafter⟩ := buried_of_run hrun hok
  rw [← hafter] at howner
  refine ⟨past', g', hrun', past, e, [], hpast, hdeath, howner, ?_⟩
  intro hexact
  obtain ⟨x, hx, hname⟩ := Option.map_eq_some_iff.mp howner
  exact hexact.topology.1 x hx hname

/-- Noted of the live publisher, the death takes the fabric along. -/
theorem live_fabric_dropped :
    ∃ past g, GovernorRun noStore dropping () ⟨0, 0⟩ 0 past g ∧
      ∃ e ∈ past, Buried e introduction.publisher ∧
      Owns introduction.publisher e.before.snapshots ∧
      DropsExactly introduction.publisher e.before.snapshots e.after.snapshots := by
  obtain ⟨past, hrun⟩ : ∃ past, GovernorRun noStore dropping () ⟨0, 0⟩ 0 past attendedGovernor :=
    Run.exists oneSwitchOps
  have howner : owner attendedGovernor.snapshots .topology = some introduction.publisher := by
    rw [attendedGovernor_eq]
    rfl
  have hok : (attendedGovernor.notePublisherDeath noStore introduction.publisher 0).1 = .ok () := by
    rw [attendedGovernor_eq]
    rfl
  have halive : (attendedGovernor.findPublisher introduction.publisher).map PublisherState.alive = some true := by
    rw [attendedGovernor_eq]
    rfl
  obtain ⟨past', g', e, hrun', hpast, hdeath, hbefore, -⟩ := buried_of_run hrun hok
  obtain ⟨hiff, -⟩ := deaths_drop_exactly_iff hrun' rfl introduction.publisher past [] e hpast hdeath
  rw [← hbefore] at howner halive
  refine ⟨past', g', hrun', e, by simp [hpast], hdeath, ⟨.topology, howner⟩, hiff.mpr (Or.inl ?_)⟩
  obtain ⟨s, hs, hlive⟩ := Option.map_eq_some_iff.mp halive
  exact ⟨s, hs, hlive⟩

end

end HotspotGovernor.Deaths
