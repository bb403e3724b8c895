import HotspotGovernor.Operations

namespace HotspotGovernor.Effects

open Foundation Topology Evidence Detection Decisions Durable Framing Registry Governance
open Admission Operations

variable {σ : Type} {api : StoreApi σ} {g g' : Governor σ}

structure SameAuthority (g g' : Governor σ) : Prop where
  epoch : g'.epoch = g.epoch
  publishers : g'.publishers = g.publishers

theorem SameAuthority.find (h : SameAuthority g g') (id : PublisherId) :
    g'.findPublisher id = g.findPublisher id :=
  congrArg (fun r ↦ Publishers.findPublisher r id) h.publishers

/-- The call changed the record of one publisher and nothing else of the authority. -/
structure OnlyPublisher (id : PublisherId) (g g' : Governor σ) : Prop where
  epoch : g'.epoch = g.epoch
  others : ∀ other, other ≠ id → g'.findPublisher other = g.findPublisher other

theorem onlyPublisher_modify {id : PublisherId} (f : PublisherState → PublisherState)
    (hf : ∀ p, (f p).id = p.id) (hepoch : g'.epoch = g.epoch)
    (hpub : g'.publishers = g.publishers.modify id f hf) : OnlyPublisher id g g' := by
  refine ⟨hepoch, ?_⟩
  intro other hne
  unfold Governor.findPublisher
  rw [hpub]
  exact Publishers.findPublisher_modify_of_ne hf hne

theorem find_modify {id : PublisherId} {p : PublisherState} (f : PublisherState → PublisherState)
    (hf : ∀ p, (f p).id = p.id) (hp : g.findPublisher id = some p)
    (hpub : g'.publishers = g.publishers.modify id f hf) : g'.findPublisher id = some (f p) := by
  unfold Governor.findPublisher at hp ⊢
  rw [hpub, Publishers.findPublisher_modify_self, hp]
  rfl

section

variable (api : StoreApi σ) (boot : BootId) (epoch : CoordinatorEpoch) (now : Millis) (record : JournalRecord)
variable (g : Governor σ)

inductive Persists : Status × Governor σ → Prop
  | closed (ho : g.storeOpen = false) : Persists (.ok (), g)
  | refused (e : Failure) (world : σ) (ho : g.storeOpen = true)
      (hc : api.commit (g.durableSnapshot api boot epoch now) [record] g.world = (.error e, world)) :
      Persists (.error e, { g with world })
  | taken (world : σ) (ho : g.storeOpen = true)
      (hc : api.commit (g.durableSnapshot api boot epoch now) [record] g.world = (.ok (), world)) :
      Persists (.ok (), { g with world, durable := g.durableSnapshot api boot epoch now })

theorem persists : Persists api boot epoch now record g (g.persist api boot epoch now record) := by
  simp only [Governor.persist]
  by_cases ho : g.storeOpen = true
  · rw [if_neg (by simp [ho])]
    cases hc : api.commit (g.durableSnapshot api boot epoch now) [record] g.world with
    | mk status world =>
      cases status with
      | error e => exact .refused e world ho hc
      | ok u => exact .taken world ho hc
  · rw [if_pos (by simp [ho])]
    exact .closed (by simpa using ho)

variable {api boot epoch now record g} in
theorem persist_eq {status : Status} (h : g.persist api boot epoch now record = (status, g')) :
    ∃ world durable, g' = { g with world, durable } := by
  have hp := persists api boot epoch now record g
  rw [h] at hp
  cases hp with
  | closed ho => exact ⟨g'.world, g'.durable, rfl⟩
  | refused e world ho hc => exact ⟨world, g.durable, rfl⟩
  | taken world ho hc => exact ⟨world, _, rfl⟩

inductive Installs : Status × Governor σ → Prop
  | reserved (e : Failure) (hv : epoch.valid = false) : Installs (.error e, g)
  | stale (e : Failure) (m : Metrics) (hv : g.epoch.valid = true) (hlt : epoch < g.epoch) :
      Installs (.error e, { g with metrics := m })
  | refused (e : Failure) (g' : Governor σ) (next : BootId) (record : JournalRecord)
      (hp : g.persist api next epoch now record = (.error e, g'))
      (hle : g.epoch.valid = true → g.epoch ≤ epoch) : Installs (.error e, g')
  | entered (g' : Governor σ) (next : BootId) (record : JournalRecord)
      (hp : g.persist api next epoch now record = (.ok (), g')) (hv : epoch.valid = true)
      (hle : g.epoch.valid = true → g.epoch ≤ epoch) : Installs (.ok (), g'.enterEpoch epoch next now)

theorem installs : Installs api epoch now g (g.installEpoch api epoch boot now) := by
  simp only [Governor.installEpoch]
  split
  · next hv => exact .reserved _ (by simpa using hv)
  · next hv =>
    split
    · next hlt => exact .stale _ _ hlt.1 hlt.2
    · next hlt =>
      have hle : g.epoch.valid = true → g.epoch ≤ epoch := fun hvalid ↦ not_lt.mp (fun h ↦ hlt ⟨hvalid, h⟩)
      split
      · next e g' hout => exact .refused e g' _ _ hout hle
      · next g' hout => exact .entered g' _ _ hout (by simpa using hv) hle

variable (publisher : PublisherId)

def deathRecord : JournalRecord :=
  { type := .publisherDeath
    at_ := now
    payload := ByteIo.putU64 publisher.value ++ ByteIo.putI64 now }

inductive Notes : Status × Governor σ → Prop
  | unknown (e : Failure) (hs : g.findPublisher publisher = none) : Notes (.error e, g)
  | refused (e : Failure) (g' : Governor σ)
      (hp : g.persist api g.boot g.epoch now (deathRecord now publisher) = (.error e, g')) : Notes (.error e, g')
  | dead (s : PublisherState) (g' : Governor σ) (hs : g.findPublisher publisher = some s) (hdead : s.alive = false)
      (hp : g.persist api g.boot g.epoch now (deathRecord now publisher) = (.ok (), g')) : Notes (.ok (), g')
  | revoked (s : PublisherState) (g' : Governor σ) (hs : g.findPublisher publisher = some s)
      (halive : s.alive = true)
      (hp : g.persist api g.boot g.epoch now (deathRecord now publisher) = (.ok (), g')) :
      Notes (.ok (), g'.revoke publisher now)

theorem notes : Notes api now g publisher (g.notePublisherDeath api publisher now) := by
  simp only [Governor.notePublisherDeath]
  split
  · next hs => exact .unknown _ hs
  · next s hs =>
    split
    · next e g' hout => exact .refused e g' hout
    · next g' hout =>
      cases halive : s.alive with
      | false => exact .dead s g' hs halive hout
      | true => exact .revoked s g' hs halive hout

end

theorem commitDurable_eq (api : StoreApi σ) (now : Millis) (g : Governor σ) :
    ∃ world durable metrics, (g.commitDurable api now).2 = { g with world, durable, metrics } := by
  simp only [Governor.commitDurable]
  split
  · exact ⟨_, _, _, rfl⟩
  · split
    · exact ⟨_, _, _, rfl⟩
    · exact ⟨_, _, _, rfl⟩

theorem installEpoch_eq (api : StoreApi σ) (epoch : CoordinatorEpoch) (boot : BootId) (now : Millis)
    (g : Governor σ) : ∃ world durable metrics epoch' boot' publishers,
      (g.installEpoch api epoch boot now).2 =
        { g with world, durable, metrics, epoch := epoch', boot := boot', publishers } := by
  have h := installs api boot epoch now g
  generalize g.installEpoch api epoch boot now = out at h ⊢
  cases h with
  | reserved e hv => exact ⟨_, _, _, _, _, _, rfl⟩
  | stale e m hv hlt => exact ⟨_, _, _, _, _, _, rfl⟩
  | refused e g' next record hp hle =>
    obtain ⟨world, durable, rfl⟩ := persist_eq hp
    exact ⟨_, _, _, _, _, _, rfl⟩
  | entered g' next record hp hv hle =>
    obtain ⟨world, durable, rfl⟩ := persist_eq hp
    exact ⟨_, _, _, _, _, _, rfl⟩

theorem registerPublisher_eq (hello : HelloPayload) (now : Millis) (g : Governor σ) :
    ∃ publishers metrics, (g.registerPublisher hello now).2 = { g with publishers, metrics } := by
  simp only [Governor.registerPublisher, Governor.reenlist, Governor.staleIncarnation]
  split
  · exact ⟨_, _, rfl⟩
  · split
    · exact ⟨_, _, rfl⟩
    · split
      · exact ⟨_, _, rfl⟩
      · split
        · exact ⟨_, _, rfl⟩
        · split <;> split_ifs <;> exact ⟨_, _, rfl⟩

theorem notePublisherDeath_eq (api : StoreApi σ) (publisher : PublisherId) (now : Millis) (g : Governor σ) :
    ∃ world durable metrics publishers snapshots, (g.notePublisherDeath api publisher now).2 =
      { g with world, durable, metrics, publishers, snapshots } := by
  have h := notes api now g publisher
  generalize g.notePublisherDeath api publisher now = out at h ⊢
  cases h with
  | unknown e hs => exact ⟨_, _, _, _, _, rfl⟩
  | refused e g' hp =>
    obtain ⟨world, durable, rfl⟩ := persist_eq hp
    exact ⟨_, _, _, _, _, rfl⟩
  | dead s g' hs hdead hp =>
    obtain ⟨world, durable, rfl⟩ := persist_eq hp
    exact ⟨_, _, _, _, _, rfl⟩
  | revoked s g' hs halive hp =>
    obtain ⟨world, durable, rfl⟩ := persist_eq hp
    exact ⟨_, _, _, _, _, rfl⟩

theorem admitFrame_eq (f : Frame) (now : Millis) (g : Governor σ) :
    ∃ publishers metrics snapshots verified, (g.admitFrame f now).2 =
      { g with publishers, metrics, snapshots, verified } := by
  have h := admits f now g
  generalize g.admitFrame f now = out at h ⊢
  cases h with
  | unauthorized e m hs hb => exact ⟨_, _, _, _, rfl⟩
  | heartbeat p m hb => exact ⟨_, _, _, _, rfl⟩
  | undecoded p e m hp hd => exact ⟨_, _, _, _, rfl⟩
  | unresolved p s n e m hp hd hv => exact ⟨_, _, _, _, rfl⟩
  | applied p s n m hp hd hv => exact ⟨_, _, _, _, rfl⟩

theorem step_config (api : StoreApi σ) (op : Op) (g : Governor σ) :
    (step api op g).2.config = g.config ∧ (step api op g).2.storeOpen = g.storeOpen := by
  cases op with
  | installEpoch epoch boot now =>
    obtain ⟨_, _, _, _, _, _, h⟩ := installEpoch_eq api epoch boot now g
    exact ⟨(congrArg Governor.config h :), (congrArg Governor.storeOpen h :)⟩
  | registerPublisher hello now =>
    obtain ⟨_, _, h⟩ := registerPublisher_eq hello now g
    exact ⟨(congrArg Governor.config h :), (congrArg Governor.storeOpen h :)⟩
  | notePublisherDeath publisher now =>
    obtain ⟨_, _, _, _, _, h⟩ := notePublisherDeath_eq api publisher now g
    exact ⟨(congrArg Governor.config h :), (congrArg Governor.storeOpen h :)⟩
  | admitFrame frame now =>
    obtain ⟨_, _, _, _, h⟩ := admitFrame_eq frame now g
    exact ⟨(congrArg Governor.config h :), (congrArg Governor.storeOpen h :)⟩
  | evaluate now => exact ⟨rfl, rfl⟩
  | commitDurable now =>
    obtain ⟨_, _, _, h⟩ := commitDurable_eq api now g
    exact ⟨(congrArg Governor.config h :), (congrArg Governor.storeOpen h :)⟩

theorem step_engine (api : StoreApi σ) {op : Op} (hop : ∀ now, op ≠ .evaluate now) (g : Governor σ) :
    (step api op g).2.engine = g.engine := by
  cases op with
  | installEpoch epoch boot now =>
    obtain ⟨_, _, _, _, _, _, h⟩ := installEpoch_eq api epoch boot now g
    exact (congrArg Governor.engine h :)
  | registerPublisher hello now =>
    obtain ⟨_, _, h⟩ := registerPublisher_eq hello now g
    exact (congrArg Governor.engine h :)
  | notePublisherDeath publisher now =>
    obtain ⟨_, _, _, _, _, h⟩ := notePublisherDeath_eq api publisher now g
    exact (congrArg Governor.engine h :)
  | admitFrame f now =>
    obtain ⟨_, _, _, _, h⟩ := admitFrame_eq f now g
    exact (congrArg Governor.engine h :)
  | evaluate now => exact absurd rfl (hop now)
  | commitDurable now =>
    obtain ⟨_, _, _, h⟩ := commitDurable_eq api now g
    exact (congrArg Governor.engine h :)

theorem commitDurable_same (now : Millis) : SameAuthority g (g.commitDurable api now).2 := by
  obtain ⟨_, _, _, h⟩ := commitDurable_eq api now g
  rw [h]
  exact ⟨rfl, rfl⟩

theorem commitDurable_storeOpen (now : Millis) : (g.commitDurable api now).2.storeOpen = g.storeOpen :=
  (step_config api (.commitDurable now) g).2

theorem evaluate_same (now : Millis) : SameAuthority g (g.evaluate now).2 := ⟨rfl, rfl⟩

theorem installEpoch_cases (epoch : CoordinatorEpoch) (boot : BootId) (now : Millis) :
    (∃ e g', g.installEpoch api epoch boot now = (.error e, g') ∧ SameAuthority g g' ∧
      g'.storeOpen = g.storeOpen) ∨
    ∃ g', g.installEpoch api epoch boot now = (.ok (), g') ∧ epoch.valid = true ∧
      (g.epoch.valid = true → g.epoch ≤ epoch) ∧ g'.epoch = epoch ∧
      g'.publishers = g.publishers.fenceAll epoch now ∧ g'.storeOpen = g.storeOpen := by
  have h := installs api boot epoch now g
  generalize g.installEpoch api epoch boot now = out at h ⊢
  cases h with
  | reserved e hv => exact Or.inl ⟨e, g, rfl, ⟨rfl, rfl⟩, rfl⟩
  | stale e m hv hlt => exact Or.inl ⟨e, _, rfl, ⟨rfl, rfl⟩, rfl⟩
  | refused e g' next record hp hle =>
    obtain ⟨world, durable, rfl⟩ := persist_eq hp
    exact Or.inl ⟨e, _, rfl, ⟨rfl, rfl⟩, rfl⟩
  | entered g' next record hp hv hle =>
    obtain ⟨world, durable, rfl⟩ := persist_eq hp
    exact Or.inr ⟨_, rfl, hv, hle, rfl, rfl, rfl⟩

theorem installEpoch_storeOpen (epoch : CoordinatorEpoch) (boot : BootId) (now : Millis) :
    (g.installEpoch api epoch boot now).2.storeOpen = g.storeOpen :=
  (step_config api (.installEpoch epoch boot now) g).2

/-- How a successful registration changes the record of its publisher. -/
inductive Registers (hello : HelloPayload) (epoch : CoordinatorEpoch) (now : Millis) :
    Option PublisherState → PublisherState → Prop
  | enroll : Registers hello epoch now none (PublisherState.enroll hello epoch now)
  | refresh (s : PublisherState) (hi : hello.incarnation = s.incarnation) (hb : hello.boot = s.boot) :
      Registers hello epoch now (some s) (s.refresh epoch now)
  | supersede (s : PublisherState) (hi : s.incarnation < hello.incarnation) :
      Registers hello epoch now (some s) (s.supersede hello epoch now)

theorem reenlist_cases {hello : HelloPayload} {now : Millis} {s : PublisherState}
    (hs : g.findPublisher hello.publisher = some s) :
    (∃ e g', g.reenlist hello now s = (.error e, g') ∧ SameAuthority g g') ∨
    ∃ welcome g', g.reenlist hello now s = (.ok welcome, g') ∧ OnlyPublisher hello.publisher g g' ∧
      ∃ s', g'.findPublisher hello.publisher = some s' ∧ Registers hello g.epoch now (some s) s' := by
  unfold Governor.reenlist
  by_cases hlt : hello.incarnation < s.incarnation
  · rw [if_pos hlt]
    exact Or.inl ⟨_, _, rfl, rfl, rfl⟩
  rw [if_neg hlt]
  by_cases hi : hello.incarnation = s.incarnation
  · rw [if_pos hi]
    by_cases hb : hello.boot ≠ s.boot
    · rw [if_pos hb]
      exact Or.inl ⟨_, _, rfl, rfl, rfl⟩
    · rw [if_neg hb]
      exact Or.inr ⟨_, _, rfl, onlyPublisher_modify (fun p ↦ p.refresh g.epoch now) (fun _ ↦ rfl) rfl rfl,
        s.refresh g.epoch now, find_modify (fun p ↦ p.refresh g.epoch now) (fun _ ↦ rfl) hs rfl,
        .refresh s hi (not_not.mp hb)⟩
  · rw [if_neg hi]
    exact Or.inr ⟨_, _, rfl,
      onlyPublisher_modify (fun p ↦ p.supersede hello g.epoch now) (fun _ ↦ rfl) rfl rfl,
      s.supersede hello g.epoch now,
      find_modify (fun p ↦ p.supersede hello g.epoch now) (fun _ ↦ rfl) hs rfl,
      .supersede s (lt_of_le_of_ne (not_lt.mp hlt) (Ne.symm hi))⟩

theorem registerPublisher_cases (hello : HelloPayload) (now : Millis) :
    (∃ e g', g.registerPublisher hello now = (.error e, g') ∧ SameAuthority g g') ∨
    ∃ welcome g', g.registerPublisher hello now = (.ok welcome, g') ∧ hello.publisher.valid = true ∧
      OnlyPublisher hello.publisher g g' ∧ ∃ s', g'.findPublisher hello.publisher = some s' ∧
        Registers hello g.epoch now (g.findPublisher hello.publisher) s' := by
  unfold Governor.registerPublisher
  by_cases hv : (!hello.publisher.valid) = true
  · rw [if_pos hv]
    exact Or.inl ⟨_, g, rfl, rfl, rfl⟩
  rw [if_neg hv]
  by_cases hi : (!hello.incarnation.valid) = true
  · rw [if_pos hi]
    exact Or.inl ⟨_, g, rfl, rfl, rfl⟩
  rw [if_neg hi]
  by_cases hb : (!hello.boot.valid) = true
  · rw [if_pos hb]
    exact Or.inl ⟨_, g, rfl, rfl, rfl⟩
  rw [if_neg hb]
  by_cases he : (!g.epoch.valid) = true
  · rw [if_pos he]
    exact Or.inl ⟨_, g, rfl, rfl, rfl⟩
  rw [if_neg he]
  have hvalid : hello.publisher.valid = true := by simpa using hv
  split
  · next s hs =>
    have hfound : g.findPublisher hello.publisher = some s := hs
    rw [hfound]
    rcases reenlist_cases hfound with h | ⟨welcome, g', hout, honly, hs'⟩
    · exact Or.inl h
    · exact Or.inr ⟨welcome, g', hout, hvalid, honly, hs'⟩
  · next hs =>
    have hfound : g.findPublisher hello.publisher = none := hs
    rw [hfound]
    by_cases hfull : g.publishers.entries.length ≥ Limits.kMaxPublishers
    · rw [if_pos hfull]
      exact Or.inl ⟨_, g, rfl, rfl, rfl⟩
    · rw [if_neg hfull]
      refine Or.inr ⟨_, _, rfl, hvalid, ⟨rfl, ?_⟩, _, ?_, .enroll⟩
      · intro other hne
        exact Publishers.findPublisher_insert_of_ne hs hne
      · exact Publishers.findPublisher_insert_self hs

def Recorded (api : StoreApi σ) (publisher : PublisherId) (now : Millis) (g : Governor σ) : Prop :=
  (g.persist api g.boot g.epoch now
    { type := .publisherDeath
      at_ := now
      payload := ByteIo.putU64 publisher.value ++ ByteIo.putI64 now }).1 = .ok ()

theorem notePublisherDeath_cases (publisher : PublisherId) (now : Millis) :
    (∃ e g', g.notePublisherDeath api publisher now = (.error e, g') ∧ SameAuthority g g' ∧
      g'.storeOpen = g.storeOpen ∧ (g.findPublisher publisher = none ∨ ¬ Recorded api publisher now g)) ∨
    ∃ s g' s', g.notePublisherDeath api publisher now = (.ok (), g') ∧
      g.findPublisher publisher = some s ∧ OnlyPublisher publisher g g' ∧
      g'.findPublisher publisher = some s' ∧ s'.alive = false ∧ (s' = s ∨ s' = s.die now) ∧
      g'.storeOpen = g.storeOpen ∧ Recorded api publisher now g := by
  have h := notes api now g publisher
  generalize g.notePublisherDeath api publisher now = out at h ⊢
  cases h with
  | unknown e hs => exact Or.inl ⟨e, g, rfl, ⟨rfl, rfl⟩, rfl, Or.inl hs⟩
  | refused e g' hp =>
    have hrefused : ¬ Recorded api publisher now g := by
      intro hrec
      cases hrec.symm.trans (congrArg Prod.fst hp)
    obtain ⟨world, durable, rfl⟩ := persist_eq hp
    exact Or.inl ⟨e, _, rfl, ⟨rfl, rfl⟩, rfl, Or.inr hrefused⟩
  | dead s g' hs hdead hp =>
    have htaken : Recorded api publisher now g := congrArg Prod.fst hp
    obtain ⟨world, durable, rfl⟩ := persist_eq hp
    exact Or.inr ⟨s, _, s, rfl, hs, ⟨rfl, fun _ _ ↦ rfl⟩, hs, hdead, Or.inl rfl, rfl, htaken⟩
  | revoked s g' hs halive hp =>
    have htaken : Recorded api publisher now g := congrArg Prod.fst hp
    obtain ⟨world, durable, rfl⟩ := persist_eq hp
    exact Or.inr ⟨s, _, s.die now, rfl, hs, onlyPublisher_modify (fun p ↦ p.die now) (fun _ ↦ rfl) rfl rfl,
      find_modify (fun p ↦ p.die now) (fun _ ↦ rfl) hs rfl, rfl, Or.inr rfl, rfl, htaken⟩

/-- What the record of a publisher says about who may speak for it. -/
structure Credentials where
  incarnation : Incarnation
  boot : BootId
  alive : Bool

def credentialsOf (s : PublisherState) : Credentials := ⟨s.incarnation, s.boot, s.alive⟩

def credentials (g : Governor σ) (id : PublisherId) : Option Credentials :=
  (g.findPublisher id).map credentialsOf

structure Steady (g g' : Governor σ) : Prop where
  storeOpen : g'.storeOpen = g.storeOpen
  epoch : g'.epoch = g.epoch
  credentials : credentials g' = credentials g

theorem SameAuthority.steady (h : SameAuthority g g') (ho : g'.storeOpen = g.storeOpen) : Steady g g' := by
  refine ⟨ho, h.epoch, ?_⟩
  funext id
  exact congrArg (Option.map credentialsOf) (h.find id)

structure Entitles (id : PublisherId) (entry : Option Credentials) (g g' : Governor σ) : Prop where
  storeOpen : g'.storeOpen = g.storeOpen
  epoch : g'.epoch = g.epoch
  credentials : credentials g' = Function.update (credentials g) id entry

theorem OnlyPublisher.entitles {id : PublisherId} {s : PublisherState} (h : OnlyPublisher id g g')
    (hs : g'.findPublisher id = some s) (ho : g'.storeOpen = g.storeOpen) :
    Entitles id (some (credentialsOf s)) g g' := by
  refine ⟨ho, h.epoch, ?_⟩
  funext other
  by_cases hne : other = id
  · rw [hne, Function.update_self, credentials, hs]
    rfl
  · rw [Function.update_of_ne hne, credentials, h.others other hne]
    rfl

theorem credentials_modify {id : PublisherId} (f : PublisherState → PublisherState)
    (hf : ∀ p, (f p).id = p.id) (hpub : g'.publishers = g.publishers.modify id f hf)
    (hsame : ∀ p, g.findPublisher id = some p → credentialsOf (f p) = credentialsOf p) :
    credentials g' = credentials g := by
  funext other
  unfold credentials Governor.findPublisher
  rw [hpub]
  by_cases hne : other = id
  · rw [hne, Publishers.findPublisher_modify_self]
    unfold Governor.findPublisher at hsame
    cases hp : g.publishers.findPublisher id with
    | none => rfl
    | some p => exact congrArg some (hsame p hp)
  · rw [Publishers.findPublisher_modify_of_ne hf hne]

theorem credentialsOf_enter (s : PublisherState) (epoch : CoordinatorEpoch) :
    credentialsOf (s.enter epoch) = credentialsOf s := by
  unfold PublisherState.enter
  split <;> rfl

theorem credentials_enterPublisher (id : PublisherId) : credentials (g.enterPublisher id) = credentials g :=
  credentials_modify (fun p ↦ p.enter g.epoch) (fun p ↦ p.enter_id g.epoch) rfl
    (fun p _ ↦ credentialsOf_enter p g.epoch)

theorem admit_steady (f : Frame) (now : Millis) : Steady g (g.admitFrame f now).2 := by
  have h := admits f now g
  generalize g.admitFrame f now = out at h ⊢
  cases h with
  | unauthorized e m hs hb => exact ⟨rfl, rfl, rfl⟩
  | heartbeat p m hb =>
    exact ⟨rfl, rfl,
      credentials_modify (fun p ↦ p.beat f.header.sequence now) (fun _ ↦ rfl) rfl (fun _ _ ↦ rfl)⟩
  | undecoded p e m hp hd => exact ⟨rfl, rfl, credentials_enterPublisher f.header.publisher⟩
  | unresolved p s n e m hp hd hv => exact ⟨rfl, rfl, credentials_enterPublisher f.header.publisher⟩
  | applied p s n m hp hd hv =>
    refine ⟨rfl, rfl, ?_⟩
    refine (credentials_modify (fun p ↦ p.apply (streamOf f.header.type) f.header now) (fun _ ↦ rfl)
      (g := g.enterPublisher f.header.publisher) rfl ?_).trans (credentials_enterPublisher f.header.publisher)
    intro q hq
    have hcred := congrFun (credentials_enterPublisher (g := g) f.header.publisher) f.header.publisher
    unfold credentials at hcred
    rw [hq, hp.found] at hcred
    have halive : q.alive = true :=
      (congrArg Credentials.alive (Option.some.inj hcred)).trans (authorize_eq_ok.mp hp.fenced).2.2.2.2.2.2
    unfold credentialsOf PublisherState.apply
    rw [halive]

theorem registerPublisher_storeOpen (hello : HelloPayload) (now : Millis) :
    (g.registerPublisher hello now).2.storeOpen = g.storeOpen := by
  obtain ⟨_, _, h⟩ := registerPublisher_eq hello now g
  rw [h]

theorem registerPublisher_entitles (hello : HelloPayload) (now : Millis) :
    (∃ e g', g.registerPublisher hello now = (.error e, g') ∧ Steady g g') ∨
    ∃ welcome g', g.registerPublisher hello now = (.ok welcome, g') ∧ hello.publisher.valid = true ∧
      Entitles hello.publisher (some ⟨hello.incarnation, hello.boot, true⟩) g g' := by
  have ho := registerPublisher_storeOpen (g := g) hello now
  rcases registerPublisher_cases (g := g) hello now with
    ⟨e, g', hout, hsame⟩ | ⟨welcome, g', hout, hvalid, honly, s', hs', hreg⟩
  · rw [hout] at ho
    exact Or.inl ⟨e, g', hout, hsame.steady ho⟩
  · rw [hout] at ho
    have hcred : credentialsOf s' = ⟨hello.incarnation, hello.boot, true⟩ := by
      generalize g.findPublisher hello.publisher = entry at hreg
      cases hreg with
      | enroll => rfl
      | refresh s hi hb =>
        rw [hi, hb]
        rfl
      | supersede s hi => rfl
    exact Or.inr ⟨welcome, g', hout, hvalid, hcred ▸ honly.entitles hs' ho⟩

theorem recorded_of_closed (h : g.storeOpen = false) (publisher : PublisherId) (now : Millis) :
    Recorded api publisher now g := by
  unfold Recorded Governor.persist
  rw [if_pos (by simp [h])]

theorem notePublisherDeath_recorded {publisher : PublisherId} {now : Millis}
    (h : Recorded api publisher now g) :
    Entitles publisher ((credentials g publisher).map (fun c ↦ { c with alive := false })) g
      (g.notePublisherDeath api publisher now).2 := by
  rcases notePublisherDeath_cases (g := g) publisher now with
    ⟨e, g', hout, hsame, ho, hwhy⟩ | ⟨s, g', s', hout, hs, honly, hs', hdead, hcase, ho, -⟩
  · have hnone : credentials g publisher = none :=
      congrArg (Option.map credentialsOf) (hwhy.resolve_right (not_not.mpr h))
    have hsteady := hsame.steady ho
    rw [hout, hnone]
    exact ⟨ho, hsame.epoch, hsteady.credentials.trans (Function.update_eq_self_iff.mpr hnone.symm).symm⟩
  · have hcred : (credentials g publisher).map (fun c ↦ { c with alive := false }) =
        some (credentialsOf s') := by
      have hsame : s'.incarnation = s.incarnation ∧ s'.boot = s.boot := by
        rcases hcase with rfl | rfl <;> exact ⟨rfl, rfl⟩
      rw [credentials, hs]
      unfold credentialsOf
      rw [hdead, hsame.1, hsame.2]
      rfl
    rw [hout, hcred]
    exact honly.entitles hs' ho

theorem notePublisherDeath_unrecorded {publisher : PublisherId} {now : Millis}
    (h : ¬ Recorded api publisher now g) : Steady g (g.notePublisherDeath api publisher now).2 := by
  rcases notePublisherDeath_cases (g := g) publisher now with
    ⟨e, g', hout, hsame, ho, -⟩ | ⟨s, g', s', -, -, -, -, -, -, -, hrec⟩
  · rw [hout]
    exact hsame.steady ho
  · exact absurd hrec h

theorem next_valid {tag : IdTag} {id : StrongId tag} (h : id.valid = true) : id.next.valid = true := by
  unfold StrongId.next
  split
  · exact h
  · next hmax =>
    have hne : id.value + 1 ≠ 0 := by
      intro h0
      apply hmax
      have hsum := congrArg UInt64.toNat h0
      have hlt := id.value.toNat_lt
      rw [UInt64.toNat_add, UInt64.toNat_one, UInt64.toNat_zero] at hsum
      have hmax' : (UInt64.ofNat (2 ^ 64 - 1)).toNat = 2 ^ 64 - 1 := rfl
      apply UInt64.toNat_inj.mp
      omega
    simpa [StrongId.valid] using hne

theorem initialEpoch_valid (config : GovernorConfig) :
    (if config.initialEpoch.valid = true then config.initialEpoch else ⟨1⟩ : CoordinatorEpoch).valid =
      true := by
  split
  · assumption
  · rfl

theorem recovered_spec (api : StoreApi σ) (config : GovernorConfig) (world : σ) (process : Process)
    (now : Millis) : (recovered api config world process now).epoch.valid = true ∧
      (recovered api config world process now).publishers = default := by
  have hinit := initialEpoch_valid config
  unfold recovered Governor.recover
  dsimp only
  split
  · exact ⟨hinit, rfl⟩
  · split
    · exact ⟨hinit, rfl⟩
    · split
      · next state _ =>
        refine ⟨?_, rfl⟩
        unfold Governor.adopt
        dsimp only
        split
        · next hlast => exact next_valid hlast
        · exact hinit
      · split <;> exact ⟨hinit, rfl⟩

theorem recovered_evidence (api : StoreApi σ) (config : GovernorConfig) (world : σ) (process : Process)
    (now : Millis) : (recovered api config world process now).config = config ∧
      (recovered api config world process now).snapshots = {} ∧
      (recovered api config world process now).verified = {} := by
  simp only [recovered, Governor.recover]
  split
  · exact ⟨rfl, rfl, rfl⟩
  · split
    · exact ⟨rfl, rfl, rfl⟩
    · split
      · exact ⟨rfl, rfl, rfl⟩
      · split <;> exact ⟨rfl, rfl, rfl⟩

end HotspotGovernor.Effects
