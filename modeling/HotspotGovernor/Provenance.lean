import HotspotGovernor.Fencing

namespace HotspotGovernor.Provenance

open Foundation Topology Evidence Durable Framing Registry Governance
open Admission Operations Effects Fencing Lib.Trace

variable {σ : Type}

def only : StreamKind → Snapshots → Snapshots
  | .unknown, _ => {}
  | .topology, s => { topology := s.topology }
  | .capacity, s => { capacity := s.capacity }
  | .signals, s => { signals := s.signals }
  | .paths, s => { paths := s.paths }
  | .traffic, s => { traffic := s.traffic }
  | .policy, s => { policy := s.policy }

variable {s s' : Snapshots} {f : Frame} {n : ℕ} {stream : StreamKind}

/-- A frame that decodes puts into the place of its stream what it decodes to on its own, and leaves the
other streams alone. -/
theorem decodeInto_spec (h : decodeInto s f = .ok (s', n)) : ∃ t, decodeInto {} f = .ok (t, n) ∧
    ∀ stream, only stream s' = if streamOf f.header.type = stream then only stream t else only stream s := by
  unfold decodeInto at h ⊢
  dsimp only at h ⊢
  cases ht : f.header.type with
  | topology =>
    rw [ht] at h
    obtain ⟨snapshot, hd, h⟩ := TopologyIndex.bind_eq_ok h
    split at h
    · cases h
    · obtain ⟨rfl, hn⟩ := Prod.mk.inj (Except.ok.inj h)
      refine ⟨{ topology := some (snapshot.setProvenance (provenanceOf f.header)) }, ?_, ?_⟩
      · rw [hd, ← hn]
        rfl
      · intro stream
        cases stream <;> rfl
  | capacity =>
    rw [ht] at h
    obtain ⟨snapshot, hd, h⟩ := TopologyIndex.bind_eq_ok h
    obtain ⟨rfl, hn⟩ := Prod.mk.inj (Except.ok.inj h)
    refine ⟨{ capacity := some { snapshot with provenance := provenanceOf f.header } }, ?_, ?_⟩
    · rw [hd, ← hn]
      rfl
    · intro stream
      cases stream <;> rfl
  | signals =>
    rw [ht] at h
    obtain ⟨snapshot, hd, h⟩ := TopologyIndex.bind_eq_ok h
    obtain ⟨rfl, hn⟩ := Prod.mk.inj (Except.ok.inj h)
    refine ⟨{ signals := some { snapshot with provenance := provenanceOf f.header } }, ?_, ?_⟩
    · rw [hd, ← hn]
      rfl
    · intro stream
      cases stream <;> rfl
  | paths =>
    rw [ht] at h
    obtain ⟨snapshot, hd, h⟩ := TopologyIndex.bind_eq_ok h
    obtain ⟨rfl, hn⟩ := Prod.mk.inj (Except.ok.inj h)
    refine ⟨{ paths := some { snapshot with provenance := provenanceOf f.header } }, ?_, ?_⟩
    · rw [hd, ← hn]
      rfl
    · intro stream
      cases stream <;> rfl
  | traffic =>
    rw [ht] at h
    obtain ⟨snapshot, hd, h⟩ := TopologyIndex.bind_eq_ok h
    obtain ⟨rfl, hn⟩ := Prod.mk.inj (Except.ok.inj h)
    refine ⟨{ traffic := some { snapshot with provenance := provenanceOf f.header } }, ?_, ?_⟩
    · rw [hd, ← hn]
      rfl
    · intro stream
      cases stream <;> rfl
  | policy =>
    rw [ht] at h
    obtain ⟨snapshot, hd, h⟩ := TopologyIndex.bind_eq_ok h
    obtain ⟨rfl, hn⟩ := Prod.mk.inj (Except.ok.inj h)
    refine ⟨{ policy := some { snapshot with provenance := provenanceOf f.header } }, ?_, ?_⟩
    · rw [hd, ← hn]
      rfl
    · intro stream
      cases stream <;> rfl
  | _ =>
    rw [ht] at h
    cases h

theorem only_dropEvidence (publisher : PublisherId) (stream : StreamKind) (s : Snapshots) :
    only stream (Governor.dropEvidence publisher s) = only stream s ∨
      only stream (Governor.dropEvidence publisher s) = {} := by
  have hslot : ∀ {α : Type} (put : Option α → Snapshots) (p : α → Bool) (x : Option α),
      put (x.filter p) = put x ∨ put (x.filter p) = put none := by
    intro α put p x
    cases x with
    | none => exact Or.inl rfl
    | some a =>
      rw [Option.filter_some]
      split
      · exact Or.inl rfl
      · exact Or.inr rfl
  unfold Governor.dropEvidence
  cases stream with
  | unknown => exact Or.inl rfl
  | topology => exact hslot (fun x ↦ { topology := x }) _ s.topology
  | capacity => exact hslot (fun x ↦ { capacity := x }) _ s.capacity
  | signals => exact hslot (fun x ↦ { signals := x }) _ s.signals
  | paths => exact hslot (fun x ↦ { paths := x }) _ s.paths
  | traffic => exact hslot (fun x ↦ { traffic := x }) _ s.traffic
  | policy => exact hslot (fun x ↦ { policy := x }) _ s.policy

/-- The call was given a frame of this stream that passed the fence, came in order and decoded. -/
def Installs (stream : StreamKind) (e : Event Op Reply (Governor σ)) (f : Frame) : Prop :=
  streamOf f.header.type = stream ∧ (∃ now, e.op = .admitFrame f now) ∧
    ∃ p s n, Authorized f e.before p ∧ Decoded f e.before p s n

def Installing (stream : StreamKind) (e : Event Op Reply (Governor σ)) : Prop := ∃ f, Installs stream e f

/-- The snapshot of a stream is what the latest frame that was installed in it decodes to on its own. -/
def Traced (past : Fencing.History σ) (s : Snapshots) (stream : StreamKind) : Prop :=
  only stream s = {} ∨ ∃ e f t n, Last (Installing stream) past e ∧ Installs stream e f ∧
    decodeInto {} f = .ok (t, n) ∧ only stream s = only stream t

variable {past : Fencing.History σ} {g : Governor σ} {e : Event Op Reply (Governor σ)} {api : StoreApi σ}

theorem Traced.quiet (h : Traced past s stream) (hsame : only stream s' = only stream s ∨ only stream s' = {})
    (he : ¬ Installing stream e) : Traced (past ++ [e]) s' stream := by
  rcases hsame with hsame | hnone
  · rcases h with hnone | ⟨x, f, t, n, hlast, hx, hdecode, honly⟩
    · exact Or.inl (hsame.trans hnone)
    · exact Or.inr ⟨x, f, t, n, last_snoc_iff.mpr (Or.inr ⟨he, hlast⟩), hx, hdecode, hsame.trans honly⟩
  · exact Or.inl hnone

theorem not_installing (h : ∀ f now, e.op ≠ .admitFrame f now) : ¬ Installing stream e := by
  intro hinstalling
  obtain ⟨f, -, ⟨now, hop⟩, -⟩ := hinstalling
  exact h f now hop

theorem Traced.installed {now : Millis} {p : PublisherState} {s : Snapshots} {n : ℕ} {out : Reply} {g' : Governor σ}
    (h : Traced past g.snapshots stream) (hp : Authorized f g p) (hd : Decoded f g p s n) :
    Traced (past ++ [⟨g, .admitFrame f now, out, g'⟩]) s stream := by
  obtain ⟨t, hdecode, honly⟩ := decodeInto_spec hd.decoded
  by_cases hstream : streamOf f.header.type = stream
  · have hinstalls : Installs stream (⟨g, .admitFrame f now, out, g'⟩ : Event Op Reply (Governor σ)) f :=
      ⟨hstream, ⟨now, rfl⟩, p, s, n, hp, hd⟩
    exact Or.inr ⟨_, f, t, n, last_snoc_iff.mpr (Or.inl ⟨⟨f, hinstalls⟩, rfl⟩), hinstalls, hdecode,
      (honly stream).trans (if_pos hstream)⟩
  · refine h.quiet (Or.inl ((honly stream).trans (if_neg hstream))) ?_
    intro hinstalling
    obtain ⟨f', hstream', ⟨now', hop⟩, -⟩ := hinstalling
    cases hop
    exact hstream hstream'

theorem Traced.refused {now : Millis} {out : Reply} {g' : Governor σ} (h : Traced past g.snapshots stream)
    (hd : ∀ p s n, Authorized f g p → ¬ Decoded f g p s n) :
    Traced (past ++ [⟨g, .admitFrame f now, out, g'⟩]) g.snapshots stream := by
  refine h.quiet (Or.inl rfl) ?_
  intro hinstalling
  obtain ⟨f', -, ⟨now', hop⟩, p, s, n, hp, hdecoded⟩ := hinstalling
  cases hop
  exact hd p s n hp hdecoded

theorem Traced.admitFrame (h : Traced past g.snapshots stream) (f : Frame) (now : Millis) :
    Traced (past ++ [event (step api) (.admitFrame f now) g]) (g.admitFrame f now).2.snapshots stream := by
  have ha := admits f now g
  change Traced (past ++ [⟨g, .admitFrame f now, .report (g.admitFrame f now).1, (g.admitFrame f now).2⟩]) _ stream
  generalize g.admitFrame f now = out at ha ⊢
  cases ha with
  | unauthorized e m hs hb => exact h.refused fun p s n hp _ ↦ hs p hp
  | heartbeat p m hb => exact h.refused fun q s n hp _ ↦ hp.stream hb.heartbeat
  | undecoded p e m hp hd =>
    refine h.refused fun q s n hq hdecoded ↦ ?_
    rw [← hp.unique hq] at hdecoded
    exact hd s n hdecoded
  | unresolved p s n e m hp hd hv => exact h.installed hp hd
  | applied p s n m hp hd hv => exact h.installed hp hd

theorem Traced.step (h : Traced past g.snapshots stream) (op : Op) :
    Traced (past ++ [event (Operations.step api) op g]) (Operations.step api op g).2.snapshots stream := by
  have hquiet : (∀ f now, op ≠ .admitFrame f now) → ∀ {s' : Snapshots},
      only stream s' = only stream g.snapshots ∨ only stream s' = {} →
      Traced (past ++ [event (Operations.step api) op g]) s' stream :=
    fun hop _ hsame ↦ h.quiet hsame (not_installing hop)
  cases op with
  | installEpoch epoch boot now =>
    obtain ⟨_, _, _, _, _, _, hframe⟩ := installEpoch_eq api epoch boot now g
    exact hquiet (by simp) (Or.inl (congrArg (fun g' ↦ only stream g'.snapshots) hframe))
  | registerPublisher hello now =>
    obtain ⟨_, _, hframe⟩ := registerPublisher_eq hello now g
    exact hquiet (by simp) (Or.inl (congrArg (fun g' ↦ only stream g'.snapshots) hframe))
  | notePublisherDeath publisher now =>
    refine hquiet (by simp) ?_
    change only stream (g.notePublisherDeath api publisher now).2.snapshots = _ ∨
      only stream (g.notePublisherDeath api publisher now).2.snapshots = _
    have hn := notes api now g publisher
    generalize g.notePublisherDeath api publisher now = out at hn ⊢
    cases hn with
    | unknown e hs => exact Or.inl rfl
    | refused e g' hp =>
      obtain ⟨world, durable, rfl⟩ := persist_eq hp
      exact Or.inl rfl
    | dead s g' hs hdead hp =>
      obtain ⟨world, durable, rfl⟩ := persist_eq hp
      exact Or.inl rfl
    | revoked s g' hs halive hp =>
      obtain ⟨world, durable, rfl⟩ := persist_eq hp
      unfold Governor.revoke
      dsimp only
      split
      · exact only_dropEvidence publisher stream g.snapshots
      · exact Or.inl rfl
  | admitFrame f now => exact h.admitFrame f now
  | evaluate now => exact hquiet (by simp) (Or.inl rfl)
  | commitDurable now =>
    obtain ⟨_, _, _, hframe⟩ := commitDurable_eq api now g
    exact hquiet (by simp) (Or.inl (congrArg (fun g' ↦ only stream g'.snapshots) hframe))

section Run

variable {config : GovernorConfig} {world : σ} {process : Process} {start : Millis}

theorem traced_of_run (h : GovernorRun api config world process start past g) (stream : StreamKind) :
    Traced past g.snapshots stream := by
  refine @Run.invariant _ _ _ _ _ _ _ (fun past g ↦ Traced past g.snapshots stream) (Or.inl ?_)
    (fun past g op ht ↦ ht.step op) h
  rw [(recovered_evidence api config world process start).2.1]
  cases stream <;> rfl

/-- In every run, the installed snapshot of each stream is what the latest frame of that stream that passed
the fence in order and decoded decodes to on its own, under the provenance of that frame. -/
theorem evidence_is_traced (h : GovernorRun api config world process start past g) (stream : StreamKind) :
    Traced past g.snapshots stream := traced_of_run h stream

end Run

open Atomicity

def firstCapacity : Frame := makeFrame .capacity (sentAs 1 1 1) (capacityPayload 1 1)

def secondCapacity : Frame := makeFrame .capacity (sentAs 1 2 2) (capacityPayload 2 1)

def replacedOps : List Op :=
  [.registerPublisher introduction 0, .admitFrame firstCapacity 0, .admitFrame secondCapacity 0]

def replacedGovernor : Governor Unit := final (step noStore) (recovered noStore {} () ⟨0, 0⟩ 0) replacedOps

theorem replacedGovernor_eq : replacedGovernor =
    (Governor.admitStream secondCapacity 0 (Governor.admitStream firstCapacity 0
      (Governor.registerPublisher introduction 0
        (recovered noStore {} () ⟨0, 0⟩ 0)).2.countReceived).2.countReceived).2 := by
  have hfirst := fun g : Governor Unit ↦ (admit_makeFrame .capacity (sentAs 1 1 1)
    (show (capacityPayload 1 1).length ≤ _ by decide) 0 g).trans (if_neg (by decide))
  have hsecond := fun g : Governor Unit ↦ (admit_makeFrame .capacity (sentAs 1 2 2)
    (show (capacityPayload 2 1).length ≤ _ by decide) 0 g).trans (if_neg (by decide))
  unfold replacedGovernor replacedOps final
  rw [List.foldl_cons, List.foldl_cons, List.foldl_cons, List.foldl_nil, step_registerPublisher, step_admitFrame,
    step_admitFrame, firstCapacity, secondCapacity, hfirst, hsecond]

/-- A capacity snapshot of generation 1 is replaced by one of generation 2. -/
theorem replaced_traced : ∃ past, GovernorRun noStore {} () ⟨0, 0⟩ 0 past replacedGovernor ∧
    replacedGovernor.snapshots.capacity.map (·.generation.value) = some 2 ∧
    Traced past replacedGovernor.snapshots .capacity := by
  obtain ⟨past, hrun⟩ : ∃ past, GovernorRun noStore {} () ⟨0, 0⟩ 0 past replacedGovernor :=
    Run.exists replacedOps
  refine ⟨past, hrun, ?_, evidence_is_traced hrun .capacity⟩
  rw [replacedGovernor_eq]
  rfl

end HotspotGovernor.Provenance
