import HotspotGovernor.Entitlement
import HotspotGovernor.Lib.Erasure

namespace HotspotGovernor.Redelivery

open Foundation Topology Evidence Decisions Durable Framing Registry Governance
open Admission Operations Effects Fencing Lib.Trace Lib.Erasure

variable {σ : Type}

def unmetered (g : Governor σ) : Governor σ := { g with metrics := {} }

/-- Both outcomes of a call answer alike and leave the same governor, up to its counters. -/
def Alike {R : Type} (out out' : R × Governor σ) : Prop := out.1 = out'.1 ∧ unmetered out.2 = unmetered out'.2

variable {api : StoreApi σ} {g : Governor σ}

theorem persist_unmetered (boot : BootId) (epoch : CoordinatorEpoch) (now : Millis) (record : JournalRecord) :
    (unmetered g).persist api boot epoch now record =
      (g.persist api boot epoch now record).map id unmetered := by
  have hsnapshot : (unmetered g).durableSnapshot api boot epoch now = g.durableSnapshot api boot epoch now := rfl
  have hopen : (unmetered g).storeOpen = g.storeOpen := rfl
  have hworld : (unmetered g).world = g.world := rfl
  unfold Governor.persist
  rw [hsnapshot, hopen, hworld]
  cases g.storeOpen with
  | false => rfl
  | true =>
    cases hout : (api.commit (g.durableSnapshot api boot epoch now) [record] g.world).1 with
    | error e => simp [hout, unmetered]
    | ok u => simp [hout, unmetered]

theorem alike_installEpoch (epoch : CoordinatorEpoch) (boot : BootId) (now : Millis) :
    Alike ((unmetered g).installEpoch api epoch boot now) (g.installEpoch api epoch boot now) := by
  have hepoch : (unmetered g).epoch = g.epoch := rfl
  have hboot : (unmetered g).boot = g.boot := rfl
  unfold Governor.installEpoch
  rw [hepoch, hboot]
  split
  · exact ⟨rfl, rfl⟩
  · split
    · exact ⟨rfl, rfl⟩
    · dsimp only
      rw [persist_unmetered]
      generalize g.persist api _ epoch now _ = out
      obtain ⟨status, g'⟩ := out
      cases status with
      | error e => exact ⟨rfl, rfl⟩
      | ok u => exact ⟨rfl, rfl⟩

theorem alike_reenlist (hello : HelloPayload) (now : Millis) (existing : PublisherState) :
    Alike ((unmetered g).reenlist hello now existing) (g.reenlist hello now existing) := by
  unfold Governor.reenlist Governor.staleIncarnation
  split
  · exact ⟨rfl, rfl⟩
  · split
    · split
      · exact ⟨rfl, rfl⟩
      · exact ⟨rfl, rfl⟩
    · exact ⟨rfl, rfl⟩

theorem alike_registerPublisher (hello : HelloPayload) (now : Millis) :
    Alike ((unmetered g).registerPublisher hello now) (g.registerPublisher hello now) := by
  have hepoch : (unmetered g).epoch = g.epoch := rfl
  unfold Governor.registerPublisher
  rw [hepoch]
  split
  · exact ⟨rfl, rfl⟩
  · split
    · exact ⟨rfl, rfl⟩
    · split
      · exact ⟨rfl, rfl⟩
      · split
        · exact ⟨rfl, rfl⟩
        · split
          · next existing hfound =>
            split
            · next existing' hfound' =>
              obtain rfl := Option.some.inj (hfound.symm.trans hfound')
              exact alike_reenlist hello now existing
            · next hnone => cases hfound.symm.trans hnone
          · next hnone =>
            split
            · next hfull =>
              split
              · next existing hfound => cases hnone.symm.trans hfound
              · rw [if_pos (show g.publishers.entries.length ≥ Limits.kMaxPublishers from hfull)]
                exact ⟨rfl, rfl⟩
            · next hroom =>
              split
              · next existing hfound => cases hnone.symm.trans hfound
              · rw [if_neg (show ¬ g.publishers.entries.length ≥ Limits.kMaxPublishers from hroom)]
                exact ⟨rfl, rfl⟩

theorem alike_notePublisherDeath (publisher : PublisherId) (now : Millis) :
    Alike ((unmetered g).notePublisherDeath api publisher now) (g.notePublisherDeath api publisher now) := by
  have hfind : (unmetered g).findPublisher publisher = g.findPublisher publisher := rfl
  have hboot : (unmetered g).boot = g.boot := rfl
  have hepoch : (unmetered g).epoch = g.epoch := rfl
  unfold Governor.notePublisherDeath
  rw [hfind, hboot, hepoch]
  cases g.findPublisher publisher with
  | none => exact ⟨rfl, rfl⟩
  | some s =>
    dsimp only
    rw [persist_unmetered]
    generalize g.persist api g.boot g.epoch now _ = out
    obtain ⟨status, g'⟩ := out
    cases status with
    | error e => exact ⟨rfl, rfl⟩
    | ok u =>
      cases halive : s.alive with
      | false => simp [Alike, unmetered]
      | true => simp [Alike, unmetered, Governor.revoke]

theorem alike_commitDurable (now : Millis) :
    Alike ((unmetered g).commitDurable api now) (g.commitDurable api now) := by
  have hsnapshot : (unmetered g).durableSnapshot api g.boot g.epoch now =
      g.durableSnapshot api g.boot g.epoch now := rfl
  have hboot : (unmetered g).boot = g.boot := rfl
  have hepoch : (unmetered g).epoch = g.epoch := rfl
  have hopen : (unmetered g).storeOpen = g.storeOpen := rfl
  have hworld : (unmetered g).world = g.world := rfl
  unfold Governor.commitDurable
  rw [hboot, hepoch, hsnapshot, hopen, hworld]
  split
  · exact ⟨rfl, rfl⟩
  · dsimp only
    split
    · exact ⟨rfl, rfl⟩
    · exact ⟨rfl, rfl⟩

theorem alike_admitHeartbeat (f : Frame) (now : Millis) (m : Metrics) :
    Alike (({ g with metrics := m } : Governor σ).admitHeartbeat f now) (g.admitHeartbeat f now) := by
  have hsame : ({ g with metrics := m } : Governor σ).authorizeHeartbeat f.header =
      g.authorizeHeartbeat f.header := rfl
  unfold Governor.admitHeartbeat
  rw [hsame]
  cases g.authorizeHeartbeat f.header with
  | error r => exact ⟨rfl, rfl⟩
  | ok p => exact ⟨rfl, rfl⟩

theorem alike_admitStream (f : Frame) (now : Millis) (m : Metrics) :
    Alike (({ g with metrics := m } : Governor σ).admitStream f now) (g.admitStream f now) := by
  have hsame : ({ g with metrics := m } : Governor σ).authorize f.header = g.authorize f.header := rfl
  have hepoch : (({ g with metrics := m } : Governor σ).enterPublisher f.header.publisher).epoch =
      (g.enterPublisher f.header.publisher).epoch := rfl
  have hsnap : (({ g with metrics := m } : Governor σ).enterPublisher f.header.publisher).snapshots =
      (g.enterPublisher f.header.publisher).snapshots := rfl
  unfold Governor.admitStream
  rw [hsame]
  cases g.authorize f.header with
  | error r => exact ⟨rfl, rfl⟩
  | ok p =>
    dsimp only
    rw [hepoch, hsnap]
    cases sequenced (p.enter (g.enterPublisher f.header.publisher).epoch) f.header with
    | error r => exact ⟨rfl, rfl⟩
    | ok u =>
      dsimp only
      cases decodeInto (g.enterPublisher f.header.publisher).snapshots f with
      | error e => exact ⟨rfl, rfl⟩
      | ok decoded =>
        dsimp only [Governor.install]
        cases verifyReferences decoded.1 with
        | error e => exact ⟨rfl, rfl⟩
        | ok u => exact ⟨rfl, rfl⟩

theorem alike_admitFrame (f : Frame) (now : Millis) :
    Alike ((unmetered g).admitFrame f now) (g.admitFrame f now) := by
  have hcount : ∃ m, (unmetered g).countReceived = { g.countReceived with metrics := m } := ⟨_, rfl⟩
  obtain ⟨m, hm⟩ := hcount
  unfold Governor.admitFrame
  rw [hm]
  cases verifyPayload f.header f.payload with
  | error e => exact ⟨rfl, rfl⟩
  | ok u =>
    dsimp only
    split
    · exact alike_admitHeartbeat f now m
    · exact alike_admitStream f now m

theorem Alike.map {R R' : Type} {out out' : R × Governor σ} (h : Alike out out') (answer : R → R') :
    Alike (out.map answer id) (out'.map answer id) :=
  ⟨congrArg answer h.1, h.2⟩

theorem blind_step (api : StoreApi σ) : Blind (step api) unmetered := by
  refine Blind.of_forget fun op g ↦ ?_
  change Alike (step api op (unmetered g)) (step api op g)
  cases op with
  | installEpoch epoch boot now => exact (alike_installEpoch epoch boot now).map Reply.status
  | registerPublisher hello now => exact (alike_registerPublisher hello now).map Reply.welcome
  | notePublisherDeath publisher now => exact (alike_notePublisherDeath publisher now).map Reply.status
  | admitFrame f now => exact (alike_admitFrame f now).map Reply.report
  | evaluate now => exact ⟨rfl, rfl⟩
  | commitDurable now => exact (alike_commitDurable now).map Reply.status

def RefusedEarly (_ : Fencing.History σ) (e : Event Op Reply (Governor σ)) : Prop :=
  ∃ f now failure, e.op = .admitFrame f now ∧ e.out = .report (.error failure) ∧ failure.code ≠ .unknownResource

/-- A stream frame of a session and an epoch in which a frame with at least its sequence number was
accepted already: it is delivered again, or was overtaken. -/
def Late (past : Fencing.History σ) (f : Frame) : Prop :=
  f.header.type ≠ .heartbeat ∧ ∃ x ∈ past, ∃ f', AcceptedStream x f' ∧
    f'.header.publisher = f.header.publisher ∧ f'.header.incarnation = f.header.incarnation ∧
    f'.header.epoch = f.header.epoch ∧ f.header.sequence ≤ f'.header.sequence

def DeliveredLate (past : Fencing.History σ) (e : Event Op Reply (Governor σ)) : Prop :=
  ∃ f now, e.op = .admitFrame f now ∧ Late past f

theorem late_of_accepted {past : Fencing.History σ} {e : Event Op Reply (Governor σ)} {f : Frame}
    (h : AcceptedStream e f) : Late (past ++ [e]) f :=
  ⟨h.1, e, by simp, f, h, rfl, rfl, rfl, UInt64.le_refl _⟩

theorem verifyReferences_error {s : Snapshots} {e : Failure} (h : verifyReferences s = .error e) :
    e.code = .unknownResource := by
  unfold verifyReferences at h
  split at h
  · cases h
  · split_ifs at h
    · rw [← Except.error.inj h]
    · rw [← Except.error.inj h]
    · rw [← Except.error.inj h]

variable {past : Fencing.History σ} {f : Frame} {now : Millis}

theorem unmetered_enterPublisher {id : PublisherId} {metrics : Metrics}
    (h : (g.enterPublisher id).publishers = g.publishers) :
    unmetered { g.enterPublisher id with metrics } = unmetered g :=
  congrArg (fun publishers ↦ unmetered (g.withPublishers publishers)) h

theorem unmetered_refused (hfenced : Fenced past g) {failure : Failure}
    (hout : (g.admitFrame f now).1 = .error failure) (hcode : failure.code ≠ .unknownResource) :
    unmetered (g.admitFrame f now).2 = unmetered g := by
  have h := admits f now g
  generalize g.admitFrame f now = out at h hout ⊢
  cases h with
  | unauthorized e m hs hb => rfl
  | heartbeat p m hb => cases hout
  | undecoded p e m hp hd => exact unmetered_enterPublisher (hfenced.entered hp)
  | unresolved p s n e m hp hd hv =>
    rw [Except.error.inj hout] at hv
    exact absurd (verifyReferences_error hv) hcode
  | applied p s n m hp hd hv => cases hout

theorem not_sequenced_of_late (hfenced : Fenced past g) {p : PublisherState} (hp : Authorized f g p)
    {x : Event Op Reply (Governor σ)} (hx : x ∈ past) {f' : Frame} (hf' : AcceptedStream x f')
    (hpub : f'.header.publisher = f.header.publisher) (hinc : f'.header.incarnation = f.header.incarnation)
    (hepoch : f'.header.epoch = f.header.epoch) (hle : f.header.sequence ≤ f'.header.sequence) :
    sequenced (p.enter g.epoch) f.header ≠ .ok () := by
  obtain ⟨-, -, hfe, hfound, hi, -, halive⟩ := authorize_eq_ok.mp hp.fenced
  obtain ⟨-, p', hp', -, hbound⟩ := (hfenced.consistent f.header.publisher).history x hx f' hf' hpub
  obtain rfl : p = p' := Option.some.inj (hfound.symm.trans hp')
  obtain ⟨-, hseq, -⟩ := hbound (hepoch.trans hfe) (hinc.trans hi)
  rw [p.enter_eq_self (hfenced.epoch_eq hfound halive)]
  intro hordered
  have hlt := (sequenced_eq_ok.mp hordered).1
  exact absurd hlt (UInt64.not_lt.mpr (UInt64.le_trans hle hseq))

theorem refused_of_late (hfenced : Fenced past g) (h : Late past f) :
    (∃ failure, (g.admitFrame f now).1 = .error failure) ∧ unmetered (g.admitFrame f now).2 = unmetered g := by
  obtain ⟨hstream, x, hx, f', hf', hpub, hinc, hepoch, hle⟩ := h
  have hdisordered : ∀ {p}, Authorized f g p → sequenced (p.enter g.epoch) f.header ≠ .ok () :=
    fun hp ↦ not_sequenced_of_late hfenced hp hx hf' hpub hinc hepoch hle
  have h := admits f now g
  generalize g.admitFrame f now = out at h ⊢
  cases h with
  | unauthorized e m hs hb => exact ⟨⟨e, rfl⟩, rfl⟩
  | heartbeat p m hb => exact absurd hb.heartbeat hstream
  | undecoded p e m hp hd => exact ⟨⟨e, rfl⟩, unmetered_enterPublisher (hfenced.entered hp)⟩
  | unresolved p s n e m hp hd hv => exact absurd hd.ordered (hdisordered hp)
  | applied p s n m hp hd hv => exact absurd hd.ordered (hdisordered hp)

section Run

variable {config : GovernorConfig} {world : σ} {process : Process} {start : Millis} {kept : List (Op × Reply)}

/-- Whatever refused admissions are left out of a run, the other calls answer the same and the same
governor is reached. Only a refusal that found a dangling reference may have left a trace. -/
theorem refusals_leave_no_trace (h : GovernorRun api config world process start past g)
    (hkept : Thinned RefusedEarly past kept) : ∃ past' g', GovernorRun api config world process start past' g' ∧
      transcript past' = kept ∧ unmetered g' = unmetered g := by
  refine hkept.replay (blind_step api) h ?_
  intro past g op hrun hcut
  obtain ⟨f, now, failure, rfl, hout, hcode⟩ := hcut
  exact unmetered_refused (fenced_of_run hrun) (Reply.report.inj hout) hcode

/-- Whatever is delivered again or too late is refused, and a run in which it is never delivered gives
the other calls the same answers and reaches the same governor. -/
theorem late_deliveries_leave_no_trace (h : GovernorRun api config world process start past g)
    (hkept : Thinned DeliveredLate past kept) :
    (∀ pre e post, past = pre ++ e :: post → DeliveredLate pre e →
      ∃ failure, e.out = .report (.error failure)) ∧
    ∃ past' g', GovernorRun api config world process start past' g' ∧
      transcript past' = kept ∧ unmetered g' = unmetered g := by
  constructor
  · intro pre e post hsplit hlate
    obtain ⟨hrun, hevent⟩ := h.splitAt hsplit
    obtain ⟨f, now, hop, hlate⟩ := hlate
    obtain ⟨⟨failure, hout⟩, -⟩ := @refused_of_late σ e.before pre f now (fenced_of_run hrun) hlate
    refine ⟨failure, ?_⟩
    rw [hevent, hop]
    exact congrArg Reply.report hout
  · refine hkept.replay (blind_step api) h ?_
    intro past g op hrun hcut
    obtain ⟨f, now, rfl, hlate⟩ := hcut
    exact (refused_of_late (fenced_of_run hrun) hlate).2

end Run

open Atomicity

theorem oneSwitch_premature :
    ((recovered noStore {} () ⟨0, 0⟩ 0).admitFrame oneSwitchFrame 0).1 =
      .error ⟨.unknownPublisher, "publisher is not registered"⟩ := by
  have h := admit_makeFrame .topology (sentAs 1 1 1) (show oneSwitchPayload.length ≤ _ by decide) 0
    (recovered noStore {} () ⟨0, 0⟩ 0)
  rw [if_neg (by decide)] at h
  rw [oneSwitchFrame, h]
  rfl

theorem premature_leaves_no_trace : ∃ past g past' g', GovernorRun noStore {} () ⟨0, 0⟩ 0 past g ∧
    past.map Event.op = [.admitFrame oneSwitchFrame 0, .registerPublisher introduction 0] ∧
    GovernorRun noStore {} () ⟨0, 0⟩ 0 past' g' ∧ past'.length = 1 ∧ unmetered g' = unmetered g := by
  have hrun := (@Run.start _ _ _ (step noStore) (recovered noStore {} () ⟨0, 0⟩ 0)).snoc
    (.admitFrame oneSwitchFrame 0)
  have hcut : RefusedEarly [] (event (step noStore) (.admitFrame oneSwitchFrame 0)
    (recovered noStore {} () ⟨0, 0⟩ 0)) :=
    ⟨oneSwitchFrame, 0, ⟨.unknownPublisher, "publisher is not registered"⟩, rfl,
      (event_admit_out _ _ _ _).trans (congrArg Reply.report oneSwitch_premature), by decide⟩
  obtain ⟨past', g', hrun', htranscript, hg'⟩ :=
    refusals_leave_no_trace (hrun.snoc (.registerPublisher introduction 0))
    ((Thinned.nil.drop _ hcut).keep _)
  refine ⟨_, _, past', g', hrun.snoc (.registerPublisher introduction 0), rfl, hrun', ?_, hg'⟩
  have hlength := congrArg List.length htranscript
  unfold transcript at hlength
  rw [List.length_map] at hlength
  exact hlength

theorem oneSwitch_accepted : ∃ report, (Governor.admitFrame oneSwitchFrame 0
    (Governor.registerPublisher introduction 0 (recovered noStore {} () ⟨0, 0⟩ 0)).2).1 = .ok report := by
  have h := admit_makeFrame .topology (sentAs 1 1 1) (show oneSwitchPayload.length ≤ _ by decide) 0
    (Governor.registerPublisher introduction 0 (recovered noStore {} () ⟨0, 0⟩ 0)).2
  rw [if_neg (by decide)] at h
  refine ⟨reportOf oneSwitchFrame.header 1, ?_⟩
  rw [oneSwitchFrame, h]
  rfl

theorem redelivery_leaves_no_trace : ∃ past g past' g', GovernorRun noStore {} () ⟨0, 0⟩ 0 past g ∧
    past.map Event.op = oneSwitchOps ++ [.admitFrame oneSwitchFrame 5] ∧
    GovernorRun noStore {} () ⟨0, 0⟩ 0 past' g' ∧ past'.length = 2 ∧ unmetered g' = unmetered g := by
  have hrun := ((@Run.start _ _ _ (step noStore) (recovered noStore {} () ⟨0, 0⟩ 0)).snoc
    (.registerPublisher introduction 0)).snoc (.admitFrame oneSwitchFrame 0)
  obtain ⟨report, haccepted⟩ := oneSwitch_accepted
  have hfirst : AcceptedStream (event (step noStore) (.admitFrame oneSwitchFrame 0)
      (step noStore (.registerPublisher introduction 0) (recovered noStore {} () ⟨0, 0⟩ 0)).2) oneSwitchFrame :=
    ⟨by decide, 0, report, rfl, (event_admit_out _ _ _ _).trans (congrArg Reply.report haccepted)⟩
  obtain ⟨-, past', g', hrun', htranscript, hg'⟩ := late_deliveries_leave_no_trace
    (hrun.snoc (.admitFrame oneSwitchFrame 5))
      (((Thinned.nil.keep _).keep _).drop _ ⟨oneSwitchFrame, 5, rfl, late_of_accepted hfirst⟩)
  refine ⟨_, _, past', g', hrun.snoc (.admitFrame oneSwitchFrame 5), rfl, hrun', ?_, hg'⟩
  have hlength := congrArg List.length htranscript
  unfold transcript at hlength
  rw [List.length_map] at hlength
  exact hlength

end HotspotGovernor.Redelivery
