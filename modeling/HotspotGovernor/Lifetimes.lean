import HotspotGovernor.Entitlement
import HotspotGovernor.Restart

namespace HotspotGovernor.Lifetimes

open Foundation Durable Framing Registry Governance Admission Operations Effects Coordination Storage
open Epochs Restart Fencing Lib.Trace

/-- A serving coordinator accepts this stream frame, handed to its governor or received on a connection. -/
def Accepts (e : Event Move Bool Machine) (f : Frame) : Prop :=
  f.header.type ≠ .heartbeat ∧ ∃ c now report, e.before = .serving c ∧
    (e.op = .govern (.admitFrame f now) ∧ (c.governor.admitFrame f now).1 = .ok report ∨
      ∃ i, e.op = .act (.connection i (.receive (.ok f) now)) ∧
        (Coordination.step durableStore (.connection i (.receive (.ok f) now)) c).1 = .admitted report)

def Later (f f' : FrameHeader) : Prop :=
  f.epoch < f'.epoch ∨ f.epoch = f'.epoch ∧ (f.incarnation < f'.incarnation ∨
    f.incarnation = f'.incarnation ∧ f.sequence < f'.sequence ∧
      (streamOf f.type = streamOf f'.type → f.generation < f'.generation))

variable {past : Restart.History} {m : Machine} {e : Event Move Bool Machine} {f : Frame}

theorem serve_admitted {i : ℕ} {connection : Connection} {now : Millis} {c : Coordinator Store}
    {report : AdmissionReport}
    (h : (c.serve i connection f now).1 = .admitted report) : (c.governor.admitFrame f now).1 = .ok report ∧
      (c.serve i connection f now).2.governor = (c.governor.admitFrame f now).2 := by
  unfold Coordinator.serve at h ⊢
  split at h
  · cases h
  · next htype =>
    rw [if_neg htype]
    cases hout : c.governor.admitFrame f now with
    | mk out g =>
      rw [hout] at h
      cases out with
      | error e => cases h
      | ok report' =>
        cases h
        exact ⟨rfl, rfl⟩

theorem handshake_admitted {i : ℕ} {connection : Connection} {hreg : connection.registered = false} {now : Millis}
    {c : Coordinator Store} {report : AdmissionReport} :
    (c.handshake i connection hreg f now).1 ≠ .admitted report := by
  unfold Coordinator.handshake
  split
  · simp
  · split
    · simp
    · split <;> simp

theorem admitted_of_receive {i : ℕ} {now : Millis} {c : Coordinator Store} {report : AdmissionReport}
    (h : (Coordination.step durableStore (.connection i (.receive (.ok f) now)) c).1 = .admitted report) :
    (c.governor.admitFrame f now).1 = .ok report ∧
      (Coordination.step durableStore (.connection i (.receive (.ok f) now)) c).2.governor =
        (c.governor.admitFrame f now).2 := by
  simp only [Coordination.step] at h ⊢
  cases hfound : c.connections[i]? with
  | none =>
    rw [hfound] at h
    cases h
  | some connection =>
    rw [hfound] at h
    dsimp only [stepConnection] at h ⊢
    cases hphase : connection.phase with
    | receiving =>
      rw [hphase] at h
      dsimp only [Coordinator.receive] at h ⊢
      split at h
      · exact absurd h handshake_admitted
      · next hreg =>
        rw [dif_neg hreg]
        exact serve_admitted h
    | _ =>
      rw [hphase] at h
      cases h

/-- What a move does to the governor of the machine: it boots one, or makes at most one call on it, and
what the machine accepts is accepted by that call. -/
inductive Governs (e : Event Move Bool Machine) : Prop
  | gone (h : e.after.governor = none)
  | booted (config : GovernorConfig) (world : Store) (process : Process) (now : Millis) (hboots : Boots e)
      (h : e.after.governor = some (Operations.recovered durableStore config world process now))
  | idle (h : e.after.governor = e.before.governor) (hboots : ¬ Boots e) (haccepts : ∀ f, ¬ Accepts e f)
  | called (g : Governor Store) (op : Op) (hbefore : e.before.governor = some g) (hboots : ¬ Boots e)
      (h : e.after.governor = some (Operations.step durableStore op g).2)
      (haccepts : ∀ f, Accepts e f → AcceptedStream (event (Operations.step durableStore) op g) f)

theorem not_accepts_of_before (h : ∀ c, e.before ≠ .serving c) : ¬ Accepts e f := by
  intro haccepts
  obtain ⟨-, c, -, -, hbefore, -⟩ := haccepts
  exact h c hbefore

theorem not_accepts_of_op (hgovern : ∀ op, e.op ≠ .govern op) (hact : ∀ act, e.op ≠ .act act) :
    ¬ Accepts e f := by
  intro haccepts
  obtain ⟨-, c, now, report, -, ⟨hop, -⟩ | ⟨i, hop, -⟩⟩ := haccepts
  · exact hgovern _ hop
  · exact hact _ hop

theorem governs_idle {op : Move} (h : Restart.step op m = (false, m)) (hserving : ∀ c, m ≠ .serving c) :
    Governs (event Restart.step op m) := by
  refine .idle (congrArg (fun out ↦ Machine.governor out.2) h) ?_ (fun f ↦ not_accepts_of_before hserving)
  intro hboots
  cases (congrArg Prod.fst h).symm.trans hboots.1

theorem governs_boot (config : GovernorConfig) (store : StoreConfig) (power : Option ℕ) (process : Process)
    (now : Millis) (disk : Disk) :
    Governs (event Restart.step (.boot config store power process now) (.off disk)) := by
  cases hr : Governor.recover durableStore process now
      { config := { config with store := some store }, world := { disk, power } } with
  | mk out g =>
    cases out with
    | ok u =>
      have hstep : Restart.step (.boot config store power process now) (.off disk) = (true, .recovered g) := by
        unfold Restart.step
        dsimp only
        rw [hr]
      have hg : Operations.recovered durableStore { config with store := some store } { disk, power } process now = g :=
        congrArg Prod.snd hr
      refine .booted { config with store := some store } { disk, power } process now
        ⟨congrArg Prod.fst hstep, config, store, power, process, now, rfl⟩ ?_
      rw [hg]
      exact congrArg (fun out ↦ Machine.governor out.2) hstep
    | error e =>
      have hstep : Restart.step (.boot config store power process now) (.off disk) = (false, .off g.world.disk) := by
        unfold Restart.step
        dsimp only
        rw [hr]
      exact .gone (congrArg (fun out ↦ Machine.governor out.2) hstep)

theorem governs_start (config : CoordinatorConfig) (g : Governor Store) :
    Governs (event Restart.step (.start config) (.recovered g)) := by
  refine .called g (.installEpoch g.epoch g.boot 0) rfl (not_boots nofun) ?_
    (fun f h ↦ absurd h (not_accepts_of_before (by simp [event])))
  change (Restart.step (.start config) (.recovered g)).2.governor =
    some (g.installEpoch durableStore g.epoch g.boot 0).2
  unfold Restart.step Coordination.start
  dsimp only
  generalize g.installEpoch durableStore g.epoch g.boot 0 = out
  obtain ⟨status, g'⟩ := out
  cases status with
  | ok u => rfl
  | error e => rfl

theorem governs_govern (op : Op) (m : Machine) : Governs (event Restart.step (.govern op) m) := by
  cases m with
  | off disk => exact governs_idle rfl (by simp)
  | recovered g =>
    exact .called g op rfl (not_boots nofun) rfl
      (fun f h ↦ absurd h (not_accepts_of_before (by simp [event])))
  | serving c =>
    refine .called c.governor op rfl (not_boots nofun) rfl ?_
    intro f haccepts
    obtain ⟨hstream, c', now, report, hbefore, ⟨hop, hout⟩ | ⟨i, hop, -⟩⟩ := haccepts
    · cases hbefore
      cases hop
      exact ⟨hstream, now, report, rfl, congrArg Reply.report hout⟩
    · cases hop

theorem governs_act (act : Act) (m : Machine) : Governs (event Restart.step (.act act) m) := by
  cases m with
  | off disk => exact governs_idle rfl (by simp)
  | recovered g => exact governs_idle rfl (by simp)
  | serving c =>
    by_cases haccepts : ∃ f, Accepts (event Restart.step (.act act) (.serving c)) f
    · obtain ⟨f, hstream, c', now, report, hbefore, ⟨hop, -⟩ | ⟨i, hop, hadmitted⟩⟩ := haccepts
      · cases hop
      · cases hbefore
        cases hop
        obtain ⟨hout, hgovernor⟩ := admitted_of_receive hadmitted
        refine .called c.governor (.admitFrame f now) rfl (not_boots nofun) (congrArg some hgovernor) ?_
        intro f' haccepts'
        obtain ⟨hstream', c', now', report', hbefore', ⟨hop', -⟩ | ⟨i', hop', -⟩⟩ := haccepts'
        · cases hop'
        · cases hop'
          exact ⟨hstream', now, report, rfl, congrArg Reply.report hout⟩
    · rcases coordinator_step durableStore act c with hsame | ⟨op, hop⟩
      · exact .idle (congrArg some hsame) (not_boots nofun) (fun f h ↦ haccepts ⟨f, h⟩)
      · exact .called c.governor op rfl (not_boots nofun) (congrArg some hop) (fun f h ↦ absurd ⟨f, h⟩ haccepts)

theorem governs (op : Move) (m : Machine) : Governs (event Restart.step op m) := by
  cases op with
  | boot config store power process now =>
    cases m with
    | off disk => exact governs_boot config store power process now disk
    | recovered g => exact governs_idle rfl (by simp)
    | serving c =>
      exact .idle rfl (fun h ↦ nomatch h.1) (fun f ↦ not_accepts_of_op (by simp [event]) (by simp [event]))
  | start config =>
    cases m with
    | off disk => exact governs_idle rfl (by simp)
    | recovered g => exact governs_start config g
    | serving c => exact .idle rfl (not_boots nofun) (fun f ↦ not_accepts_of_op (by simp [event]) (by simp [event]))
  | govern op => exact governs_govern op m
  | act act => exact governs_act act m
  | crash journal snapshot temp =>
    by_cases hleft : journal ∈ m.disk.journal.remnants ∧ snapshot ∈ m.disk.snapshot.remnants ∧
        temp ∈ m.disk.temp.remnants
    · refine .gone ?_
      change (Restart.step (.crash journal snapshot temp) m).2.governor = none
      rw [show Restart.step (.crash journal snapshot temp) m = _ from if_pos hleft]
      rfl
    · refine .idle ?_ (not_boots nofun) (fun f ↦ not_accepts_of_op (by simp [event]) (by simp [event]))
      change (Restart.step (.crash journal snapshot temp) m).2.governor = m.governor
      rw [show Restart.step (.crash journal snapshot temp) m = _ from if_neg hleft]
  | damage content =>
    cases m with
    | recovered g => exact governs_idle rfl (by simp)
    | serving c => exact .idle rfl (not_boots nofun) (fun f ↦ not_accepts_of_op (by simp [event]) (by simp [event]))
    | off disk =>
      refine .gone ?_
      change (Restart.step (.damage content) (.off disk)).2.governor = none
      unfold Restart.step
      dsimp only
      split <;> rfl

/-- Since the latest boot the governor has only been called, and what the machine accepted since then
it was called with. -/
def Lives (past : Restart.History) (g : Governor Store) : Prop :=
  ∃ pre b post, past = pre ++ b :: post ∧ Boots b ∧ ∃ config world process now calls,
    GovernorRun durableStore config world process now calls g ∧
      ∀ x ∈ post, ∀ f, Accepts x f → ∃ call ∈ calls, AcceptedStream call f

theorem lives_of_run {disk : Disk} (h : Run Restart.step (.off disk) past m) :
    ∀ g, m.governor = some g → Lives past g := by
  refine @Run.invariant _ _ _ _ _ _ _ (fun past m ↦ ∀ g, m.governor = some g → Lives past g)
    (by simp [Machine.governor]) ?_ h
  intro past m op ih g hg
  cases governs op m with
  | gone hgone => cases hg.symm.trans hgone
  | booted config world process now hboots hafter =>
    obtain rfl := Option.some.inj (hg.symm.trans hafter)
    exact ⟨past, _, [], rfl, hboots, config, world, process, now, [], .start, by simp⟩
  | idle hsame hboots haccepts =>
    obtain ⟨pre, b, post, rfl, hb, config, world, process, now, calls, hrun, hcalls⟩ := ih g (hsame.symm.trans hg)
    refine ⟨pre, b, post ++ [_], by simp; rfl, hb, config, world, process, now, calls, hrun, ?_⟩
    intro x hx f hf
    rcases List.mem_append.mp hx with hx | hx
    · exact hcalls x hx f hf
    · rw [List.mem_singleton.mp hx] at hf
      exact absurd hf (haccepts f)
  | called g₀ op' hbefore hboots hafter haccepts =>
    obtain rfl := Option.some.inj (hg.symm.trans hafter)
    obtain ⟨pre, b, post, rfl, hb, config, world, process, now, calls, hrun, hcalls⟩ := ih g₀ hbefore
    refine ⟨pre, b, post ++ [_], by simp; rfl, hb, config, world, process, now, _, hrun.snoc op', ?_⟩
    intro x hx f hf
    rcases List.mem_append.mp hx with hx | hx
    · obtain ⟨call, hcall, haccepted⟩ := hcalls x hx f hf
      exact ⟨call, List.mem_append_left _ hcall, haccepted⟩
    · rw [List.mem_singleton.mp hx] at hf
      exact ⟨_, by simp, haccepts f hf⟩

section

variable {σ : Type} {api : StoreApi σ} {g : Governor σ} {calls : Fencing.History σ} {config : GovernorConfig}
  {world : σ} {process : Process} {start now : Millis} {f f' : Frame} {report : AdmissionReport}

theorem authorized_of_accepted (h : (g.admitFrame f now).1 = .ok report) (hstream : f.header.type ≠ .heartbeat) :
    ∃ p, Authorized f g p ∧ sequenced (p.enter g.epoch) f.header = .ok () := by
  have ha := admits f now g
  generalize g.admitFrame f now = out at ha h
  cases ha with
  | unauthorized e m hs hb => cases h
  | heartbeat p m hb => exact absurd hb.heartbeat hstream
  | undecoded p e m hp hd => cases h
  | unresolved p s n e m hp hd hv => cases h
  | applied p s n m hp hd hv => exact ⟨p, hp, hd.ordered⟩

theorem epoch_of_accepted (h : (g.admitFrame f now).1 = .ok report) (hstream : f.header.type ≠ .heartbeat) :
    f.header.epoch = g.epoch := by
  obtain ⟨p, hp, -⟩ := authorized_of_accepted h hstream
  exact (authorize_eq_ok.mp hp.fenced).2.2.1

theorem later_of_run (h : GovernorRun api config world process start calls g) {call : Event Op Reply (Governor σ)}
    (hcall : call ∈ calls) (hf : AcceptedStream call f) (hpub : f.header.publisher = f'.header.publisher)
    (hstream : f'.header.type ≠ .heartbeat) (haccepted : (g.admitFrame f' now).1 = .ok report) :
    Later f.header f'.header := by
  obtain ⟨hfenced, hdetermined⟩ := Entitlement.determined_of_run h
  obtain ⟨p, hp, hseq⟩ := authorized_of_accepted haccepted hstream
  obtain ⟨-, -, hepoch', hfound, hinc, -, halive⟩ := authorize_eq_ok.mp hp.fenced
  obtain ⟨hstream', now', report', hop, hout⟩ := hf
  have hepoch : f.header.epoch = call.before.epoch := by
    have hevent := h.event_eq call hcall
    rw [hop] at hevent
    rw [hevent] at hout
    exact epoch_of_accepted (Reply.report.inj hout) hstream'
  obtain ⟨p', hp', hle, hcovers⟩ :=
    (hdetermined.exact f'.header.publisher).covers call hcall f ⟨now', report', hop, hout⟩ hpub
  obtain rfl : p = p' := Option.some.inj (hfound.symm.trans hp')
  rcases lt_or_eq_of_le (hdetermined.epochs call hcall) with hlt | heq
  · left
    rwa [hepoch, hepoch']
  · refine Or.inr ⟨hepoch.trans (heq.trans hepoch'.symm), ?_⟩
    rcases lt_or_eq_of_le hle with hlt | hsame
    · left
      rwa [hinc]
    · obtain ⟨-, hlast, hgen⟩ := hcovers heq hsame
      rw [p.enter_eq_self (hfenced.epoch_eq hfound halive), sequenced_eq_ok] at hseq
      refine Or.inr ⟨hsame.trans hinc.symm, UInt64.lt_of_le_of_lt hlast hseq.1, ?_⟩
      intro hsame'
      have hbelow := hgen (hsame' ▸ (authorize_eq_ok.mp hp.fenced).1)
      rw [hsame'] at hbelow
      exact UInt64.lt_of_le_of_lt hbelow hseq.2.2

end

section Run

variable {disk : Disk} {pre mid post : Restart.History} {x y : Event Move Bool Machine} {f f' : Frame}

theorem Accepts.served (h : Accepts e f) (hevent : e = event Restart.step e.op e.before) :
    (∃ c now report, e.before = .serving c ∧ (c.governor.admitFrame f now).1 = .ok report ∧
      f.header.epoch = c.governor.epoch) ∧
      Serves e f.header.epoch := by
  obtain ⟨hstream, c, now, report, hbefore, ⟨hop, hout⟩ | ⟨i, hop, hout⟩⟩ := h
  · have hepoch := epoch_of_accepted hout hstream
    obtain ⟨_, _, _, _, hafter⟩ := admitFrame_eq f now c.governor
    refine ⟨⟨c, now, report, hbefore, hout, hepoch⟩,
      { c with governor := (c.governor.admitFrame f now).2 }, ?_, ?_⟩
    · rw [hevent, hop, hbefore]
      rfl
    · exact (congrArg Governor.epoch hafter).trans hepoch.symm
  · obtain ⟨hout', hgovernor⟩ := admitted_of_receive hout
    have hepoch := epoch_of_accepted hout' hstream
    obtain ⟨_, _, _, _, hafter⟩ := admitFrame_eq f now c.governor
    refine ⟨⟨c, now, report, hbefore, hout', hepoch⟩,
      (Coordination.step durableStore (.connection i (.receive (.ok f) now)) c).2, ?_, ?_⟩
    · rw [hevent, hop, hbefore]
      rfl
    · rw [hgovernor]
      exact (congrArg Governor.epoch hafter).trans hepoch.symm

/-- Over an undamaged directory whose snapshots fit the bounds they are read under, and whatever crashes
lie between: of two frames of a publisher, the one accepted later is the later one. -/
theorem accepted_in_order (h : Run Restart.step (.off disk) past m) (hintact : ¬ Damaged past)
    (hfits : ∀ e ∈ past, Fits e) (hmax : ∀ e ∈ past, Unsaturated e)
    (hpast : past = pre ++ x :: mid ++ y :: post)
    (hx : Accepts x f) (hy : Accepts y f') (hpub : f.header.publisher = f'.header.publisher) :
    Later f.header f'.header := by
  have hgood : ∀ pre e post, past = pre ++ e :: post → Good pre e := by
    intro pre e post he
    have hmem : e ∈ past := by simp [he]
    refine ⟨?_, hmax e hmem⟩
    intro config store power process now content hop hvisible
    refine Or.inr (Or.inr ⟨hfits e hmem config store power process now content hop hvisible, ?_⟩)
    intro hdamaged
    obtain ⟨z, hz, hdamage⟩ := hdamaged
    exact hintact ⟨z, by simp [he, hz], hdamage⟩
  obtain ⟨hrun, hevent⟩ := h.splitAt hpast
  obtain ⟨⟨c, now, report, hbefore, haccepted, hepoch⟩, hserves⟩ := hy.served hevent
  obtain ⟨-, hserved⟩ := hx.served (h.event_eq x (by simp [hpast]))
  obtain ⟨pre', b, post', hsplit, hb, config, world, process, start, calls, hcalls, haccepts⟩ :=
    lives_of_run hrun c.governor (congrArg Machine.governor hbefore)
  have hx' : x ∈ pre' ++ b :: post' := by
    rw [← hsplit]
    simp
  rcases List.mem_append.mp hx' with hearlier | hthis
  · left
    have hpast' : past = pre' ++ b :: (post' ++ y :: post) := by
      rw [hpast, hsplit]
      simp
    obtain ⟨c', hc', hepoch'⟩ := hserves
    have hlt := epochs_advance h hgood hpast' hb hearlier (y := y) (by simp) (Or.inl hserved)
      (g := c'.governor) (congrArg Machine.governor hc')
    rwa [hepoch'] at hlt
  · rcases List.mem_cons.mp hthis with rfl | hthis
    · obtain ⟨-, config, store, power, process, now, hop⟩ := hb
      exact absurd hx (not_accepts_of_op (by simp [hop]) (by simp [hop]))
    · obtain ⟨call, hcall, hcalled⟩ := haccepts x hthis f hx
      exact later_of_run hcalls hcall hcalled hpub hy.1 haccepted

end Run

open Atomicity

def announcement (epoch : UInt64) : Frame := makeFrame .topology (sentAs epoch 1 1) oneSwitchPayload

theorem epoch_announcement (epoch : UInt64) : (announcement epoch).header.epoch = ⟨epoch⟩ := rfl

def introduced (m : Machine) : Event Move Bool Machine :=
  event Restart.step (.govern (.registerPublisher introduction 0)) m

def announced (epoch : UInt64) (m : Machine) : Event Move Bool Machine :=
  event Restart.step (.govern (.admitFrame (announcement epoch) 0)) (introduced m).after

def Fresh (g : Governor Store) : Prop := g.publishers = default ∧ g.snapshots = {}

theorem fresh_of_start {config : CoordinatorConfig} {g : Governor Store} {c : Coordinator Store} (hg : Fresh g)
    (h : (Restart.step (.start config) (.recovered g)).2 = .serving c) : Fresh c.governor := by
  obtain ⟨_, _, _, _, _, _, hframe⟩ := installEpoch_eq durableStore g.epoch g.boot 0 g
  rcases @installEpoch_cases _ durableStore g g.epoch g.boot 0 with
    ⟨e, g', hout, -⟩ | ⟨g', hout, -, -, -, hpub, -⟩
  · unfold Restart.step Coordination.start at h
    dsimp only at h
    rw [hout] at h
    cases h
  · unfold Restart.step Coordination.start at h
    dsimp only at h
    rw [hout] at h hframe
    cases h
    refine ⟨?_, (congrArg Governor.snapshots hframe).trans hg.2⟩
    rw [hpub, hg.1]
    rfl

theorem announced_accepts {c : Coordinator Store} (hfresh : Fresh c.governor) {epoch : UInt64}
    (hepoch : c.governor.epoch = ⟨epoch⟩) (hknown : epoch = 1 ∨ epoch = 2) (hm : m = .serving c) :
    Accepts (announced epoch m) (announcement epoch) := by
  have hadmitted := admit_makeFrame .topology (sentAs epoch 1 1) (show oneSwitchPayload.length ≤ _ by decide) 0
    (c.governor.registerPublisher introduction 0).2
  rw [if_neg (by decide)] at hadmitted
  have hout : ((c.governor.registerPublisher introduction 0).2.countReceived.admitStream (announcement epoch) 0).1 =
      .ok (reportOf (announcement epoch).header 1) := by
    obtain ⟨config, ⟨governorConfig, world, storeOpen, engine, snapshots, publishers, epoch',
        boot, metrics, durable,
      recovery, verified⟩, connections, running, counters⟩ := c
    obtain ⟨rfl, rfl⟩ := hfresh
    obtain rfl := hepoch
    rcases hknown with rfl | rfl
    · rfl
    · rfl
  rw [hm]
  exact ⟨show MessageType.topology ≠ .heartbeat by decide,
    { c with governor := (c.governor.registerPublisher introduction 0).2 }, 0, _, rfl,
    Or.inl ⟨rfl, (congrArg Prod.fst hadmitted).trans hout⟩⟩

theorem fresh_firstStart {c : Coordinator Store} (h : (firstStart 4096).after = .serving c) : Fresh c.governor := by
  obtain ⟨g, hg, hfresh⟩ : ∃ g, (firstBoot 4096).after = .recovered g ∧ Fresh g := ⟨_, rfl, rfl, rfl⟩
  unfold firstStart at h
  rw [hg] at h
  exact fresh_of_start hfresh h

theorem fresh_secondStart {c : Coordinator Store} (h : (secondStart 4096).after = .serving c) : Fresh c.governor := by
  unfold secondStart at h
  rw [secondBoot_wide.1] at h
  exact fresh_of_start ⟨rfl, rfl⟩ h

theorem serves_introduced {c : Coordinator Store} {epoch : CoordinatorEpoch} (hm : m = .serving c)
    (h : c.governor.epoch = epoch) : Serves (introduced m) epoch := by
  obtain ⟨_, _, hreg⟩ := registerPublisher_eq introduction 0 c.governor
  rw [hm]
  exact ⟨_, rfl, (congrArg Governor.epoch hreg).trans h⟩

theorem serves_announced {epoch : UInt64} (h : Accepts (announced epoch m) (announcement epoch)) :
    Serves (announced epoch m) ⟨epoch⟩ := by
  have hserves := (h.served rfl).2
  rwa [epoch_announcement] at hserves

theorem disk_admitted {c : Coordinator Store} (hm : m = .serving c) (f : Frame) :
    (event Restart.step (.govern (.admitFrame f 0)) (introduced m).after).after.disk = m.disk := by
  obtain ⟨_, _, hreg⟩ := registerPublisher_eq introduction 0 c.governor
  obtain ⟨_, _, _, _, hadmit⟩ := admitFrame_eq f 0 (c.governor.registerPublisher introduction 0).2
  rw [hm]
  exact congrArg Store.disk ((congrArg Governor.world hadmit :).trans (congrArg Governor.world hreg :))

def firstEnd : Event Move Bool Machine :=
  event Restart.step (crashNow (announced 1 (firstStart 4096).after).after) (announced 1 (firstStart 4096).after).after

theorem firstEnd_after : firstEnd.after = (firstCrash 4096).after := by
  obtain ⟨c, hc, -⟩ := firstStart_wide
  unfold firstEnd firstCrash
  rw [event_crashNow, event_crashNow]
  unfold announced
  rw [disk_admitted hc]

def announcements : Restart.History :=
  [firstBoot 4096, firstStart 4096, introduced (firstStart 4096).after] ++ announced 1 (firstStart 4096).after ::
    [firstEnd, secondBoot 4096, secondStart 4096, introduced (secondStart 4096).after] ++
    announced 2 (secondStart 4096).after :: []

theorem run_announcements : Run Restart.step (.off {}) announcements (announced 2 (secondStart 4096).after).after := by
  have hoff : Run Restart.step (.off {}) [firstBoot 4096, firstStart 4096, introduced (firstStart 4096).after,
      announced 1 (firstStart 4096).after, firstEnd] firstEnd.after :=
    ((((Run.start.snoc_event (.boot {} { maxBytes := 4096 } none ⟨0, 0⟩ 0)).snoc_event (.start {})).snoc_event
      (.govern (.registerPublisher introduction 0))).snoc_event (.govern (.admitFrame (announcement 1) 0))).snoc_event
      (crashNow (announced 1 (firstStart 4096).after).after)
  rw [firstEnd_after] at hoff
  exact (((hoff.snoc_event (.boot {} { maxBytes := 4096 } none ⟨0, 0⟩ 0)).snoc_event (.start {})).snoc_event
    (.govern (.registerPublisher introduction 0))).snoc_event (.govern (.admitFrame (announcement 2) 0))

theorem fits_announcements : ∀ e ∈ announcements, Fits e := by
  have hboots : ∀ {e : Event Move Bool Machine},
      (∀ config store power process now, e.op ≠ .boot config store power process now) →
      Fits e := fun hop config store power process now content h ↦ absurd h (hop config store power process now)
  unfold announcements
  simp only [List.cons_append, List.nil_append, List.forall_mem_cons]
  exact ⟨fits_wide (firstBoot 4096) (by simp), hboots nofun, hboots nofun, hboots nofun, hboots nofun,
    fits_wide (secondBoot 4096) (by simp), hboots nofun, hboots nofun, hboots nofun, by simp⟩

theorem unsaturated_announcements : ∀ e ∈ announcements, Unsaturated e := by
  obtain ⟨c, hc, hepoch⟩ := firstStart_wide
  obtain ⟨c', hc', hepoch'⟩ := secondStart_wide
  unfold announcements
  simp only [List.cons_append, List.nil_append, List.forall_mem_cons]
  refine ⟨unsaturated_wide _ (by simp), unsaturated_wide _ (by simp),
    serves_unsaturated (serves_introduced hc hepoch) (by decide), ?_, ?_,
    unsaturated_wide (secondBoot 4096) (by simp), unsaturated_wide _ (by simp),
    serves_unsaturated (serves_introduced hc' hepoch') (by decide), ?_, by simp⟩
  · exact serves_unsaturated (serves_announced (announced_accepts (fresh_firstStart hc) hepoch (Or.inl rfl) hc))
      (by decide)
  · intro g hg
    rw [firstEnd_after, firstCrash_wide] at hg
    cases hg
  · exact serves_unsaturated (serves_announced (announced_accepts (fresh_secondStart hc') hepoch' (Or.inr rfl) hc'))
      (by decide)

theorem undamaged_announcements : ¬ Damaged announcements := by
  intro hdamaged
  obtain ⟨e, he, content, hop⟩ := hdamaged
  unfold announcements at he
  simp only [List.cons_append, List.nil_append, List.mem_cons, List.not_mem_nil, or_false] at he
  rcases he with rfl | rfl | rfl | rfl | rfl | rfl | rfl | rfl | rfl <;> cases hop

/-- The same fabric, accepted in both lifetimes, was announced under a later epoch in the second. -/
theorem announcements_in_order : Accepts (announced 1 (firstStart 4096).after) (announcement 1) ∧
    Accepts (announced 2 (secondStart 4096).after) (announcement 2) ∧
    Later (announcement 1).header (announcement 2).header := by
  obtain ⟨c, hc, hepoch⟩ := firstStart_wide
  obtain ⟨c', hc', hepoch'⟩ := secondStart_wide
  have hfirst := announced_accepts (fresh_firstStart hc) hepoch (Or.inl rfl) hc
  have hsecond := announced_accepts (fresh_secondStart hc') hepoch' (Or.inr rfl) hc'
  exact ⟨hfirst, hsecond, accepted_in_order run_announcements undamaged_announcements fits_announcements
    unsaturated_announcements rfl hfirst hsecond rfl⟩

end HotspotGovernor.Lifetimes
