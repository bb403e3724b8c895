import HotspotGovernor.Coordination
import HotspotGovernor.Effects
import HotspotGovernor.Recoverable

namespace HotspotGovernor.Epochs

open Foundation ByteIo Durable Framing Registry Governance Admission Operations Effects Coordination
open Storage Durability Recoverable Lib.Volume Lib.Procedures

variable {g g' : Governor Store} {state : DurableState}

/-- What a call on a governor does to its epoch and its store. The flag says that it committed. -/
inductive Advance (g g' : Governor Store) : Bool → Prop
  | still (hworld : g'.world = g.world) (hepoch : g'.epoch = g.epoch) : Advance g g' false
  | failed (state : DurableState) (records : List JournalRecord) (hle : g.epoch ≤ state.epoch)
      (hworld : g'.world = (call (commit state records) g.world).2) (hepoch : g'.epoch = g.epoch) :
      Advance g g' false
  | committed (state : DurableState) (records : List JournalRecord) (hle : g.epoch ≤ state.epoch)
      (hworld : call (commit state records) g.world = (.ok (), g'.world)) (hepoch : g'.epoch = state.epoch) :
      Advance g g' true

theorem Advance.le {committed : Bool} (h : Advance g g' committed) : g.epoch ≤ g'.epoch := by
  cases h with
  | still hworld hepoch => exact hepoch.ge
  | failed state records hle hworld hepoch => exact hepoch.ge
  | committed state records hle hworld hepoch => exact hle.trans hepoch.ge

section

variable {boot : BootId} {epoch : CoordinatorEpoch} {now : Millis} {record : JournalRecord}

theorem persist_committed (hopen : g.storeOpen = true)
    (h : g.persist durableStore boot epoch now record = (.ok (), g')) :
    call (commit (g.durableSnapshot durableStore boot epoch now) [record]) g.world = (.ok (), g'.world) := by
  have hp := persists durableStore boot epoch now record g
  rw [h] at hp
  cases hp with
  | closed ho => simp [ho] at hopen
  | taken world ho hc => exact hc

theorem persist_failed {e : Failure} (h : g.persist durableStore boot epoch now record = (.error e, g')) :
    g'.world = (call (commit (g.durableSnapshot durableStore boot epoch now) [record]) g.world).2 := by
  have hp := persists durableStore boot epoch now record g
  rw [h] at hp
  cases hp with
  | refused e world ho hc => exact (congrArg Prod.snd hc).symm

end

theorem installEpoch_advance (hopen : g.storeOpen = true) (hvalid : g.epoch.valid = true)
    (epoch : CoordinatorEpoch) (boot : BootId) (now : Millis) :
    Advance g (g.installEpoch durableStore epoch boot now).2
      (g.installEpoch durableStore epoch boot now).1.isOk := by
  have h := installs durableStore boot epoch now g
  generalize g.installEpoch durableStore epoch boot now = out at h ⊢
  cases h with
  | reserved e hv => exact .still rfl rfl
  | stale e m hv hlt => exact .still rfl rfl
  | refused e g' next record hp hle =>
    have hworld := persist_failed hp
    obtain ⟨world, durable, rfl⟩ := persist_eq hp
    exact .failed _ _ (hle hvalid) hworld rfl
  | entered g' next record hp hv hle =>
    have hworld := persist_committed hopen hp
    exact .committed _ _ (hle hvalid) hworld rfl

theorem notePublisherDeath_advance (hopen : g.storeOpen = true) (publisher : PublisherId) (now : Millis) :
    Advance g (g.notePublisherDeath durableStore publisher now).2
      (g.notePublisherDeath durableStore publisher now).1.isOk := by
  have h := notes durableStore now g publisher
  generalize g.notePublisherDeath durableStore publisher now = out at h ⊢
  cases h with
  | unknown e hs => exact .still rfl rfl
  | refused e g' hp =>
    have hworld := persist_failed hp
    obtain ⟨world, durable, rfl⟩ := persist_eq hp
    exact .failed _ _ le_rfl hworld rfl
  | dead s g' hs hdead hp =>
    have hworld := persist_committed hopen hp
    obtain ⟨world, durable, rfl⟩ := persist_eq hp
    exact .committed _ _ le_rfl hworld rfl
  | revoked s g' hs halive hp =>
    have hworld := persist_committed hopen hp
    obtain ⟨world, durable, rfl⟩ := persist_eq hp
    exact .committed _ _ le_rfl hworld rfl

theorem commitDurable_advance (hopen : g.storeOpen = true) (now : Millis) :
    Advance g (g.commitDurable durableStore now).2 (g.commitDurable durableStore now).1.isOk := by
  unfold Governor.commitDurable
  rw [if_neg (by simp [hopen])]
  dsimp only
  cases hc : durableStore.commit (g.durableSnapshot durableStore g.boot g.epoch now)
      [{ type := .evaluationCheckpoint, at_ := now }] g.world with
  | mk out world =>
    cases out with
    | error e => exact .failed _ _ le_rfl (congrArg Prod.snd hc).symm rfl
    | ok _ => exact .committed _ _ le_rfl hc rfl

def commits : Op → Bool
  | .installEpoch .. | .notePublisherDeath .. | .commitDurable _ => true
  | _ => false

def succeeded : Reply → Bool
  | .status status => status.isOk
  | .welcome result => result.isOk
  | .report result => result.isOk
  | .decision _ => true

theorem step_advance (hopen : g.storeOpen = true) (hvalid : g.epoch.valid = true) (op : Op) :
    Advance g (Operations.step durableStore op g).2
      (commits op && succeeded (Operations.step durableStore op g).1) := by
  cases op with
  | installEpoch epoch boot now => exact installEpoch_advance hopen hvalid epoch boot now
  | registerPublisher hello now =>
    obtain ⟨_, _, h⟩ := registerPublisher_eq hello now g
    exact .still (congrArg Governor.world h :) (congrArg Governor.epoch h :)
  | notePublisherDeath publisher now => exact notePublisherDeath_advance hopen publisher now
  | admitFrame frame now =>
    obtain ⟨_, _, _, _, h⟩ := admitFrame_eq frame now g
    exact .still (congrArg Governor.world h :) (congrArg Governor.epoch h :)
  | evaluate now => exact .still rfl rfl
  | commitDurable now => exact commitDurable_advance hopen now

theorem step_storeOpen {σ : Type} (api : StoreApi σ) (op : Op) (g : Governor σ) :
    (Operations.step api op g).2.storeOpen = g.storeOpen := (step_config api op g).2

theorem coordinator_step {σ : Type} (api : StoreApi σ) (act : Act) (c : Coordinator σ) :
    (Coordination.step api act c).2.governor = c.governor ∨
      ∃ op, (Coordination.step api act c).2.governor = (Operations.step api op c.governor).2 := by
  cases act with
  | accept =>
    left
    change c.accept.2.governor = c.governor
    unfold Coordinator.accept
    split_ifs <;> rfl
  | stop => exact Or.inl rfl
  | evaluate now => exact Or.inr ⟨.evaluate now, rfl⟩
  | commitDurable now => exact Or.inr ⟨.commitDurable now, rfl⟩
  | connection i act =>
    unfold Coordination.step
    dsimp only
    split
    · exact Or.inl rfl
    next connection _ =>
    unfold stepConnection
    split
    · exact Or.inl rfl
    · next received now _ =>
      unfold Coordinator.receive
      split
      · left
        unfold Coordinator.receiveFailed
        split_ifs <;> rfl
      · next frame =>
        split
        · unfold Coordinator.handshake
          split
          · exact Or.inl rfl
          split
          · exact Or.inl rfl
          next hello _ =>
          refine Or.inr ⟨.registerPublisher hello now, ?_⟩
          change _ = (c.governor.registerPublisher hello now).2
          split
          · next heq => rw [heq]; rfl
          · next heq => rw [heq]; rfl
        · unfold Coordinator.serve
          split
          · exact Or.inl rfl
          refine Or.inr ⟨.admitFrame frame now, ?_⟩
          change _ = (c.governor.admitFrame frame now).2
          split
          · next heq => rw [heq]; rfl
          · next heq => rw [heq]; rfl
    · left
      unfold Coordinator.welcomed
      split <;> rfl
    · left
      unfold Coordinator.count
      split <;> rfl
    · next now _ =>
      unfold Coordinator.leave
      split
      · exact Or.inr ⟨.notePublisherDeath connection.publisher now, rfl⟩
      · exact Or.inl rfl
    · exact Or.inl rfl
    · left
      dsimp only
      split_ifs <;> rfl
    · exact Or.inl rfl

def Corrupt (content : Bytes) : Prop := ∀ maxBytes state, (readSnapshot maxBytes (some content)).state ≠ .ok state

/-- Whatever a loss of power leaves of the snapshot, it is a committed state of at least this epoch,
unless somebody has damaged it. -/
def Covers (damaged : Prop) (file : File UInt8) (epoch : CoordinatorEpoch) : Prop :=
  ∀ content ∈ file.remnants,
    (∃ state, content = some (frameSnapshot state) ∧ Valid state ∧ epoch ≤ state.epoch) ∨
    (damaged ∧ ∃ bytes, content = some bytes ∧ Corrupt bytes)

section Covers

variable {damaged damaged' : Prop} {file file' : File UInt8} {epoch : CoordinatorEpoch}

theorem Covers.mono (h : Covers damaged file epoch) (hd : damaged → damaged')
    (hfile : ∀ content ∈ file'.remnants, content ∈ file.remnants) : Covers damaged' file' epoch := by
  intro content hcontent
  rcases h content (hfile content hcontent) with hframe | ⟨hdamaged, hcorrupt⟩
  · exact Or.inl hframe
  · exact Or.inr ⟨hd hdamaged, hcorrupt⟩

theorem covers_frame (h : validateState state = .ok ()) (hle : epoch ≤ state.epoch) :
    Covers damaged (.settled (some (frameSnapshot state))) epoch := by
  intro content hcontent
  exact Or.inl ⟨state, List.mem_singleton.mp hcontent, valid_of_validateState h, hle⟩

theorem Covers.succession (h : Covers damaged file epoch) (hnew : Succession state file file')
    (hle : epoch ≤ state.epoch) : Covers damaged file' epoch := by
  cases hnew with
  | kept => exact h
  | replaced hvalid => exact covers_frame hvalid hle
  | renamed hvalid =>
    intro content hcontent
    rcases List.mem_append.mp hcontent with hold | hnew
    · exact h content hold
    · exact covers_frame hvalid hle content hnew

theorem Advance.covers {committed : Bool} (h : Advance g g' committed)
    (hcovers : Covers damaged g.world.disk.snapshot epoch) (hle : epoch ≤ g.epoch) :
    Covers damaged g'.world.disk.snapshot epoch := by
  cases h with
  | still hworld hepoch => rwa [hworld]
  | failed state records hstate hworld hepoch =>
    rw [hworld]
    exact hcovers.succession (commit_succession state records g.world) (hle.trans hstate)
  | committed state records hstate hworld hepoch =>
    have hnew := commit_succession state records g.world
    rw [hworld] at hnew
    exact hcovers.succession hnew (hle.trans hstate)

theorem Advance.reliable {committed : Bool} (h : Advance g g' committed) (hreliable : Reliable g.world) :
    Reliable g'.world := by
  cases h with
  | still hworld hepoch => rwa [hworld]
  | failed state records hstate hworld hepoch =>
    rw [hworld]
    exact commit_reliable state records g.world hreliable
  | committed state records hstate hworld hepoch =>
    have hkept := commit_reliable state records g.world hreliable
    rwa [hworld] at hkept

theorem Advance.covers_of_committed (h : Advance g g' true) (hreliable : Reliable g.world) :
    Covers damaged g'.world.disk.snapshot g'.epoch := by
  cases h with
  | committed state records hstate hworld hepoch =>
    rw [commit_settled hreliable hworld, hepoch]
    exact covers_frame (commit_ok hworld).1 le_rfl

theorem Advance.covers_current {committed : Bool} (h : Advance g g' committed) (hreliable : Reliable g.world)
    (hcovers : Covers damaged g.world.disk.snapshot g.epoch) :
    Covers damaged g'.world.disk.snapshot g'.epoch := by
  cases committed with
  | true => exact h.covers_of_committed hreliable
  | false =>
    have hepoch : g'.epoch = g.epoch := by
      cases h with
      | still hworld hepoch => exact hepoch
      | failed state records hstate hworld hepoch => exact hepoch
    rw [hepoch]
    exact h.covers hcovers le_rfl

end Covers

theorem lt_next {tag : IdTag} {id : StrongId tag} (h : id.next.value ≠ kUInt64Max) : id < id.next := by
  unfold StrongId.next at h ⊢
  split at h
  · next hmax => exact absurd hmax h
  · next hmax =>
    rw [if_neg hmax, StrongId.lt_iff]
    have hne : id.value.toNat ≠ 2 ^ 64 - 1 := by
      intro hn
      exact hmax (UInt64.toNat_inj.mp hn)
    have hlt := id.value.toNat_lt
    simp only [UInt64.toNat_add, UInt64.toNat_one]
    omega

theorem recover_opened {store : StoreConfig} (hstore : g.config.store = some store) (process : Process)
    (now : Millis) {world : Store}
    (hopen : call openStore (durableStore.attach store g.world) = (.ok (), world)) :
    g.recover durableStore process now = (.ok (), Governor.adopt
      { g with
        boot := makeBootId g.config process now
        epoch := if g.config.initialEpoch.valid then g.config.initialEpoch else ⟨1⟩
        world
        storeOpen := true } (recoverFrom world)) := by
  have hcall : durableStore.openStore (durableStore.attach store g.world) = (.ok (), world) := hopen
  have hrecover : durableStore.recover world = (.ok (recoverFrom world), world) :=
    call_recover (openStore_ok hopen).1
  unfold Governor.recover
  dsimp only
  rw [hstore]
  dsimp only
  rw [hcall]
  dsimp only
  rw [hrecover]

theorem recover_cases {store : StoreConfig} (hstore : g.config.store = some store) (process : Process)
    (now : Millis) :
    (∃ e world, call openStore (durableStore.attach store g.world) = (.error e, world) ∧
      ∃ g', g.recover durableStore process now = (.error e, g') ∧ g'.world = world) ∨
    ∃ world, call openStore (durableStore.attach store g.world) = (.ok (), world) ∧
      ∃ g', g.recover durableStore process now = (.ok (), g') ∧ g'.world = world ∧ g'.storeOpen = true ∧
        g'.epoch = if (recoverFrom world).lastEpoch.valid then (recoverFrom world).lastEpoch.next
          else if g.config.initialEpoch.valid then g.config.initialEpoch else ⟨1⟩ := by
  cases hopen : call openStore (durableStore.attach store g.world) with
  | mk out world =>
    cases out with
    | error e =>
      have hcall : durableStore.openStore (durableStore.attach store g.world) = (.error e, world) := hopen
      unfold Governor.recover
      dsimp only
      rw [hstore]
      dsimp only
      rw [hcall]
      exact Or.inl ⟨e, world, rfl, _, rfl, rfl⟩
    | ok _ => exact Or.inr ⟨world, rfl, _, recover_opened hstore process now hopen, rfl, rfl, rfl⟩

theorem snapshot_open {store : StoreConfig} {world : Store} {out : Status}
    (h : call openStore (durableStore.attach store g.world) = (out, world)) :
    world.config = store ∧ world.disk.snapshot = g.world.disk.snapshot := by
  have hkept := openStore_keeps (durableStore.attach store g.world)
  rw [h] at hkept
  exact Prod.mk.inj hkept

theorem recover_snapshot (store : StoreConfig) (hstore : g.config.store = some store) (process : Process)
    (now : Millis) :
    (g.recover durableStore process now).2.world.disk.snapshot = g.world.disk.snapshot := by
  rcases recover_cases hstore process now with
    ⟨e, world, hopen, g', hout, rfl⟩ | ⟨world, hopen, g', hout, rfl, -⟩
  · rw [hout]
    exact (snapshot_open hopen).2
  · rw [hout]
    exact (snapshot_open hopen).2

theorem reliable_of_recover {store : StoreConfig} (hstore : g.config.store = some store) (process : Process)
    (now : Millis) (hreliable : Reliable g.world) : Reliable (g.recover durableStore process now).2.world := by
  have hopened := openStore_reliable (durableStore.attach store g.world) hreliable
  rcases recover_cases hstore process now with
    ⟨e, world, hopen, g', hout, rfl⟩ | ⟨world, hopen, g', hout, rfl, -⟩
  · rw [hopen] at hopened
    rw [hout]
    exact hopened
  · rw [hopen] at hopened
    rw [hout]
    exact hopened

theorem journal_of_recover (store : StoreConfig) (hstore : g.config.store = some store) {process : Process}
    {now : Millis} (h : g.recover durableStore process now = (.ok (), g')) :
    ¬ g.world.disk.journal.contents.length > store.maxBytes.toNat := by
  intro hlong
  obtain ⟨e, he⟩ := openStore_long (s := durableStore.attach store g.world) ⟨rfl, rfl⟩ hlong
  rcases recover_cases hstore process now with ⟨e', world, -, g₁, hout, -⟩ | ⟨world, hopen, -⟩
  · rw [hout] at h
    cases h
  · rw [he] at hopen
    cases hopen

theorem live_of_recover (store : StoreConfig) (hstore : g.config.store = some store) {process : Process}
    {now : Millis} (h : g.recover durableStore process now = (.ok (), g')) :
    g'.storeOpen = true ∧ g'.epoch.valid = true := by
  rcases recover_cases hstore process now with
    ⟨e, world, -, g₁, hout, -⟩ | ⟨world, -, g₁, hout, -, hopen, hepoch⟩
  · rw [hout] at h
    cases h
  · rw [hout] at h
    obtain rfl := (Prod.mk.inj h).2
    refine ⟨hopen, ?_⟩
    rw [hepoch]
    split
    · next hlast => exact next_valid hlast
    · exact initialEpoch_valid g.config

theorem lt_of_recover (store : StoreConfig) (hstore : g.config.store = some store) {process : Process}
    {now : Millis} (h : g.recover durableStore process now = (.ok (), g')) {content : Bytes}
    (hvisible : g.world.disk.snapshot.visible = some content)
    (hread : (readSnapshot store.maxBytes (some content)).state = .ok state)
    (hvalid : state.epoch.valid = true) (hmax : g'.epoch.value ≠ kUInt64Max) : state.epoch < g'.epoch := by
  rcases recover_cases hstore process now with
    ⟨e, world, -, g₁, hout, -⟩ | ⟨world, hopen, g₁, hout, -, -, hepoch⟩
  · rw [hout] at h
    cases h
  · rw [hout] at h
    obtain rfl := (Prod.mk.inj h).2
    obtain ⟨hconfig, hsnapshot⟩ := snapshot_open hopen
    have hlast : state.epoch ≤ (recoverFrom world).lastEpoch := by
      rw [← hsnapshot] at hvisible
      rw [← hconfig] at hread
      exact epoch_le_recoverFrom hvisible hread
    have hlastValid : (recoverFrom world).lastEpoch.valid = true := by
      have hpos : 0 < state.epoch.value.toNat := by
        refine Nat.pos_of_ne_zero fun h0 ↦ ?_
        have hzero : state.epoch.value = 0 := UInt64.toNat_inj.mp h0
        simp [StrongId.valid, hzero] at hvalid
      have hle : state.epoch.value.toNat ≤ (recoverFrom world).lastEpoch.value.toNat := hlast
      simp only [StrongId.valid, bne_iff_ne, ne_eq]
      intro hzero
      rw [hzero] at hle
      exact absurd hle (not_le.mpr hpos)
    rw [hepoch, if_pos hlastValid] at hmax ⊢
    exact hlast.trans_lt (lt_next hmax)

/-- With power for all of its accesses, a recovery fails exactly when the journal cannot be read. The
snapshot has no say in it. -/
theorem recover_error_iff {store : StoreConfig} (hstore : g.config.store = some store)
    (hpower : g.world.power = none) (process : Process) (now : Millis) :
    (∃ e, (g.recover durableStore process now).1 = .error e) ↔
      g.world.disk.journal.contents.length > store.maxBytes.toNat := by
  constructor
  · intro hfailed
    by_contra hshort
    obtain ⟨world, hopen⟩ := openStore_short (s := durableStore.attach store g.world) ⟨rfl, rfl⟩ hpower hshort
    obtain ⟨e, he⟩ := hfailed
    rcases recover_cases hstore process now with ⟨e', world', hopen', -⟩ | ⟨world', -, g', hout, -⟩
    · rw [hopen] at hopen'
      cases hopen'
    · rw [hout] at he
      cases he
  · intro hlong
    rcases recover_cases hstore process now with ⟨e, world, -, g', hout, -⟩ | ⟨world, -, g', hout, -⟩
    · exact ⟨e, congrArg Prod.fst hout⟩
    · exact absurd hlong (journal_of_recover store hstore hout)

end HotspotGovernor.Epochs
