import HotspotGovernor.Epochs
import HotspotGovernor.Lib.Trace

namespace HotspotGovernor.Installation

open Foundation ByteIo Durable Registry Governance Operations Effects Storage Durability Recoverable Epochs
open Lib.Volume Lib.Procedures Lib.Trace

section

variable {σ : Type} {api : StoreApi σ} {g g' : Governor σ} {e : Failure}

/-- Everything that an epoch change may change of a governor is as it was. -/
structure Untouched (g g' : Governor σ) : Prop where
  epoch : g'.epoch = g.epoch
  boot : g'.boot = g.boot
  publishers : g'.publishers = g.publishers
  snapshots : g'.snapshots = g.snapshots
  durable : g'.durable = g.durable

theorem installEpoch_error {epoch : CoordinatorEpoch} {boot : BootId} {now : Millis}
    (h : g.installEpoch api epoch boot now = (.error e, g')) : Untouched g g' := by
  have hinstalls := installs api boot epoch now g
  rw [h] at hinstalls
  cases hinstalls with
  | reserved e hv => exact ⟨rfl, rfl, rfl, rfl, rfl⟩
  | stale e m hv hlt => exact ⟨rfl, rfl, rfl, rfl, rfl⟩
  | refused e g' next record hp hle =>
    have hpersists := persists api next epoch now record g
    rw [hp] at hpersists
    cases hpersists with
    | refused e world ho hc => exact ⟨rfl, rfl, rfl, rfl, rfl⟩

end

variable {g g' : Governor Store} {epoch : CoordinatorEpoch}

/-- What the next call has to live with: how many of its accesses work before it fails, which of those whose
outcome it ignores do nothing, and what accesses that failed have left of the journal and of the temporary
file, which may be anything. -/
structure Weather where
  power : Option ℕ := none
  lapses : List Bool := []
  journal : File UInt8
  temp : File UInt8

def Weather.over (weather : Weather) (g : Governor Store) : Governor Store :=
  { g with
    world :=
      { g.world with
        power := weather.power
        lapses := weather.lapses
        disk := { g.world.disk with journal := weather.journal, temp := weather.temp } } }

def step (call : Weather × Op) (g : Governor Store) : Reply × Governor Store :=
  Operations.step durableStore call.2 (call.1.over g)

/-- The directory holds this epoch, and no call of the governor can take it away. -/
structure Secured (epoch : CoordinatorEpoch) (g : Governor Store) : Prop where
  storeOpen : g.storeOpen = true
  reached : epoch ≤ g.epoch
  valid : g.epoch.valid = true
  covers : Covers False g.world.disk.snapshot epoch

theorem valid_of_le {a b : CoordinatorEpoch} (ha : a.valid = true) (h : a ≤ b) : b.valid = true := by
  have hle : a.value.toNat ≤ b.value.toNat := h
  simp only [StrongId.valid, bne_iff_ne, ne_eq] at ha ⊢
  intro hzero
  rw [hzero] at hle
  exact ha (UInt64.toNat_inj.mp (Nat.le_zero.mp hle))

theorem Secured.over (h : Secured epoch g) (weather : Weather) : Secured epoch (weather.over g) :=
  ⟨h.storeOpen, h.reached, h.valid, h.covers⟩

theorem Secured.kept (h : Secured epoch g) (call : Weather × Op) : Secured epoch (step call g).2 := by
  have hover := h.over call.1
  have hadvance := step_advance hover.storeOpen hover.valid call.2
  refine ⟨?_, hover.reached.trans hadvance.le, ?_, ?_⟩
  · exact (step_storeOpen durableStore call.2 (call.1.over g)).trans hover.storeOpen
  · exact valid_of_le hover.valid hadvance.le
  · exact hadvance.covers hover.covers hover.reached

theorem Secured.run (h : Secured epoch g) {past : List (Event (Weather × Op) Reply (Governor Store))}
    (hrun : Run step g past g') : Secured epoch g' := by
  induction hrun with
  | start => exact h
  | snoc _ call ih => exact ih.kept call

structure Left (disk : Disk) (journal snapshot temp : Option Bytes) : Prop where
  journal : journal ∈ disk.journal.remnants
  snapshot : snapshot ∈ disk.snapshot.remnants
  temp : temp ∈ disk.temp.remnants

/-- The next store on the directory, before it is opened. -/
def successor (config : StoreConfig) (journal snapshot temp : Option Bytes) : Store :=
  { config, disk := ⟨.settled journal, .settled snapshot, .settled temp⟩ }

def Yields (epoch : CoordinatorEpoch) (s : Store) : Prop :=
  ∃ r, (call recover (call openStore s).2).1 = .ok r ∧ epoch ≤ r.lastEpoch

def Readable (config : StoreConfig) (journal snapshot : Option Bytes) : Prop :=
  (journal.getD []).length ≤ config.maxBytes.toNat ∧ (snapshot.getD []).length ≤ config.maxBytes.toNat

theorem call_recover_closed {s : Store} (h : s.opened = false) : ∃ e, (call recover s).1 = .error e := by
  refine ⟨⟨.notStarted, "store is not open"⟩, ?_⟩
  rw [recover, call_get_bind, call_refuseIf_bind, if_pos (by simp [h])]

theorem not_valid_of_le_default (h : epoch ≤ default) : epoch.valid = false := by
  have hle : epoch.value.toNat ≤ 0 := h
  have hzero : epoch.value = 0 := UInt64.toNat_inj.mp (Nat.le_zero.mp hle)
  simp [StrongId.valid, hzero]

theorem yields_iff {config : StoreConfig} {journal snapshot temp : Option Bytes} {state : DurableState}
    (hvalid : epoch.valid = true) (hframe : snapshot = some (frameSnapshot state)) (hstate : Valid state)
    (hle : epoch ≤ state.epoch) :
    Yields epoch (successor config journal snapshot temp) ↔ Readable config journal snapshot := by
  set s := successor config journal snapshot temp with hs
  by_cases hlong : s.disk.journal.contents.length > s.config.maxBytes.toNat
  · obtain ⟨failure, hopen⟩ := openStore_long (s := s) ⟨rfl, rfl⟩ hlong
    refine iff_of_false ?_ (fun hread ↦ absurd hread.1 (not_le.mpr hlong))
    rintro ⟨r, hr, -⟩
    obtain ⟨e, he⟩ := call_recover_closed (s := s) rfl
    rw [hopen, he] at hr
    cases hr
  · obtain ⟨opened, hopen⟩ := openStore_short (s := s) ⟨rfl, rfl⟩ rfl hlong
    have hkept := openStore_keeps s
    rw [hopen] at hkept
    obtain ⟨hconfig, hsnapshot⟩ := Prod.mk.inj hkept
    have hvisible : opened.disk.snapshot.visible = some (frameSnapshot state) := by
      rw [hsnapshot, ← hframe]
      rfl
    have hmax : opened.config.maxBytes = config.maxBytes := congrArg StoreConfig.maxBytes hconfig
    have hyields : Yields epoch s ↔ epoch ≤ (recoverFrom opened).lastEpoch := by
      rw [Yields, hopen, call_recover (openStore_ok hopen).1]
      simp
    rw [hyields, Readable, hframe, Option.getD_some]
    constructor
    · intro hfound
      refine ⟨not_lt.mp hlong, ?_⟩
      by_contra hlarge
      have hread := congrArg SnapshotRead.state (readSnapshot_long (not_le.mp hlarge))
      rw [← hmax] at hread
      rw [(recoverFrom_rejected hvisible hread).2] at hfound
      rw [not_valid_of_le_default hfound] at hvalid
      cases hvalid
    · rintro ⟨-, hfits⟩
      rw [← hmax] at hfits
      have hread := congrArg SnapshotRead.state (readSnapshot_frame hstate hfits)
      exact hle.trans (epoch_le_recoverFrom hvisible hread)

/-- A reader with this configuration finds at least this epoch in what is left of the snapshot. -/
def Reads (config : StoreConfig) (epoch : CoordinatorEpoch) (content : Option Bytes) : Prop :=
  ∃ state, (readSnapshot config.maxBytes content).state = .ok state ∧ epoch ≤ state.epoch

theorem yields_iff_reads {config : StoreConfig} (hvalid : epoch.valid = true) (snapshot temp : Option Bytes) :
    Yields epoch (successor config (some []) snapshot temp) ↔ Reads config epoch snapshot := by
  have hempty : (successor config (some []) snapshot temp).disk.journal.visible = some (Journal.encodeRecords []) := rfl
  obtain ⟨opened, hopen, hopened, hjournal⟩ := openStore_whole ⟨rfl, rfl⟩ (by simp) hempty (Nat.zero_le _)
  have hkept := openStore_keeps (successor config (some []) snapshot temp)
  rw [hopen] at hkept
  obtain ⟨hconfig, hsnapshot⟩ := Prod.mk.inj hkept
  have hvisible : opened.disk.snapshot.visible = snapshot := congrArg File.visible hsnapshot
  have hmax : opened.config.maxBytes = config.maxBytes := congrArg StoreConfig.maxBytes hconfig
  have hyields : Yields epoch (successor config (some []) snapshot temp) ↔
      epoch ≤ (recoverFrom opened).lastEpoch := by
    rw [Yields, hopen, call_recover hopened]
    simp
  have hlost : (recoverFrom opened).lastEpoch = default → ¬ epoch ≤ (recoverFrom opened).lastEpoch := by
    intro hdefault hfound
    rw [hdefault] at hfound
    rw [not_valid_of_le_default hfound] at hvalid
    cases hvalid
  rw [hyields, Reads, ← hmax]
  cases snapshot with
  | none =>
    refine iff_of_false (hlost ?_) nofun
    unfold recoverFrom
    rw [hvisible]
    rfl
  | some content =>
    cases hread : (readSnapshot opened.config.maxBytes (some content)).state with
    | error e => exact iff_of_false (hlost (recoverFrom_rejected hvisible hread).2) nofun
    | ok state =>
      have hreplay : replay opened.disk.journal.visible opened.config = .ok [] := by
        rw [hjournal]
        exact replay_empty opened.config
      rw [recoverFrom_accepted hvisible hread hreplay]
      simp [replayOnto, uncovered, restored]

theorem Secured.yields_iff (h : Secured epoch g) (hvalid : epoch.valid = true) {config : StoreConfig}
    {journal snapshot temp : Option Bytes} (hleft : Left g.world.disk journal snapshot temp) :
    Yields epoch (successor config journal snapshot temp) ↔ Readable config journal snapshot := by
  rcases h.covers snapshot hleft.snapshot with ⟨state, hframe, hstate, hle⟩ | ⟨hno, -⟩
  · exact Installation.yields_iff hvalid hframe hstate hle
  · exact hno.elim

theorem installEpoch_commit (hopen : g.storeOpen = true) {boot : BootId} {now : Millis}
    (h : g.installEpoch durableStore epoch boot now = (.ok (), g')) :
    ∃ state records, state.epoch = epoch ∧ call (commit state records) g.world = (.ok (), g'.world) := by
  have hinstalls := installs durableStore boot epoch now g
  rw [h] at hinstalls
  cases hinstalls with
  | entered g' next record hp hv hle =>
    have hcommit := persist_committed hopen hp
    exact ⟨_, _, rfl, hcommit⟩

theorem alive_fenceAll {publishers : Publishers} {now : Millis} {p : PublisherState}
    (hp : p ∈ (publishers.fenceAll epoch now).entries) (hne : p.epoch ≠ epoch) : p.alive = false := by
  obtain ⟨q, -, rfl⟩ := List.mem_map.mp hp
  simp only [PublisherState.fence] at hne ⊢
  split
  · rfl
  · next hsame =>
    rw [if_neg hsame] at hne
    exact absurd hne hsame

/-- The sync of the directory does its work, or whatever a crash may leave of the old snapshot has at least
this epoch already. -/
def Lasting (epoch : CoordinatorEpoch) (g : Governor Store) : Prop :=
  ¬ Unsynced g.world ∨ Covers False g.world.disk.snapshot epoch

theorem installEpoch_secured (hopen : g.storeOpen = true) {boot : BootId} {now : Millis}
    (h : g.installEpoch durableStore epoch boot now = (.ok (), g')) :
    g'.epoch = epoch ∧ g.epoch ≤ epoch ∧
      (∀ p ∈ g'.publishers.entries, p.epoch ≠ epoch → p.alive = false) ∧
      epoch.valid = true ∧ (Lasting epoch g → Secured epoch g') := by
  rcases @installEpoch_cases _ durableStore g epoch boot now with
    ⟨e, g₁, hout, -⟩ | ⟨g₁, hout, hvalid, hle, hepoch, hpublishers, hstore⟩
  · rw [hout] at h
    cases h
  · rw [hout] at h
    obtain ⟨-, rfl⟩ := Prod.mk.inj h
    obtain ⟨state, records, hstate, hcommit⟩ := installEpoch_commit hopen hout
    have hlower : g.epoch ≤ epoch := by
      cases hv : g.epoch.valid with
      | true => exact hle hv
      | false =>
        -- epoch 0 is below every other one
        have hzero : g.epoch.value = 0 := by simpa [StrongId.valid] using hv
        have hnat : g.epoch.value.toNat ≤ epoch.value.toNat := by
          rw [hzero]
          exact Nat.zero_le _
        exact hnat
    refine ⟨hepoch, hlower, ?_, hvalid, fun hlasting ↦ ⟨hstore.trans hopen, hepoch.ge, by rwa [hepoch], ?_⟩⟩
    · rw [hpublishers]
      exact fun p hp hne ↦ alive_fenceAll hp hne
    · obtain ⟨hvalidated, ⟨hunsynced, hsnapshot⟩ | ⟨-, hsnapshot⟩, -⟩ := commit_ok hcommit
      · rcases hlasting with hsynced | hcovers
        · exact absurd hunsynced hsynced
        · rw [hsnapshot]
          exact hcovers.succession (.renamed hvalidated) hstate.ge
      · rw [hsnapshot]
        exact covers_frame hvalidated hstate.ge

/-- Without the sync of the directory, everything a crash could leave of the snapshot before, it can still
leave, over an empty journal. -/
theorem installEpoch_unsynced (hopen : g.storeOpen = true) {boot : BootId} {now : Millis}
    (h : g.installEpoch durableStore epoch boot now = (.ok (), g')) (hunsynced : Unsynced g.world)
    {snapshot temp : Option Bytes} (hsnapshot : snapshot ∈ g.world.disk.snapshot.remnants)
    (htemp : temp ∈ g'.world.disk.temp.remnants) : Left g'.world.disk (some []) snapshot temp := by
  obtain ⟨state, records, -, hcommit⟩ := installEpoch_commit hopen h
  obtain ⟨-, ⟨-, hfile⟩ | ⟨hsynced, -⟩, hjournal⟩ := commit_ok hcommit
  · refine ⟨?_, ?_, htemp⟩
    · rw [hjournal]
      exact List.mem_singleton_self _
    · rw [hfile]
      exact List.mem_append_left _ hsnapshot
  · exact absurd hunsynced hsynced

/-- For every governor with an open store and every outcome of its accesses: an epoch change that fails
leaves authority, evidence and the durable copy as they were. One that succeeds installs the epoch and
fences the publishers of every other one. If it lasts, then from then on, through every later call and every
failure of the store, whatever a crash leaves yields the epoch again exactly if both files can be read under
the bound of the store that recovers. If the directory was not synced, the old snapshot may be back at
once, and then it is that snapshot which has to have the epoch. -/
theorem installEpoch_atomic_and_durable (g : Governor Store) (hopen : g.storeOpen = true)
    (epoch : CoordinatorEpoch) (boot : BootId) (now : Millis) :
    let out := g.installEpoch durableStore epoch boot now
    (∀ e, out.1 = .error e → Untouched g out.2) ∧
    (out.1 = .ok () → out.2.epoch = epoch ∧ g.epoch ≤ epoch ∧
      (∀ p ∈ out.2.publishers.entries, p.epoch ≠ epoch → p.alive = false) ∧
      (Lasting epoch g → ∀ past g', Run step out.2 past g' →
        ∀ journal snapshot temp, Left g'.world.disk journal snapshot temp → ∀ config,
          Yields epoch (successor config journal snapshot temp) ↔ Readable config journal snapshot) ∧
      (Unsynced g.world → ∀ snapshot ∈ g.world.disk.snapshot.remnants,
        ∀ temp ∈ out.2.world.disk.temp.remnants,
        Left out.2.world.disk (some []) snapshot temp ∧ ∀ config,
          Yields epoch (successor config (some []) snapshot temp) ↔ Reads config epoch snapshot)) := by
  intro out
  constructor
  · intro e he
    have hout : g.installEpoch durableStore epoch boot now = (.error e, out.2) := Prod.ext he rfl
    exact installEpoch_error hout
  · intro hok
    have hout : g.installEpoch durableStore epoch boot now = (.ok (), out.2) := Prod.ext hok rfl
    obtain ⟨hepoch, hle, hfenced, hvalid, hsecured⟩ := installEpoch_secured hopen hout
    refine ⟨hepoch, hle, hfenced, ?_, ?_⟩
    · intro hlasting past g' hrun journal snapshot temp hleft config
      exact ((hsecured hlasting).run hrun).yields_iff hvalid hleft
    · intro hunsynced snapshot hsnapshot temp htemp
      exact ⟨installEpoch_unsynced hopen hout hunsynced hsnapshot htemp, fun config ↦
        yields_iff_reads hvalid snapshot temp⟩

def fresh (maxBytes : UInt64) : Governor Store :=
  (Governor.recover durableStore ⟨0, 0⟩ 0 { config := { store := some { maxBytes } }, world := {} }).2

def firstCommitted : DurableState :=
  { epoch := ⟨1⟩, writtenByBoot := makeBootId {} ⟨0, 0⟩ 0, writtenAt := 0 }

theorem length_firstCommitted : (frameSnapshot firstCommitted).length = 84 := by
  rw [length_frameSnapshot]
  decide

/-- Seventy-two bytes hold the record of an epoch change and the body of the state, but not the file around
that body: the epoch is installed, and the next store on the directory knows nothing of it. -/
theorem installed_epoch_lost :
    (fresh 72).storeOpen = true ∧ ((fresh 72).installEpoch durableStore ⟨1⟩ ⟨0⟩ 0).1 = .ok () ∧
      ∃ past g' journal snapshot temp, Run step ((fresh 72).installEpoch durableStore ⟨1⟩ ⟨0⟩ 0).2 past g' ∧
        Left g'.world.disk journal snapshot temp ∧
        ¬ Yields ⟨1⟩ (successor { maxBytes := 72 } journal snapshot temp) := by
  have hdisk : ((fresh 72).installEpoch durableStore ⟨1⟩ ⟨0⟩ 0).2.world.disk =
      ⟨.settled (some []), .settled (some (frameSnapshot firstCommitted)), .settled none⟩ := rfl
  refine ⟨rfl, rfl, [], _, some [], some (frameSnapshot firstCommitted), none, .start, ?_, ?_⟩
  · rw [hdisk]
    exact ⟨List.mem_singleton.mpr rfl, List.mem_singleton.mpr rfl, List.mem_singleton.mpr rfl⟩
  · intro hyields
    have hstate : Valid firstCommitted := valid_of_validateState rfl
    have hle : (⟨1⟩ : CoordinatorEpoch) ≤ firstCommitted.epoch := le_rfl
    obtain ⟨-, hfits⟩ := (yields_iff (by decide) rfl hstate hle).mp hyields
    rw [Option.getD_some, length_firstCommitted] at hfits
    exact absurd hfits (by decide)

/-- The same governor, where the sync of the directory does nothing in its next commit. -/
def freshUnsynced : Governor Store := { fresh 4096 with world := { (fresh 4096).world with lapses := [false, true] } }

/-- There the epoch is installed too, and a crash may leave the directory without any snapshot. -/
theorem unsynced_epoch_lost :
    freshUnsynced.storeOpen = true ∧ (freshUnsynced.installEpoch durableStore ⟨1⟩ ⟨0⟩ 0).1 = .ok () ∧
      ∃ journal snapshot temp,
        Left (freshUnsynced.installEpoch durableStore ⟨1⟩ ⟨0⟩ 0).2.world.disk journal snapshot temp ∧
        Readable {} journal snapshot ∧ ¬ Yields ⟨1⟩ (successor {} journal snapshot temp) := by
  have hout : freshUnsynced.installEpoch durableStore ⟨1⟩ ⟨0⟩ 0 =
      (.ok (), (freshUnsynced.installEpoch durableStore ⟨1⟩ ⟨0⟩ 0).2) := rfl
  have htemp := (freshUnsynced.installEpoch durableStore ⟨1⟩ ⟨0⟩ 0).2.world.disk.temp.kept
  refine ⟨rfl, rfl, some [], none, _, installEpoch_unsynced rfl hout rfl (List.mem_singleton_self _) htemp,
    ⟨Nat.zero_le _, Nat.zero_le _⟩, ?_⟩
  rw [yields_iff_reads (by decide)]
  exact nofun

/-- With room for the file as well, and the directory synced, the next store finds the epoch. -/
theorem installed_epoch_found : ∃ journal snapshot temp,
    Left ((fresh 4096).installEpoch durableStore ⟨1⟩ ⟨0⟩ 0).2.world.disk journal snapshot temp ∧
      Yields ⟨1⟩ (successor { maxBytes := 4096 } journal snapshot temp) := by
  obtain ⟨-, hok⟩ := installEpoch_atomic_and_durable (fresh 4096) rfl ⟨1⟩ ⟨0⟩ 0
  obtain ⟨-, -, -, hdurable, -⟩ := hok rfl
  have hlasting : Lasting ⟨1⟩ (fresh 4096) := Or.inl nofun
  have hdisk : ((fresh 4096).installEpoch durableStore ⟨1⟩ ⟨0⟩ 0).2.world.disk =
      ⟨.settled (some []), .settled (some (frameSnapshot firstCommitted)), .settled none⟩ := rfl
  have hleft : Left ((fresh 4096).installEpoch durableStore ⟨1⟩ ⟨0⟩ 0).2.world.disk (some [])
      (some (frameSnapshot firstCommitted)) none := by
    rw [hdisk]
    exact ⟨List.mem_singleton.mpr rfl, List.mem_singleton.mpr rfl, List.mem_singleton.mpr rfl⟩
  refine ⟨_, _, _, hleft, (hdurable hlasting [] _ .start _ _ _ hleft { maxBytes := 4096 }).mpr ⟨by decide, ?_⟩⟩
  rw [Option.getD_some, length_firstCommitted]
  decide

end HotspotGovernor.Installation
