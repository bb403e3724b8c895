import HotspotGovernor.Recoverable

namespace HotspotGovernor.Replay

open Foundation ByteIo Durable Journal Storage Durability Recoverable Lib.Volume Lib.Procedures

variable {s : Store} {state : DurableState} {records : List JournalRecord}

def applied (s : Store) : List JournalRecord :=
  match (readSnapshot s.config.maxBytes s.disk.snapshot.visible).state,
    replay s.disk.journal.visible s.config with
  | .ok state, .ok records => uncovered state records
  | _, _ => []

theorem foldl_applied (records : List JournalRecord) (r : RecoveredState) :
    (records.foldl applyRecord r).appliedJournalRecords = r.appliedJournalRecords + records.length := by
  induction records generalizing r with
  | nil => rfl
  | cons record records ih =>
    rw [List.foldl_cons, ih, List.length_cons]
    change r.appliedJournalRecords + 1 + records.length = _
    omega

theorem appliedJournalRecords_recoverFrom (s : Store) :
    (recoverFrom s).appliedJournalRecords = (applied s).length := by
  unfold recoverFrom applied
  cases s.disk.snapshot.visible with
  | none => rfl
  | some content =>
    dsimp only
    cases (readSnapshot s.config.maxBytes (some content)).state with
    | error e => rfl
    | ok state =>
      cases replay s.disk.journal.visible s.config with
      | error e => rfl
      | ok records => exact (foldl_applied _ _).trans (Nat.zero_add _)

structure Remains (before after : Disk) : Prop where
  journal : before.journal.Leaves after.journal
  snapshot : before.snapshot.Leaves after.snapshot
  temp : before.temp.Leaves after.temp

/-- Stores on one directory, object after object: any commit counts the records journalled before it,
and the next object finds what the last one left when it lost its power. -/
inductive Reached : Store → Prop
  | made (config : StoreConfig) (power : Option ℕ) (lapses : List Bool) (journal snapshot temp : Option Bytes) :
      Reached { config, power, lapses, disk := ⟨.settled journal, .settled snapshot, .settled temp⟩ }
  | opened {s : Store} (h : Reached s) : Reached (call openStore s).2
  | recovered {s : Store} (h : Reached s) : Reached (call recover s).2
  | committed {s : Store} (h : Reached s) (state : DurableState) (records : List JournalRecord)
      (hsequence : state.journalSequence = s.journal.lastSequence) :
      Reached (call (commit state records) s).2
  | restarted {s : Store} (h : Reached s) {disk : Disk} (hdisk : Remains s.disk disk) (config : StoreConfig)
      (power : Option ℕ) (lapses : List Bool) : Reached { config, disk, power, lapses }

theorem Reached.whole (h : Reached s) : s.opened = true → Whole s.disk.journal.contents := by
  induction h with
  | made => exact fun h ↦ absurd h Bool.false_ne_true
  | restarted => exact fun h ↦ absurd h Bool.false_ne_true
  | @opened s h ih =>
    intro hopened
    cases hopen : call openStore s with
    | mk out s' =>
      rw [hopen] at hopened
      cases out with
      | ok _ => exact (openStore_ok hopen).2
      | error e =>
        rcases openStore_error hopen with rfl | hclosed
        · exact ih hopened
        · exact absurd hopened (by simp [hclosed])
  | @recovered s h ih =>
    rw [recover_keeps]
    exact ih
  | @committed s h state records hsequence ih =>
    intro hopened
    have hkept : (call (commit state records) s).2.opened = s.opened :=
      congrArg Prod.snd (commit_keeps state records s)
    exact commit_whole state records s (ih (hkept ▸ hopened))

/-- The machine dies in the middle of this commit: its records were synced, and what is left of the
directory still has the old snapshot. -/
structure Interrupted (s : Store) (state : DurableState) (records : List JournalRecord) (disk : Disk) :
    Prop where
  opened : s.opened = true
  valid : validateState state = .ok ()
  sequence : state.journalSequence = s.journal.lastSequence
  synced : ∃ mid, call (journalIntent records) s = (.ok (), mid) ∧
    (call (writeSnapshot state) mid).2.power = some 0
  remains : Remains (call (commit state records) s).2.disk disk
  old : disk.snapshot.visible = s.disk.snapshot.visible

def stamped (s : Store) (records : List JournalRecord) : List JournalRecord :=
  stampFrom s.journal.lastSequence records

theorem Interrupted.journal {disk : Disk} (h : Interrupted s state records disk) :
    (∀ r ∈ records, Bounded r) ∧ disk.journal.visible =
      some (s.disk.journal.contents ++ encodeRecords (stamped s records)) := by
  obtain ⟨mid, hintent, hdead⟩ := h.synced
  obtain ⟨hbound, hfile⟩ := journalIntent_ok hintent
  have hkept : (call (writeSnapshot state) mid).2.disk.journal = mid.disk.journal :=
    congrArg (fun v ↦ v.2.2.2) (writeSnapshot_keeps state mid)
  have hcommit : (call (commit state records) s).2 = (call (writeSnapshot state) mid).2 := by
    rw [commit_eq, if_neg (by simp [h.opened]), h.valid]
    dsimp only
    rw [call_bind_ok hintent]
    cases hw : call (writeSnapshot state) mid with
    | mk out written =>
      rw [hw] at hdead
      cases out with
      | error e => rw [call_bind_error hw]
      | ok _ =>
        obtain ⟨e, he⟩ := retireJournal_dead hdead
        rw [call_bind_ok hw, he]
  have hleft := h.remains.journal
  rw [hcommit, hkept, hfile] at hleft
  rw [leaves_settled hleft]
  exact ⟨hbound, rfl⟩

/-- What it takes for the next object, under its own configuration, to apply the records of an
interrupted commit: it reads the old snapshot, which covers none of them, and all of the journal. -/
structure Replayable (s : Store) (records : List JournalRecord) (config : StoreConfig) : Prop where
  snapshot : ∃ content old, s.disk.snapshot.visible = some content ∧
    (readSnapshot config.maxBytes (some content)).state = .ok old ∧
    ∀ r ∈ stamped s records, old.journalSequence < r.sequence
  bytes : (s.disk.journal.contents ++ encodeRecords (stamped s records)).length ≤ config.maxBytes.toNat
  count : (scanRecords s.disk.journal.contents.length s.disk.journal.contents).1.length + records.length ≤
    config.maxJournalRecords

theorem length_stampFrom (last : Sequence) (records : List JournalRecord) :
    (stampFrom last records).length = records.length := by
  induction records generalizing last with
  | nil => rfl
  | cons record records ih => exact congrArg Nat.succ (ih (last + 1))

theorem recordEpoch_of_mem (last : Sequence) {record : JournalRecord} (h : record ∈ records) :
    ∃ r ∈ stampFrom last records, recordEpoch r = recordEpoch record := by
  induction records generalizing last with
  | nil => cases h
  | cons first records ih =>
    rcases List.mem_cons.mp h with rfl | h
    · exact ⟨_, List.mem_cons_self, rfl⟩
    · obtain ⟨r, hr, he⟩ := ih (last + 1) h
      exact ⟨r, List.mem_cons_of_mem _ hr, he⟩

/-- The records of an interrupted commit are applied by the next object, whatever came before. -/
theorem interrupted_commit_replayed (h : Reached s) {disk : Disk} (hcrash : Interrupted s state records disk)
    {config : StoreConfig} (hreplayable : Replayable s records config) (power : Option ℕ) (lapses : List Bool) :
    let next : Store := { config, disk, power, lapses }
    (call openStore next).1 = .ok () ∧ ∃ r, (call recover (call openStore next).2).1 = .ok r ∧
      r.recovered = true ∧ r.appliedJournalRecords = (applied (call openStore next).2).length ∧
      (∀ record ∈ stamped s records, record ∈ applied (call openStore next).2) ∧
        ∀ record ∈ records, ∀ epoch, recordEpoch record = some epoch → epoch ≤ r.lastEpoch := by
  intro next
  obtain ⟨hbound, hjournal⟩ := hcrash.journal
  obtain ⟨older, holder, hcontents⟩ := h.whole hcrash.opened
  obtain ⟨content, old, hvisible, hread, huncovered⟩ := hreplayable.snapshot
  have hall : ∀ r ∈ older ++ stamped s records, Bounded r := by
    intro r hr
    rcases List.mem_append.mp hr with hr | hr
    · exact holder r hr
    · exact stampFrom_bounded hbound r hr
  have hbytes := hreplayable.bytes
  have hcount := hreplayable.count
  rw [hcontents, scan_whole holder (length_le_encodeRecords older)] at hcount
  rw [hcontents, ← encodeRecords_append] at hjournal hbytes
  obtain ⟨opened, hopen, hopened, hfile⟩ := openStore_whole (s := next) ⟨rfl, rfl⟩ hall
    hjournal hbytes
  have hkept := openStore_keeps next
  rw [hopen] at hkept
  obtain ⟨hconfig, hsnapshot⟩ := Prod.mk.inj hkept
  have hfound : opened.disk.snapshot.visible = some content := by
    rw [hsnapshot, hcrash.old, hvisible]
  have hreplay : replay opened.disk.journal.visible opened.config = .ok (older ++ stamped s records) := by
    rw [hfile, hjournal, hconfig]
    unfold replay
    dsimp only
    rw [readFileAll_of_le hbytes]
    change Except.ok (scanRecords config.maxJournalRecords _).1 = _
    rw [scan_whole hall]
    rw [List.length_append, stamped, length_stampFrom]
    exact hcount
  change opened.config = config at hconfig
  rw [← hconfig] at hread
  have happlied : applied opened = uncovered old (older ++ stamped s records) := by
    unfold applied
    rw [hfound, hread, hreplay]
  have hmem : ∀ record ∈ stamped s records, record ∈ applied opened := by
    intro record hr
    rw [happlied]
    exact List.mem_filter.mpr ⟨List.mem_append_right _ hr, by simpa using huncovered record hr⟩
  rw [hopen, call_recover hopened]
  refine ⟨rfl, _, rfl, ?_, appliedJournalRecords_recoverFrom opened, hmem, ?_⟩
  · rw [recoverFrom_accepted hfound hread hreplay]
    rfl
  · intro record hr epoch hepoch
    obtain ⟨r, hr', he⟩ := recordEpoch_of_mem s.journal.lastSequence hr
    rw [recoverFrom_accepted hfound hread hreplay]
    rw [happlied] at hmem
    exact (lastEpoch_foldl _ _).2 r (hmem r hr') epoch (he.trans hepoch)

def advance (epoch : UInt64) : JournalRecord := { type := .epochAdvance, payload := putU64 epoch }

theorem remains_self {disk : Disk} {journal snapshot temp : Option Bytes}
    (h : disk = ⟨.settled journal, .settled snapshot, .settled temp⟩) : Remains disk disk := by
  subst h
  exact ⟨⟨_, List.mem_singleton_self _, rfl⟩, ⟨_, List.mem_singleton_self _, rfl⟩,
    ⟨_, List.mem_singleton_self _, rfl⟩⟩

/-- A first commit was made before, and the machine dies once more, with one record synced. -/
def resumed : Store :=
  { disk := ⟨.settled (some []), .settled (some (frameSnapshot { epoch := ⟨1⟩ })), .settled none⟩
    power := some 2
    journal := { isOpen := true }
    opened := true }

theorem reached_resumed : Reached resumed :=
  (Reached.made {} (some 2) [] (some []) (some (frameSnapshot { epoch := ⟨1⟩ })) none).opened

def resumedDisk : Disk := (call (commit { epoch := ⟨2⟩ } [advance 2]) resumed).2.disk

theorem resumedDisk_eq : resumedDisk = ⟨.settled (some (encodeJournalRecord { advance 2 with sequence := 1 })),
    .settled (some (frameSnapshot { epoch := ⟨1⟩ })), .settled none⟩ := by
  unfold resumedDisk resumed
  rfl

theorem interrupted_resumed : Interrupted resumed { epoch := ⟨2⟩ } [advance 2] resumedDisk where
  opened := rfl
  valid := rfl
  sequence := rfl
  synced := ⟨_, rfl, rfl⟩
  remains := remains_self resumedDisk_eq
  old := rfl

theorem replayable_resumed : Replayable resumed [advance 2] {} where
  snapshot := by
    refine ⟨_, { epoch := ⟨1⟩ }, rfl, ?_, by decide⟩
    rw [readSnapshot_frame (valid_of_validateState rfl) (by decide)]
  bytes := by decide
  count := by decide

theorem resumed_replayed : (call openStore { disk := resumedDisk }).1 = .ok () ∧ ∃ r,
    (call recover (call openStore { disk := resumedDisk }).2).1 = .ok r ∧ ⟨2⟩ ≤ r.lastEpoch := by
  obtain ⟨hopen, r, hr, -, -, -, hepoch⟩ :=
    interrupted_commit_replayed reached_resumed interrupted_resumed replayable_resumed none []
  exact ⟨hopen, r, hr, hepoch (advance 2) (List.mem_singleton_self _) ⟨2⟩ (by decide)⟩

/-- Two commits and a restart: the journal is empty, and its numbers start again while the snapshot
has counted one record already. -/
def firstLifetime : Store :=
  (call (commit { epoch := ⟨1⟩, journalSequence := 1 } [advance 1])
    (call (commit { epoch := ⟨1⟩ } [advance 1]) (call openStore {}).2).2).2

def secondLifetime (power : Option ℕ) : Store := (call openStore { disk := firstLifetime.disk, power }).2

theorem firstLifetime_disk : firstLifetime.disk = ⟨.settled (some []),
    .settled (some (frameSnapshot { epoch := ⟨1⟩, journalSequence := 1 })), .settled none⟩ := rfl

theorem reached_secondLifetime (power : Option ℕ) : Reached (secondLifetime power) := by
  have hopen : Reached (call openStore {}).2 := (Reached.made {} none [] none none none).opened
  have hfirst : Reached firstLifetime := (hopen.committed _ _ rfl).committed _ _ rfl
  exact (hfirst.restarted (remains_self firstLifetime_disk) {} power []).opened

def lost : Store := (call (commit { epoch := ⟨2⟩ } [advance 2]) (secondLifetime (some 2))).2

theorem secondLifetime_eq (power : Option ℕ) : secondLifetime power =
    { disk := firstLifetime.disk, power, journal := { isOpen := true }, opened := true } := rfl

theorem lost_disk : lost.disk = ⟨.settled (some (encodeJournalRecord { advance 2 with sequence := 1 })),
    .settled (some (frameSnapshot { epoch := ⟨1⟩, journalSequence := 1 })), .settled none⟩ := by
  unfold lost
  rw [secondLifetime_eq, firstLifetime_disk]
  rfl

theorem interrupted_lost :
    Interrupted (secondLifetime (some 2)) { epoch := ⟨2⟩ } [advance 2] lost.disk where
  opened := rfl
  valid := rfl
  sequence := rfl
  synced := ⟨_, rfl, rfl⟩
  remains := remains_self lost_disk
  old := rfl

/-- The record was synced and the old snapshot is in place, and yet the record is not applied: its
number is one that the snapshot has counted in the lifetime before. -/
theorem synced_record_skipped : Reached (secondLifetime (some 2)) ∧
    Interrupted (secondLifetime (some 2)) { epoch := ⟨2⟩ } [advance 2] lost.disk ∧
    (call openStore { disk := lost.disk }).1 = .ok () ∧ applied (call openStore { disk := lost.disk }).2 = [] ∧
    ∃ r, (call recover (call openStore { disk := lost.disk }).2).1 = .ok r ∧ r.lastEpoch = ⟨1⟩ := by
  refine ⟨reached_secondLifetime _, interrupted_lost, ?_⟩
  have hbound : ∀ r ∈ [{ advance 2 with sequence := 1 }], Bounded r := by
    intro r hr
    rw [List.mem_singleton.mp hr]
    exact Nat.le_of_ble_eq_true rfl
  have hjournal : lost.disk.journal.visible = some (encodeRecords [{ advance 2 with sequence := 1 }]) := by
    rw [lost_disk, encodeRecords, List.flatMap_singleton]
    rfl
  obtain ⟨opened, hopen, hopened, hfile⟩ := openStore_whole (s := { disk := lost.disk }) ⟨rfl, rfl⟩ hbound
    hjournal (by decide)
  have hkept := openStore_keeps { disk := lost.disk }
  rw [hopen] at hkept
  obtain ⟨hconfig, hsnapshot⟩ := Prod.mk.inj hkept
  dsimp only at hconfig hsnapshot hfile
  have hvisible : opened.disk.snapshot.visible =
      some (frameSnapshot { epoch := ⟨1⟩, journalSequence := 1 }) := by
    rw [hsnapshot]
    rfl
  have hread : (readSnapshot opened.config.maxBytes
      (some (frameSnapshot { epoch := ⟨1⟩, journalSequence := 1 }))).state =
      .ok { epoch := ⟨1⟩, journalSequence := 1 } := by
    rw [hconfig, readSnapshot_frame (valid_of_validateState rfl) (by decide)]
  have hreplay : replay opened.disk.journal.visible opened.config =
      .ok [{ advance 2 with sequence := 1 }] := by
    rw [hfile, hconfig, hjournal]
    unfold replay
    dsimp only
    rw [readFileAll_of_le (by decide)]
    change Except.ok (scanRecords _ _).1 = _
    rw [scan_whole hbound (by decide)]
  rw [hopen, call_recover hopened]
  refine ⟨rfl, ?_, _, rfl, ?_⟩
  · unfold applied
    rw [hvisible, hread, hreplay]
    rfl
  · rw [recoverFrom_accepted hvisible hread hreplay]
    rfl

end HotspotGovernor.Replay
