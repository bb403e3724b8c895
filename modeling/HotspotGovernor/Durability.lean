import HotspotGovernor.Storage

namespace HotspotGovernor.Durability

open Foundation ByteIo Framing Durable Journal Storage Lib.Volume Lib.Procedures

variable {s s' : Store} {state : DurableState} {records : List JournalRecord}

def spent : Option ℕ → Option ℕ := Option.map (· - 1)

theorem call_access_live (h : s.power ≠ some 0) (failure : String) (change : Disk → Disk) :
    call (access failure change) s = (.ok (), { s with disk := change s.disk, power := spent s.power }) := by
  unfold call access spent
  rcases hp : s.power with _ | _ | n
  · rfl
  · exact absurd hp h
  · rfl

theorem call_access_dead (h : s.power = some 0) (failure : String) (change : Disk → Disk) :
    call (access failure change) s = (Status.failure .persistenceIoError failure, s) := by
  unfold call access
  rw [h]

theorem access_eq_ok {failure : String} {change : Disk → Disk}
    (h : call (access failure change) s = (.ok (), s')) :
    s.power ≠ some 0 ∧ s' = { s with disk := change s.disk, power := spent s.power } := by
  by_cases hp : s.power = some 0
  · rw [call_access_dead hp] at h
    cases h
  · rw [call_access_live hp] at h
    exact ⟨hp, (Prod.mk.inj h).2.symm⟩

theorem access_keeps {V : Type} {view : Store → V} {change : Disk → Disk}
    (h : ∀ s power, view { s with disk := change s.disk, power } = view s) (failure : String) :
    Keeps view (access failure change) := by
  intro s
  by_cases hp : s.power = some 0
  · rw [call_access_dead hp]
  · rw [call_access_live hp]
    exact h s _

theorem call_unchecked (failure : String) (change : Disk → Disk) (s : Store) :
    call (unchecked failure change) s = (.ok (), if s.lapses.headD false then { s with lapses := s.lapses.tail }
      else (call (access failure change) { s with lapses := s.lapses.tail }).2) := by
  unfold unchecked
  rw [call_get_bind, call_modify_bind]
  split <;> rfl

theorem lapses_unchecked (failure : String) (change : Disk → Disk) (s : Store) :
    (call (unchecked failure change) s).2.lapses = s.lapses.tail := by
  rw [call_unchecked]
  split
  · rfl
  · have hkeeps : Keeps Store.lapses (access failure change) := access_keeps (fun _ _ ↦ rfl) failure
    exact hkeeps _

theorem unchecked_keeps {V : Type} {view : Store → V} {change : Disk → Disk}
    (h : ∀ s power, view { s with disk := change s.disk, power } = view s)
    (hlapses : ∀ s lapses, view { s with lapses } = view s) (failure : String) :
    Keeps view (unchecked failure change) := by
  refine Keeps.get_bind fun s ↦ (Keeps.modify fun s ↦ hlapses s _).bind fun _ ↦ ?_
  split
  · exact Keeps.pure ()
  · exact (access_keeps h failure).attempt

theorem writeFileAll_keeps_view {V : Type} {view : Store → V} {on : (File UInt8 → File UInt8) → Disk → Disk}
    (h : ∀ s change power, view { s with disk := on change s.disk, power } = view s)
    (hlapses : ∀ s lapses, view { s with lapses } = view s) (bytes : Bytes) :
    Keeps view (writeFileAll on bytes) :=
  (access_keeps (h · _) _).bind fun _ ↦ unchecked_keeps (h · _) hlapses _

theorem lapses_writeFileAll {on : (File UInt8 → File UInt8) → Disk → Disk} {bytes : Bytes}
    (h : call (writeFileAll on bytes) s = (.ok (), s')) : s'.lapses = s.lapses.tail := by
  unfold writeFileAll at h
  obtain ⟨_, written, haccess, h⟩ := call_bind_eq_ok h
  obtain ⟨-, rfl⟩ := access_eq_ok haccess
  have hlapses := lapses_unchecked "durability barrier failed" (on File.sync)
    { s with disk := on (·.write bytes) s.disk, power := spent s.power }
  rwa [h] at hlapses

theorem call_writeFileAll (hpower : s.power = none) (on : (File UInt8 → File UInt8) → Disk → Disk)
    (bytes : Bytes) :
    ∃ s', call (writeFileAll on bytes) s = (.ok (), s') ∧ s'.power = none := by
  have hspent : spent s.power = none := by simp [hpower, spent]
  have hlive : s.power ≠ some 0 := by simp [hpower]
  unfold writeFileAll
  rw [call_bind_ok (call_access_live hlive _ _), call_unchecked]
  refine ⟨_, rfl, ?_⟩
  split
  · exact hspent
  · rw [call_access_live (by simp [hspent]), hspent]
    rfl

def Reliable (s : Store) : Prop := s.lapses = []

theorem preserves_of_keeps {A : Type} {x : StoreM A} (h : Keeps Store.lapses x) : Preserves Reliable x :=
  Keeps.preserves (Q := fun lapses ↦ lapses = []) h

theorem unchecked_reliable (failure : String) (change : Disk → Disk) :
    Preserves Reliable (unchecked failure change) := by
  intro s hs
  rw [Reliable, lapses_unchecked, hs]
  rfl

theorem writeFileAll_reliable (on : (File UInt8 → File UInt8) → Disk → Disk) (bytes : Bytes) :
    Preserves Reliable (writeFileAll on bytes) := by
  refine Preserves.bind (preserves_of_keeps ?_) fun _ ↦ unchecked_reliable _ _
  exact access_keeps (fun _ _ ↦ rfl) _

theorem writeFileAll_ok (on : (File UInt8 → File UInt8) → Disk → Disk) (file : Disk → File UInt8)
    (hon : ∀ change disk, file (on change disk) = change (file disk)) {bytes : Bytes}
    (h : call (writeFileAll on bytes) s = (.ok (), s')) : (file s'.disk).visible = some bytes := by
  unfold writeFileAll at h
  obtain ⟨_, written, haccess, h⟩ := call_bind_eq_ok h
  obtain ⟨-, rfl⟩ := access_eq_ok haccess
  have hkeeps : Keeps (fun s : Store ↦ (file s.disk).visible)
      (unchecked "durability barrier failed" (on File.sync)) :=
    unchecked_keeps (fun s power ↦ by dsimp only; rw [hon]; rfl) (fun _ _ ↦ rfl) _
  have hkept := hkeeps { s with disk := on (·.write bytes) s.disk, power := spent s.power }
  rw [h] at hkept
  dsimp only at hkept
  rw [hkept, hon]
  rfl

def apart (s : Store) : StoreConfig × Bool × File UInt8 × File UInt8 :=
  (s.config, s.opened, s.disk.snapshot, s.disk.temp)

theorem writeFileAll_keeps (bytes : Bytes) : Keeps apart (writeFileAll Disk.onJournal bytes) :=
  writeFileAll_keeps_view (fun _ _ _ ↦ rfl) (fun _ _ ↦ rfl) bytes

section Records

variable {V : Type} {view : Store → V}
  (h : ∀ s change power journal, view { s with disk := s.disk.onJournal change, power, journal } = view s)
include h

theorem append_keeps (record : JournalRecord) : Keeps view (JournalState.append record) := by
  refine Keeps.get_bind fun s ↦ ?_
  refine (Keeps.refuseIf _ _).bind fun _ ↦ ?_
  refine (Keeps.refuseIf _ _).bind fun _ ↦ ?_
  refine (Keeps.refuseIf _ _).bind fun _ ↦ ?_
  refine (access_keeps (fun s power ↦ h s _ power s.journal) _).bind fun _ ↦ Keeps.modify fun s ↦ ?_
  exact h s id s.power _

theorem appendAll_keeps (records : List JournalRecord) : Keeps view (appendAll records) := by
  induction records with
  | nil => exact Keeps.pure ()
  | cons record records ih => exact (append_keeps h record).bind fun _ ↦ ih

theorem sync_keeps : Keeps view JournalState.sync := by
  refine Keeps.get_bind fun s ↦ ?_
  refine (Keeps.refuseIf _ _).bind fun _ ↦ ?_
  refine Keeps.get_bind fun s ↦ ?_
  exact (Keeps.refuseIf _ _).bind fun _ ↦ access_keeps (fun s power ↦ h s _ power s.journal) _

theorem journalIntent_keeps (records : List JournalRecord) : Keeps view (journalIntent records) :=
  (appendAll_keeps h records).bind fun _ ↦ sync_keeps h

end Records

theorem journalIntent_apart (records : List JournalRecord) : Keeps apart (journalIntent records) :=
  journalIntent_keeps (fun _ _ _ _ ↦ rfl) records

theorem retireJournal_keeps : Keeps apart retireJournal := by
  refine Keeps.bind ?_ fun _ ↦ sync_keeps fun _ _ _ _ ↦ rfl
  refine Keeps.get_bind fun s ↦ ?_
  refine (Keeps.refuseIf _ _).bind fun _ ↦ ?_
  exact (writeFileAll_keeps []).bind fun _ ↦ Keeps.modify fun _ ↦ rfl

def beside (s : Store) : StoreConfig × Bool × JournalState × File UInt8 :=
  (s.config, s.opened, s.journal, s.disk.journal)

def prepareSnapshot (bytes : Bytes) : StoreM Unit := do
  writeFileAll Disk.onTemp bytes
  fsyncFile Disk.onTemp Disk.temp

theorem prepareSnapshot_keeps {V : Type} {view : Store → V} (bytes : Bytes)
    (h : ∀ s change power, view { s with disk := s.disk.onTemp change, power } = view s)
    (hlapses : ∀ s lapses, view { s with lapses } = view s) : Keeps view (prepareSnapshot bytes) := by
  refine (writeFileAll_keeps_view (fun s change power ↦ h s change power) hlapses bytes).bind fun _ ↦ ?_
  refine Keeps.get_bind fun s ↦ ?_
  exact (Keeps.refuseIf _ _).bind fun _ ↦ access_keeps (h · _) _

theorem prepareSnapshot_ok {bytes : Bytes} (h : call (prepareSnapshot bytes) s = (.ok (), s')) :
    s'.disk.temp = .settled (some bytes) := by
  unfold prepareSnapshot at h
  obtain ⟨_, mid, hwrite, hsync⟩ := call_bind_eq_ok h
  have hvisible : mid.disk.temp.visible = some bytes :=
    writeFileAll_ok Disk.onTemp Disk.temp (fun _ _ ↦ rfl) hwrite
  unfold fsyncFile at hsync
  rw [call_get_bind, call_refuseIf_bind] at hsync
  split at hsync
  · cases hsync
  · obtain ⟨-, rfl⟩ := access_eq_ok hsync
    exact congrArg File.settled hvisible

theorem lapses_prepareSnapshot {bytes : Bytes} (h : call (prepareSnapshot bytes) s = (.ok (), s')) :
    s'.lapses = s.lapses.tail := by
  unfold prepareSnapshot at h
  obtain ⟨_, mid, hwrite, hsync⟩ := call_bind_eq_ok h
  have hkeeps : Keeps Store.lapses (fsyncFile Disk.onTemp Disk.temp) :=
    Keeps.get_bind fun _ ↦ (Keeps.refuseIf _ _).bind fun _ ↦ access_keeps (fun _ _ ↦ rfl) _
  have hkept := hkeeps mid
  rw [hsync] at hkept
  exact hkept.trans (lapses_writeFileAll hwrite)

theorem writeSnapshot_eq (state : DurableState) (s : Store) : call (writeSnapshot state) s =
    if (encodeDurableState state).length > s.config.maxBytes.toNat then
      (.error ⟨.durableGrowthExceeded, "snapshot exceeds the configured bound"⟩, s)
    else call (prepareSnapshot (frameSnapshot state) >>= fun _ ↦ atomicReplace) s := by
  unfold writeSnapshot prepareSnapshot
  rw [call_get_bind, call_refuseIf_bind, bind_assoc]

theorem writeSnapshot_keeps (state : DurableState) : Keeps beside (writeSnapshot state) := by
  intro s
  rw [writeSnapshot_eq]
  split
  · rfl
  · refine Keeps.bind (prepareSnapshot_keeps _ (fun _ _ _ ↦ rfl) fun _ _ ↦ rfl) (fun _ ↦ ?_) s
    exact (access_keeps (fun _ _ ↦ rfl) _).bind fun _ ↦ unchecked_keeps (fun _ _ ↦ rfl) (fun _ _ ↦ rfl) _

/-- How writing a snapshot ends: with an error and the old file, or renamed. Unless the power ran out
right after the rename, or nothing came of the sync of the directory, the rename is durable. -/
inductive Ending (content : Bytes) (old : File UInt8) (lapsed : Prop) : Status → Option ℕ → File UInt8 → Prop
  | refused (e : Failure) (power : Option ℕ) : Ending content old lapsed (.error e) power old
  | renamed (power : Option ℕ) (h : lapsed ∨ power = some 0) :
      Ending content old lapsed (.ok ()) power (old.replaceBy (.settled (some content)))
  | replaced (power : Option ℕ) (h : ¬ lapsed) : Ending content old lapsed (.ok ()) power (.settled (some content))

section Ending

variable {content : Bytes} {old new : File UInt8} {lapsed : Prop} {power : Option ℕ}

theorem Ending.of_error {e : Failure} (h : Ending content old lapsed (.error e) power new) : new = old := by
  cases h
  rfl

theorem Ending.of_ok (h : Ending content old lapsed (.ok ()) power new) :
    (lapsed ∨ power = some 0) ∧ new = old.replaceBy (.settled (some content)) ∨
      ¬ lapsed ∧ new = .settled (some content) := by
  cases h with
  | renamed power h => exact Or.inl ⟨h, rfl⟩
  | replaced power h => exact Or.inr ⟨h, rfl⟩

end Ending

theorem atomicReplace_ending {content : Bytes} (h : s.disk.temp = .settled (some content)) :
    Ending content s.disk.snapshot (s.lapses.headD false = true) (call atomicReplace s).1
      (call atomicReplace s).2.power (call atomicReplace s).2.disk.snapshot := by
  unfold atomicReplace
  by_cases hdead : s.power = some 0
  · rw [call_bind_error (call_access_dead hdead _ _)]
    exact .refused _ _
  · have hrenamed : s.disk.rename.snapshot = s.disk.snapshot.replaceBy (.settled (some content)) := by
      unfold Disk.rename
      rw [h]
    rw [call_bind_ok (call_access_live hdead _ _), call_unchecked]
    dsimp only
    split
    · next hlapsed =>
      dsimp only
      rw [hrenamed]
      exact .renamed _ (Or.inl hlapsed)
    · next hsynced =>
      by_cases hlast : spent s.power = some 0
      · rw [call_access_dead hlast]
        dsimp only
        rw [hlast, hrenamed]
        exact .renamed _ (Or.inr rfl)
      · rw [call_access_live hlast]
        change Ending content _ _ _ _ (s.disk.rename.snapshot.sync)
        rw [hrenamed]
        exact .replaced _ hsynced

/-- Of the accesses whose outcome a commit ignores, the second is the sync of the directory. -/
def Unsynced (s : Store) : Prop := s.lapses[1]? = some true

theorem unsynced_iff (s : Store) : Unsynced s ↔ s.lapses.tail.headD false = true := by
  rw [Unsynced, ← List.head?_tail]
  cases s.lapses.tail with
  | nil => simp
  | cons lapsed lapses => simp

theorem writeSnapshot_ending (state : DurableState) (s : Store) :
    Ending (frameSnapshot state) s.disk.snapshot (Unsynced s) (call (writeSnapshot state) s).1
      (call (writeSnapshot state) s).2.power (call (writeSnapshot state) s).2.disk.snapshot := by
  rw [writeSnapshot_eq]
  split
  · exact .refused _ _
  · have hkeeps : Keeps (fun s : Store ↦ s.disk.snapshot) (prepareSnapshot (frameSnapshot state)) :=
      prepareSnapshot_keeps _ (fun _ _ _ ↦ rfl) fun _ _ ↦ rfl
    have hkept := hkeeps s
    cases hp : call (prepareSnapshot (frameSnapshot state)) s with
    | mk out mid =>
      rw [hp] at hkept
      dsimp only at hkept
      rw [← hkept]
      cases out with
      | error e =>
        rw [call_bind_error hp]
        exact .refused e _
      | ok _ =>
        rw [call_bind_ok hp, unsynced_iff, ← lapses_prepareSnapshot hp]
        exact atomicReplace_ending (prepareSnapshot_ok hp)

def stampFrom : Sequence → List JournalRecord → List JournalRecord
  | _, [] => []
  | last, record :: records => { record with sequence := last + 1 } :: stampFrom (last + 1) records

theorem stampFrom_bounded {last : Sequence} (h : ∀ r ∈ records, Bounded r) :
    ∀ r ∈ stampFrom last records, Bounded r := by
  induction records generalizing last with
  | nil => simp [stampFrom]
  | cons record records ih =>
    intro r hr
    rcases List.mem_cons.mp hr with rfl | hr
    · exact h record List.mem_cons_self
    · exact ih (fun x hx ↦ h x (List.mem_cons_of_mem _ hx)) r hr

theorem append_cases (record : JournalRecord) (s : Store) :
    (∃ e, call (JournalState.append record) s = (.error e, s)) ∨
    (Bounded record ∧ ∃ s', call (JournalState.append record) s = (.ok (), s') ∧
      s'.journal.lastSequence = s.journal.lastSequence + 1 ∧
      s'.disk.journal = s.disk.journal.append
        (encodeJournalRecord { record with sequence := s.journal.lastSequence + 1 })) := by
  unfold JournalState.append
  rw [call_get_bind, call_refuseIf_bind]
  split
  · exact Or.inl ⟨_, rfl⟩
  rw [call_refuseIf_bind]
  split
  · exact Or.inl ⟨_, rfl⟩
  next hbound =>
  dsimp only
  rw [call_refuseIf_bind]
  split
  · exact Or.inl ⟨_, rfl⟩
  · unfold appendFileAll
    by_cases hdead : s.power = some 0
    · rw [call_bind_error (call_access_dead hdead _ _)]
      exact Or.inl ⟨_, rfl⟩
    · rw [call_bind_ok (call_access_live hdead _ _), call_modify]
      exact Or.inr ⟨not_lt.mp hbound, _, rfl, rfl, rfl⟩

theorem contents_append (f : File UInt8) (bytes : Bytes) : (f.append bytes).contents = f.contents ++ bytes := rfl

theorem appendAll_contents (records : List JournalRecord) (s : Store) :
    ∃ added, (∀ r ∈ added, Bounded r) ∧ (call (appendAll records) s).2.disk.journal.contents =
      s.disk.journal.contents ++ encodeRecords added := by
  induction records generalizing s with
  | nil => exact ⟨[], by simp, (List.append_nil _).symm⟩
  | cons record records ih =>
    unfold appendAll
    rcases append_cases record s with ⟨e, he⟩ | ⟨hbound, mid, hmid, -, hfile⟩
    · rw [call_bind_error he]
      exact ⟨[], by simp, (List.append_nil _).symm⟩
    · rw [call_bind_ok hmid]
      obtain ⟨added, hadded, hcontents⟩ := ih mid
      refine ⟨{ record with sequence := s.journal.lastSequence + 1 } :: added, ?_, ?_⟩
      · intro r hr
        rcases List.mem_cons.mp hr with rfl | hr
        · exact hbound
        · exact hadded r hr
      · rw [hcontents, hfile, contents_append, List.append_assoc]
        rfl

theorem appendAll_ok (h : call (appendAll records) s = (.ok (), s')) :
    (∀ r ∈ records, Bounded r) ∧ s'.disk.journal.contents =
      s.disk.journal.contents ++ encodeRecords (stampFrom s.journal.lastSequence records) := by
  induction records generalizing s with
  | nil =>
    obtain rfl : s = s' := (Prod.mk.inj h).2
    exact ⟨by simp, (List.append_nil _).symm⟩
  | cons record records ih =>
    unfold appendAll at h
    rcases append_cases record s with ⟨e, he⟩ | ⟨hbound, mid, hmid, hlast, hfile⟩
    · rw [call_bind_error he] at h
      cases h
    · rw [call_bind_ok hmid] at h
      obtain ⟨hall, hcontents⟩ := ih h
      refine ⟨?_, ?_⟩
      · intro r hr
        rcases List.mem_cons.mp hr with rfl | hr
        · exact hbound
        · exact hall r hr
      · rw [hcontents, hfile, hlast, contents_append, List.append_assoc]
        rfl

theorem sync_visible (s : Store) :
    (call JournalState.sync s).2.disk.journal.visible = s.disk.journal.visible := by
  have hkeeps : Keeps (fun s : Store ↦ s.disk.journal.visible) JournalState.sync := by
    refine Keeps.get_bind fun s ↦ ?_
    refine (Keeps.refuseIf _ _).bind fun _ ↦ Keeps.get_bind fun s ↦ ?_
    exact (Keeps.refuseIf _ _).bind fun _ ↦ access_keeps (fun _ _ ↦ rfl) _
  exact hkeeps s

theorem sync_ok (h : call JournalState.sync s = (.ok (), s')) :
    s.power ≠ some 0 ∧ s'.disk.journal = .settled (some s.disk.journal.contents) := by
  unfold JournalState.sync fsyncFile at h
  rw [call_get_bind, call_refuseIf_bind] at h
  split at h
  · cases h
  rw [call_get_bind, call_refuseIf_bind] at h
  split at h
  · cases h
  next hsome =>
  obtain ⟨hp, rfl⟩ := access_eq_ok h
  refine ⟨hp, congrArg File.settled ?_⟩
  unfold File.contents
  cases hv : s.disk.journal.visible with
  | none => exact absurd (by rw [hv]; rfl) hsome
  | some content => rfl

theorem journalIntent_ok (h : call (journalIntent records) s = (.ok (), s')) :
    (∀ r ∈ records, Bounded r) ∧ s'.disk.journal = .settled (some (s.disk.journal.contents ++
      encodeRecords (stampFrom s.journal.lastSequence records))) := by
  unfold journalIntent at h
  obtain ⟨_, mid, happend, hsync⟩ := call_bind_eq_ok h
  obtain ⟨hbound, hcontents⟩ := appendAll_ok happend
  obtain ⟨-, hfile⟩ := sync_ok hsync
  rw [hcontents] at hfile
  exact ⟨hbound, hfile⟩

theorem reset_cases (s : Store) :
    (∃ e, call JournalState.reset s = (.error e, s)) ∨
    (s.power ≠ some 0 ∧ ∃ s', call JournalState.reset s = (.ok (), s') ∧
      s'.disk.journal.visible = some []) := by
  unfold JournalState.reset
  rw [call_get_bind, call_refuseIf_bind]
  split
  · exact Or.inl ⟨_, rfl⟩
  by_cases hdead : s.power = some 0
  · unfold writeFileAll
    rw [call_bind_error (call_bind_error (call_access_dead hdead _ _))]
    exact Or.inl ⟨_, rfl⟩
  · have hwrite : call (writeFileAll Disk.onJournal []) s = (.ok (), (call (writeFileAll Disk.onJournal []) s).2) := by
      unfold writeFileAll
      rw [call_bind_ok (call_access_live hdead _ _), call_unchecked]
    have hempty := writeFileAll_ok Disk.onJournal Disk.journal (fun _ _ ↦ rfl) hwrite
    rw [call_bind_ok hwrite, call_modify]
    exact Or.inr ⟨hdead, _, rfl, hempty⟩

theorem retireJournal_dead (h : s.power = some 0) : ∃ e, call retireJournal s = (.error e, s) := by
  unfold retireJournal
  rcases reset_cases s with ⟨e, he⟩ | ⟨hlive, -⟩
  · exact ⟨e, call_bind_error he⟩
  · exact absurd h hlive

theorem retireJournal_ok (h : call retireJournal s = (.ok (), s')) :
    s.power ≠ some 0 ∧ s'.disk.journal = .settled (some []) := by
  unfold retireJournal at h
  rcases reset_cases s with ⟨e, he⟩ | ⟨hlive, mid, hmid, hempty⟩
  · rw [call_bind_error he] at h
    cases h
  · rw [call_bind_ok hmid] at h
    refine ⟨hlive, ?_⟩
    rw [(sync_ok h).2]
    unfold File.contents
    rw [hempty]
    rfl

theorem retireJournal_contents (s : Store) :
    (call retireJournal s).2.disk.journal.contents = s.disk.journal.contents ∨
      (call retireJournal s).2.disk.journal.contents = [] := by
  unfold retireJournal File.contents
  rcases reset_cases s with ⟨e, he⟩ | ⟨-, mid, hmid, hempty⟩
  · rw [call_bind_error he]
    exact Or.inl rfl
  · rw [call_bind_ok hmid, sync_visible, hempty]
    exact Or.inr rfl

theorem commit_eq (state : DurableState) (records : List JournalRecord) (s : Store) :
    call (commit state records) s =
      if !s.opened then (.error ⟨.notStarted, "store is not open"⟩, s)
      else match validateState state with
        | .error e => (.error e, s)
        | .ok () => call (journalIntent records >>= fun _ ↦ writeSnapshot state >>= fun _ ↦ retireJournal) s := by
  unfold commit
  rw [call_get_bind, call_refuseIf_bind]
  split
  · rfl
  · cases hv : validateState state with
    | error e => exact call_bind_error (call_lift _ _)
    | ok _ => exact call_bind_ok (call_lift _ _)

/-- A commit that was interrupted or succeeded: the snapshot file is the old one, or it may be the old
one and is visibly the new one, or it is the new one. -/
inductive Succession (state : DurableState) (old : File UInt8) : File UInt8 → Prop
  | kept : Succession state old old
  | renamed (h : validateState state = .ok ()) :
      Succession state old (old.replaceBy (.settled (some (frameSnapshot state))))
  | replaced (h : validateState state = .ok ()) : Succession state old (.settled (some (frameSnapshot state)))

theorem commit_succession (state : DurableState) (records : List JournalRecord) (s : Store) :
    Succession state s.disk.snapshot (call (commit state records) s).2.disk.snapshot := by
  rw [commit_eq]
  split
  · exact .kept
  cases hv : validateState state with
  | error e => exact .kept
  | ok _ =>
    dsimp only
    have hkept := journalIntent_apart records s
    cases hi : call (journalIntent records) s with
    | mk out mid =>
      rw [hi] at hkept
      have hsnapshot : mid.disk.snapshot = s.disk.snapshot := congrArg (fun v ↦ v.2.2.1) hkept
      cases out with
      | error e =>
        rw [call_bind_error hi, hsnapshot]
        exact .kept
      | ok _ =>
        rw [call_bind_ok hi, ← hsnapshot]
        have hending := writeSnapshot_ending state mid
        cases hw : call (writeSnapshot state) mid with
        | mk out written =>
          rw [hw] at hending
          cases out with
          | error e =>
            rw [call_bind_error hw, hending.of_error]
            exact .kept
          | ok _ =>
            rw [call_bind_ok hw, show (call retireJournal written).2.disk.snapshot = written.disk.snapshot from
              congrArg (fun v ↦ v.2.2.1) (retireJournal_keeps written)]
            rcases hending.of_ok with ⟨-, h⟩ | ⟨-, h⟩
            · rw [h]
              exact .renamed hv
            · rw [h]
              exact .replaced hv

/-- What a successful commit leaves: the new snapshot, durable unless nothing came of the sync of the
directory, and an empty durable journal. -/
theorem commit_ok (h : call (commit state records) s = (.ok (), s')) : validateState state = .ok () ∧
    (Unsynced s ∧ s'.disk.snapshot = s.disk.snapshot.replaceBy (.settled (some (frameSnapshot state))) ∨
      ¬ Unsynced s ∧ s'.disk.snapshot = .settled (some (frameSnapshot state))) ∧
    s'.disk.journal = .settled (some []) := by
  rw [commit_eq] at h
  split at h
  · cases h
  cases hv : validateState state with
  | error e =>
    rw [hv] at h
    cases h
  | ok _ =>
    rw [hv] at h
    obtain ⟨_, mid, hintent, h⟩ := call_bind_eq_ok h
    obtain ⟨_, written, hwrite, h⟩ := call_bind_eq_ok h
    obtain ⟨hlive, hjournal⟩ := retireJournal_ok h
    have hsnapshot : s'.disk.snapshot = written.disk.snapshot := by
      have hkept := retireJournal_keeps written
      rw [h] at hkept
      exact congrArg (fun v ↦ v.2.2.1) hkept
    have hkeeps : Keeps (fun s : Store ↦ (s.lapses, s.disk.snapshot)) (journalIntent records) :=
      journalIntent_keeps (fun _ _ _ _ ↦ rfl) records
    have hbefore := hkeeps s
    rw [hintent] at hbefore
    obtain ⟨hlapses, hold⟩ := Prod.mk.inj hbefore
    have hending := writeSnapshot_ending state mid
    rw [hwrite, Unsynced, hlapses, hold] at hending
    refine ⟨rfl, ?_, hjournal⟩
    rcases hending.of_ok with ⟨hlapsed | hdead, hnew⟩ | ⟨hsynced, hnew⟩
    · exact Or.inl ⟨hlapsed, hsnapshot.trans hnew⟩
    · exact absurd hdead hlive
    · exact Or.inr ⟨hsynced, hsnapshot.trans hnew⟩

theorem commit_visible (h : call (commit state records) s = (.ok (), s')) :
    s'.disk.snapshot.visible = some (frameSnapshot state) := by
  obtain ⟨-, ⟨-, hfile⟩ | ⟨-, hfile⟩, -⟩ := commit_ok h
  · rw [hfile]
    rfl
  · rw [hfile]
    rfl

theorem commit_settled (hreliable : Reliable s) (h : call (commit state records) s = (.ok (), s')) :
    s'.disk.snapshot = .settled (some (frameSnapshot state)) := by
  obtain ⟨-, ⟨hlapsed, -⟩ | ⟨-, hfile⟩, -⟩ := commit_ok h
  · rw [Unsynced, hreliable] at hlapsed
    cases hlapsed
  · exact hfile

theorem writeSnapshot_reliable (state : DurableState) : Preserves Reliable (writeSnapshot state) := by
  refine Preserves.get_bind fun s ↦ (preserves_of_keeps (Keeps.refuseIf _ _)).bind fun _ ↦ ?_
  refine (writeFileAll_reliable _ _).bind fun _ ↦ Preserves.bind (preserves_of_keeps ?_) fun _ ↦ ?_
  · exact Keeps.get_bind fun s ↦ (Keeps.refuseIf _ _).bind fun _ ↦ access_keeps (fun _ _ ↦ rfl) _
  · refine Preserves.bind (preserves_of_keeps ?_) fun _ ↦ unchecked_reliable _ _
    exact access_keeps (fun _ _ ↦ rfl) _

theorem retireJournal_reliable : Preserves Reliable retireJournal := by
  refine Preserves.bind ?_ fun _ ↦ preserves_of_keeps (sync_keeps fun _ _ _ _ ↦ rfl)
  refine Preserves.get_bind fun s ↦ (preserves_of_keeps (Keeps.refuseIf _ _)).bind fun _ ↦ ?_
  exact (writeFileAll_reliable _ _).bind fun _ ↦ preserves_of_keeps (Keeps.modify fun _ ↦ rfl)

theorem commit_reliable (state : DurableState) (records : List JournalRecord) :
    Preserves Reliable (commit state records) := by
  refine Preserves.get_bind fun s ↦ (preserves_of_keeps (Keeps.refuseIf _ _)).bind fun _ ↦ ?_
  refine (preserves_of_keeps (Keeps.lift _)).bind fun _ ↦ ?_
  refine (preserves_of_keeps (journalIntent_keeps (fun _ _ _ _ ↦ rfl) records)).bind fun _ ↦ ?_
  exact (writeSnapshot_reliable state).bind fun _ ↦ retireJournal_reliable

theorem commit_keeps (state : DurableState) (records : List JournalRecord) :
    Keeps (fun s : Store ↦ (s.config, s.opened)) (commit state records) := by
  have hapart : ∀ {x : StoreM Unit}, Keeps apart x → Keeps (fun s : Store ↦ (s.config, s.opened)) x :=
    fun h s ↦ congrArg (fun v ↦ (v.1, v.2.1)) (h s)
  have hbeside : Keeps (fun s : Store ↦ (s.config, s.opened)) (writeSnapshot state) :=
    fun s ↦ congrArg (fun v ↦ (v.1, v.2.1)) (writeSnapshot_keeps state s)
  refine Keeps.get_bind fun s ↦ (Keeps.refuseIf _ _).bind fun _ ↦ (Keeps.lift _).bind fun _ ↦ ?_
  refine (hapart (journalIntent_apart records)).bind fun _ ↦ hbeside.bind fun _ ↦ ?_
  exact hapart retireJournal_keeps

theorem openJournal_keeps : Keeps apart JournalState.openJournal := by
  refine Keeps.get_bind fun s ↦ (Keeps.refuseIf _ _).bind fun _ ↦ Keeps.bind ?_ fun bytes ↦ ?_
  · refine Keeps.get_bind fun s ↦ ?_
    cases s.disk.journal.visible with
    | none => exact (writeFileAll_keeps []).bind fun _ ↦ Keeps.pure _
    | some content => exact Keeps.lift _
  · refine Keeps.bind (Keeps.modify fun _ ↦ rfl) fun _ ↦ Keeps.bind ?_ fun _ ↦ Keeps.modify fun _ ↦ rfl
    unfold JournalState.cutTail
    split
    · exact access_keeps (fun _ _ ↦ rfl) _
    · exact Keeps.pure ()

theorem openJournal_reliable : Preserves Reliable JournalState.openJournal := by
  refine Preserves.get_bind fun s ↦ (preserves_of_keeps (Keeps.refuseIf _ _)).bind fun _ ↦ ?_
  refine Preserves.bind (Preserves.get_bind fun s ↦ ?_) fun bytes ↦ preserves_of_keeps ?_
  · cases s.disk.journal.visible with
    | none => exact (writeFileAll_reliable _ _).bind fun _ ↦ preserves_of_keeps (Keeps.pure _)
    | some content => exact preserves_of_keeps (Keeps.lift _)
  · refine Keeps.bind (Keeps.modify fun _ ↦ rfl) fun _ ↦ Keeps.bind ?_ fun _ ↦ Keeps.modify fun _ ↦ rfl
    unfold JournalState.cutTail
    split
    · exact access_keeps (fun _ _ ↦ rfl) _
    · exact Keeps.pure ()

theorem openStore_reliable : Preserves Reliable openStore := by
  refine Preserves.get_bind fun s ↦ (preserves_of_keeps (Keeps.refuseIf _ _)).bind fun _ ↦ ?_
  refine openJournal_reliable.bind fun _ ↦ Preserves.bind (Preserves.get_bind fun s ↦ ?_) fun _ ↦ ?_
  · split
    · exact unchecked_reliable _ _
    · exact preserves_of_keeps (Keeps.pure ())
  · exact preserves_of_keeps (Keeps.modify fun _ ↦ rfl)

theorem openStore_keeps : Keeps (fun s : Store ↦ (s.config, s.disk.snapshot)) openStore := by
  refine Keeps.get_bind fun s ↦ (Keeps.refuseIf _ _).bind fun _ ↦ Keeps.bind ?_ fun _ ↦ Keeps.bind ?_ fun _ ↦ ?_
  · exact fun s ↦ congrArg (fun v ↦ (v.1, v.2.2.1)) (openJournal_keeps s)
  · refine Keeps.get_bind fun s ↦ ?_
    split
    · exact unchecked_keeps (fun _ _ ↦ rfl) (fun _ _ ↦ rfl) _
    · exact Keeps.pure ()
  · exact Keeps.modify fun _ ↦ rfl

theorem length_le_encodeRecords (records : List JournalRecord) :
    records.length ≤ (encodeRecords records).length := by
  induction records with
  | nil => exact Nat.zero_le _
  | cons r records ih =>
    change records.length + 1 ≤ (encodeJournalRecord r ++ encodeRecords records).length
    rw [List.length_append, length_encodeJournalRecord]
    unfold kJournalHeaderBytes
    omega

theorem scan_whole (h : ∀ r ∈ records, Bounded r) {limit : ℕ} (hlimit : records.length ≤ limit) :
    scanRecords limit (encodeRecords records) = (records, []) := by
  have hfirst : (scanRecords limit (encodeRecords records)).1 = records := by
    rw [scan_encodeRecords h, List.take_of_length_le hlimit]
  have hsplit := (scan_sound limit (encodeRecords records)).1
  rw [hfirst] at hsplit
  exact Prod.ext hfirst (List.self_eq_append_right.mp hsplit)

theorem openReport_whole (h : ∀ r ∈ records, Bounded r) :
    (openReport (encodeRecords records)).truncatedTail = false := by
  unfold openReport
  rw [scan_whole h (length_le_encodeRecords records)]
  rfl

def Whole (bytes : Bytes) : Prop := ∃ records, (∀ r ∈ records, Bounded r) ∧ bytes = encodeRecords records

theorem Whole.nil : Whole [] := ⟨[], by simp, rfl⟩

theorem Whole.append {bytes : Bytes} (h : Whole bytes) {added : List JournalRecord}
    (hadded : ∀ r ∈ added, Bounded r) : Whole (bytes ++ encodeRecords added) := by
  obtain ⟨records, hrecords, rfl⟩ := h
  refine ⟨records ++ added, ?_, (encodeRecords_append records added).symm⟩
  intro r hr
  rcases List.mem_append.mp hr with hr | hr
  · exact hrecords r hr
  · exact hadded r hr

theorem readFileAll_of_le {bytes : Bytes} {maxBytes : UInt64} (h : bytes.length ≤ maxBytes.toNat) :
    readFileAll bytes maxBytes = .ok bytes := if_neg (not_lt.mpr h)

theorem readFileAll_of_gt {bytes : Bytes} {maxBytes : UInt64} (h : bytes.length > maxBytes.toNat) :
    readFileAll bytes maxBytes =
      Status.failure .durableGrowthExceeded "durable file exceeds the configured bound" := if_pos h

theorem readBytes_some {content : Bytes} (h : s.disk.journal.visible = some content) :
    call JournalState.readBytes s = (readFileAll content s.config.maxBytes, s) := by
  unfold JournalState.readBytes
  rw [call_get_bind, h]
  rfl

theorem readBytes_ok {bytes : Bytes} (h : call JournalState.readBytes s = (.ok bytes, s')) :
    s'.disk.journal.visible = some bytes := by
  cases hv : s.disk.journal.visible with
  | some content =>
    rw [readBytes_some hv] at h
    obtain ⟨hread, rfl⟩ := Prod.mk.inj h
    unfold readFileAll at hread
    split at hread
    · cases hread
    · rw [hv, Except.ok.inj hread]
  | none =>
    unfold JournalState.readBytes at h
    rw [call_get_bind, hv] at h
    obtain ⟨_, mid, hwrite, h⟩ := call_bind_eq_ok h
    obtain ⟨rfl, rfl⟩ : [] = bytes ∧ mid = s' := ⟨Except.ok.inj (Prod.mk.inj h).1, (Prod.mk.inj h).2⟩
    exact writeFileAll_ok Disk.onJournal Disk.journal (fun _ _ ↦ rfl) hwrite

theorem openJournal_ok (h : call JournalState.openJournal s = (.ok (), s')) :
    Whole s'.disk.journal.contents := by
  unfold JournalState.openJournal at h
  rw [call_get_bind, call_refuseIf_bind] at h
  split at h
  · cases h
  obtain ⟨bytes, mid, hread, h⟩ := call_bind_eq_ok h
  have hvisible := readBytes_ok hread
  rw [call_modify_bind] at h
  obtain ⟨_, cut, hcut, h⟩ := call_bind_eq_ok h
  obtain rfl := (Prod.mk.inj h).2
  refine ⟨(scanRecords bytes.length bytes).1, (scan_sound bytes.length bytes).2, ?_⟩
  rw [← take_validBytes]
  change cut.disk.journal.visible.getD [] = _
  unfold JournalState.cutTail at hcut
  split at hcut
  · obtain ⟨-, rfl⟩ := access_eq_ok hcut
    change (mid.disk.journal.visible.map (List.take (openReport bytes).validBytes)).getD [] = _
    rw [hvisible]
    rfl
  · next hwhole =>
    obtain rfl := (Prod.mk.inj hcut).2
    have hrest : (openReport bytes).validBytes = bytes.length := by
      unfold openReport at hwhole ⊢
      simp at hwhole
      simp [hwhole]
    rw [hrest, List.take_length]
    exact congrArg (Option.getD · []) hvisible

theorem discardTemp_keeps : Keeps (fun s : Store ↦ (s.config, s.disk.snapshot, s.disk.journal)) discardTemp := by
  refine Keeps.get_bind fun s ↦ ?_
  split
  · exact unchecked_keeps (fun _ _ ↦ rfl) (fun _ _ ↦ rfl) _
  · exact Keeps.pure ()

theorem call_discardTemp (s : Store) : call discardTemp s = (.ok (), (call discardTemp s).2) := by
  unfold discardTemp
  rw [call_get_bind]
  split
  · rw [call_unchecked]
  · rfl

theorem openStore_ok (h : call openStore s = (.ok (), s')) :
    s'.opened = true ∧ Whole s'.disk.journal.contents := by
  unfold openStore at h
  rw [call_get_bind, call_refuseIf_bind] at h
  split at h
  · cases h
  obtain ⟨_, mid, hjournal, h⟩ := call_bind_eq_ok h
  obtain ⟨_, cleaned, hdiscard, h⟩ := call_bind_eq_ok h
  obtain rfl := (Prod.mk.inj h).2
  have hkept := discardTemp_keeps mid
  rw [hdiscard] at hkept
  have hfile : cleaned.disk.journal = mid.disk.journal := congrArg (fun v ↦ v.2.2) hkept
  have hwhole := openJournal_ok hjournal
  rw [← hfile] at hwhole
  exact ⟨rfl, hwhole⟩

def Fresh (s : Store) : Prop := s.opened = false ∧ s.journal.isOpen = false

theorem call_openStore_of_journal (hfresh : Fresh s) {mid : Store}
    (h : call JournalState.openJournal s = (.ok (), mid)) :
    ∃ s', call openStore s = (.ok (), s') ∧ s'.opened = true ∧ s'.disk.journal = mid.disk.journal := by
  refine ⟨{ (call discardTemp mid).2 with opened := true }, ?_, rfl, ?_⟩
  · unfold openStore
    rw [call_get_bind, call_refuseIf_bind, if_neg (by simp [hfresh.1]), call_bind_ok h]
    rw [call_bind_ok (call_discardTemp mid)]
    rfl
  · exact congrArg (fun v ↦ v.2.2) (discardTemp_keeps mid)

theorem call_openJournal (hclosed : s.journal.isOpen = false) {bytes : Bytes} {mid : Store}
    (hread : call JournalState.readBytes s = (.ok bytes, mid)) : call JournalState.openJournal s =
      call (JournalState.cutTail (openReport bytes) >>= fun _ ↦ modify (fun s ↦ { s with
        journal :=
          { report := openReport bytes
            bytes := (openReport bytes).validBytes
            lastSequence := (openReport bytes).lastSequence
            isOpen := true } }))
        { mid with journal := { mid.journal with report := openReport bytes } } := by
  unfold JournalState.openJournal
  rw [call_get_bind, call_refuseIf_bind, if_neg (by simp [hclosed]), call_bind_ok hread, call_modify_bind]

/-- A journal of whole records opens even on the last bit of power: there is nothing to write. -/
theorem openStore_whole (hfresh : Fresh s) (hbound : ∀ r ∈ records, Bounded r)
    (hvisible : s.disk.journal.visible = some (encodeRecords records))
    (hlen : (encodeRecords records).length ≤ s.config.maxBytes.toNat) :
    ∃ s', call openStore s = (.ok (), s') ∧ s'.opened = true ∧ s'.disk.journal = s.disk.journal := by
  have hread := readBytes_some hvisible
  rw [readFileAll_of_le hlen] at hread
  have hopen := call_openJournal hfresh.2 hread
  unfold JournalState.cutTail at hopen
  rw [if_neg (by simp [openReport_whole hbound]), pure_bind, call_modify] at hopen
  obtain ⟨s', hs', hopened, hfile⟩ := call_openStore_of_journal hfresh hopen
  exact ⟨s', hs', hopened, hfile⟩

theorem openStore_long (hfresh : Fresh s)
    (hlong : s.disk.journal.contents.length > s.config.maxBytes.toNat) :
    ∃ e, call openStore s = (.error e, s) := by
  have hread : call JournalState.readBytes s =
      (Status.failure .durableGrowthExceeded "durable file exceeds the configured bound", s) := by
    unfold File.contents at hlong
    cases hv : s.disk.journal.visible with
    | none => simp [hv] at hlong
    | some content =>
      rw [hv, Option.getD_some] at hlong
      rw [readBytes_some hv, readFileAll_of_gt hlong]
  refine ⟨⟨.durableGrowthExceeded, "durable file exceeds the configured bound"⟩, ?_⟩
  unfold openStore JournalState.openJournal
  rw [call_get_bind, call_refuseIf_bind, if_neg (by simp [hfresh.1])]
  refine call_bind_error ?_
  rw [call_get_bind, call_refuseIf_bind, if_neg (by simp [hfresh.2])]
  exact call_bind_error hread

theorem openStore_short (hfresh : Fresh s) (hpower : s.power = none)
    (hshort : ¬ s.disk.journal.contents.length > s.config.maxBytes.toNat) :
    ∃ s', call openStore s = (.ok (), s') := by
  obtain ⟨bytes, mid, hread, hmid⟩ : ∃ bytes mid, call JournalState.readBytes s = (.ok bytes, mid) ∧
      mid.power = none := by
    unfold File.contents at hshort
    cases hv : s.disk.journal.visible with
    | none =>
      obtain ⟨mid, hwrite, hmid⟩ := call_writeFileAll hpower Disk.onJournal []
      refine ⟨[], mid, ?_, hmid⟩
      unfold JournalState.readBytes
      rw [call_get_bind, hv]
      exact call_bind_ok hwrite
    | some content =>
      rw [hv, Option.getD_some] at hshort
      refine ⟨content, s, ?_, hpower⟩
      rw [readBytes_some hv, readFileAll_of_le (not_lt.mp hshort)]
  have hopen := call_openJournal hfresh.2 hread
  unfold JournalState.cutTail at hopen
  split at hopen
  · rw [call_bind_ok (call_access_live (by simp [hmid]) _ _)] at hopen
    obtain ⟨s', hs', -⟩ := call_openStore_of_journal hfresh hopen
    exact ⟨s', hs'⟩
  · obtain ⟨s', hs', -⟩ := call_openStore_of_journal hfresh hopen
    exact ⟨s', hs'⟩

theorem openStore_error {e : Failure} (h : call openStore s = (.error e, s')) :
    s' = s ∨ s'.opened = false := by
  unfold openStore at h
  rw [call_get_bind, call_refuseIf_bind] at h
  split at h
  · exact Or.inl (Prod.mk.inj h).2.symm
  · next hclosed =>
    cases hj : call JournalState.openJournal s with
    | mk out mid =>
      cases out with
      | ok _ =>
        rw [call_bind_ok hj, call_bind_ok (call_discardTemp mid)] at h
        cases h
      | error e =>
        rw [call_bind_error hj] at h
        have hkept := openJournal_keeps s
        rw [hj, (Prod.mk.inj h).2] at hkept
        have hopened : s'.opened = s.opened := congrArg (fun v ↦ v.2.1) hkept
        exact Or.inr (hopened.trans (Bool.not_eq_true _ ▸ hclosed))

theorem recover_keeps (s : Store) : (call recover s).2 = s := by
  unfold recover
  rw [call_get_bind, call_refuseIf_bind]
  split <;> rfl

theorem call_recover (h : s.opened = true) : call recover s = (.ok (recoverFrom s), s) := by
  unfold recover
  rw [call_get_bind, call_refuseIf_bind, if_neg (by simp [h])]
  rfl

theorem commit_whole (state : DurableState) (records : List JournalRecord) :
    Preserves (fun s : Store ↦ Whole s.disk.journal.contents) (commit state records) := by
  have hsync : Preserves (fun s : Store ↦ Whole s.disk.journal.contents) JournalState.sync := by
    intro s hs
    unfold File.contents
    rw [sync_visible]
    exact hs
  have hintent : Preserves (fun s : Store ↦ Whole s.disk.journal.contents) (journalIntent records) := by
    refine Preserves.bind (fun s hs ↦ ?_) fun _ ↦ hsync
    obtain ⟨added, hadded, hcontents⟩ := appendAll_contents records s
    rw [hcontents]
    exact hs.append hadded
  have hwrite : Preserves (fun s : Store ↦ Whole s.disk.journal.contents) (writeSnapshot state) := by
    intro s hs
    have hfile : (call (writeSnapshot state) s).2.disk.journal = s.disk.journal :=
      congrArg (fun v ↦ v.2.2.2) (writeSnapshot_keeps state s)
    rwa [hfile]
  refine Preserves.get_bind fun s ↦ (Keeps.refuseIf _ _).preserves.bind fun _ ↦ ?_
  refine (Keeps.lift _).preserves.bind fun _ ↦ hintent.bind fun _ ↦ hwrite.bind fun _ ↦ ?_
  intro s hs
  rcases retireJournal_contents s with hsame | hempty
  · rwa [hsame]
  · rw [hempty]
    exact Whole.nil

end HotspotGovernor.Durability
