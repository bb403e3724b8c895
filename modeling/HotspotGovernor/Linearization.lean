import HotspotGovernor.Lib.Register
import HotspotGovernor.Lib.Trace
import HotspotGovernor.Recoverable

namespace HotspotGovernor.Linearization

open Foundation ByteIo Durable Journal Storage Durability Recoverable
open Lib.Volume Lib.Procedures Lib.Trace Lib.Register

/-- The calls on the store of a directory. A new object may take over while the machine is up; after a
loss of power the next one finds one of the contents that each file may have been left with. -/
inductive Call
  | openStore
  | closeStore
  | recover
  | commit (state : DurableState) (records : List JournalRecord)
  | attach (config : StoreConfig)
  | restart (config : StoreConfig) (power : Option ℕ) (journal snapshot temp : Option Bytes)

inductive Answer
  | status (status : Status)
  | recovered (result : Result RecoveredState)
  | silence

def restart (config : StoreConfig) (power : Option ℕ) (journal snapshot temp : Option Bytes) (s : Store) :
    Answer × Store :=
  if s.disk.journal.remnants.contains journal && s.disk.snapshot.remnants.contains snapshot &&
      s.disk.temp.remnants.contains temp then
    (.silence, { config, power, disk := ⟨.settled journal, .settled snapshot, .settled temp⟩ })
  else (.silence, s)

def serve (c : Call) (s : Store) : Answer × Store :=
  match c with
  | .openStore => (call openStore s).map .status id
  | .closeStore => (call closeStore s).map .status id
  | .recover => (call recover s).map .recovered id
  | .commit state records => (call (commit state records) s).map .status id
  | .attach config => (.silence, durableStore.attach config s)
  | .restart config power journal snapshot temp => restart config power journal snapshot temp s

def Call.powered : Call → Bool
  | .restart .. => false
  | _ => true

/-- Nothing but a restart happens once the power is gone. -/
def step (c : Call) (s : Store) : Answer × Store :=
  if c.powered ∧ s.power = some 0 then (.silence, s) else serve c s

abbrev History := List (Event Call Answer Store)

abbrev DirectoryRun (config : StoreConfig) (power : Option ℕ) : History → Store → Prop :=
  Run step { config, power }

/-- A state up to the count of journalled records, which a recovery raises to those it replays. -/
def content (state : DurableState) : DurableState := { state with journalSequence := 0 }

def missing (r : RecoveredState) : Bool :=
  match r.outcome with
  | .error e => e.code = .missingEvidence
  | .ok () => false

/-- A commit is a write, a recovery is a read. One that rejects the snapshot reads nothing. -/
def access (e : Event Call Answer Store) : Access (Option DurableState) :=
  match e.op, e.out with
  | .commit state _, .status (.ok ()) => .write (some (content state)) true
  | .commit state _, .status (.error _) => .write (some (content state)) false
  | .recover, .recovered (.ok r) =>
    if r.recovered then .read (some (content r.state)) else if missing r then .read none else .silent
  | _, _ => .silent

variable {s s' : Store} {state : DurableState} {records : List JournalRecord}

/-- How a commit ends: its answer, the power that is left, and the snapshot file. Only when the power
ran out right after the rename may the file still be either of two. -/
inductive Commits (state : DurableState) (old : File UInt8) : Status → Option ℕ → File UInt8 → Prop
  | refused (e : Failure) (power : Option ℕ) : Commits state old (.error e) power old
  | dying (e : Failure) (hv : Valid state) :
      Commits state old (.error e) (some 0) (old.replaceBy (.settled (some (frameSnapshot state))))
  | written (out : Status) (power : Option ℕ) (hv : Valid state) :
      Commits state old out power (.settled (some (frameSnapshot state)))

theorem retire_commits {written : Store} (hv : Valid state) {old : File UInt8} {lapsed : Prop}
    (hsynced : ¬ lapsed)
    (h : Ending (frameSnapshot state) old lapsed (.ok ()) written.power written.disk.snapshot) :
    Commits state old (call retireJournal written).1 (call retireJournal written).2.power
      (call retireJournal written).2.disk.snapshot := by
  rcases h.of_ok with ⟨hlapsed | hdead, hfile⟩ | ⟨-, hfile⟩
  · exact absurd hlapsed hsynced
  · obtain ⟨e, he⟩ := retireJournal_dead hdead
    rw [he, hdead, hfile]
    exact .dying e hv
  · have hkept : (call retireJournal written).2.disk.snapshot = written.disk.snapshot :=
      congrArg (fun v ↦ v.2.2.1) (retireJournal_keeps written)
    rw [hkept, hfile]
    exact .written _ _ hv

theorem commit_commits (hreliable : Reliable s) (state : DurableState) (records : List JournalRecord) :
    Commits state s.disk.snapshot (call (commit state records) s).1 (call (commit state records) s).2.power
      (call (commit state records) s).2.disk.snapshot := by
  rw [commit_eq]
  split
  · exact .refused _ _
  cases hv : validateState state with
  | error e => exact .refused e _
  | ok _ =>
    dsimp only
    have hkeeps : Keeps (fun s : Store ↦ (s.lapses, s.disk.snapshot)) (journalIntent records) :=
      journalIntent_keeps (fun _ _ _ _ ↦ rfl) records
    have hkept := hkeeps s
    cases hi : call (journalIntent records) s with
    | mk out mid =>
      rw [hi] at hkept
      obtain ⟨hlapses, hsnapshot⟩ := Prod.mk.inj hkept
      dsimp only at hlapses hsnapshot
      rw [← hsnapshot]
      cases out with
      | error e =>
        rw [call_bind_error hi]
        exact .refused e _
      | ok _ =>
        rw [call_bind_ok hi]
        have hending := writeSnapshot_ending state mid
        cases hw : call (writeSnapshot state) mid with
        | mk out written =>
          rw [hw] at hending
          cases out with
          | error e =>
            rw [call_bind_error hw, hending.of_error]
            exact .refused e _
          | ok _ =>
            rw [call_bind_ok hw]
            refine retire_commits (valid_of_validateState hv) ?_ hending
            intro hunsynced
            rw [Unsynced, hlapses, hreliable] at hunsynced
            cases hunsynced

/-- A snapshot file with this content holds this value: no state, or one that was committed. -/
inductive Holds (past : History) : Option Bytes → Option DurableState → Prop
  | empty : Holds past none none
  | committed (state : DurableState) (records : List JournalRecord) (hv : Valid state)
      (h : ∃ e ∈ past, e.op = .commit state records) :
      Holds past (some (frameSnapshot state)) (some (content state))

def Candidate (past : History) (s : Store) (value : Option DurableState) : Prop :=
  ∃ bytes ∈ s.disk.snapshot.remnants, Holds past bytes value

/-- What the snapshot may turn out to hold is explained by the history, and while the power lasts there
is one such content. -/
structure Inv (past : History) (s : Store) : Prop where
  holds : ∀ bytes ∈ s.disk.snapshot.remnants, ∃ value, Holds past bytes value
  explained : Explained none (past.map access) (Candidate past s)
  settled : s.power ≠ some 0 → s.disk.snapshot.remnants = [s.disk.snapshot.visible]

variable {past : History} {e : Event Call Answer Store} {bytes : Option Bytes} {value : Option DurableState}

theorem Holds.mono {more : History} (h : Holds past bytes value) : Holds (past ++ more) bytes value := by
  cases h with
  | empty => exact .empty
  | committed state records hv h =>
    obtain ⟨e, he, hop⟩ := h
    exact .committed state records hv ⟨e, List.mem_append_left _ he, hop⟩

theorem frameSnapshot_injective {other : DurableState} (h : Valid state) (h' : Valid other)
    (he : frameSnapshot state = frameSnapshot other) : state = other := by
  have hbody : ∀ state, (frameSnapshot state).drop kSnapshotHeaderBytes = encodeDurableState state := by
    intro state
    exact List.drop_left' (by simp [kSnapshotHeaderBytes])
  have hencode : encodeDurableState state = encodeDurableState other := by
    rw [← hbody, ← hbody, he]
  have hdecode := decode_encode h
  rw [hencode, decode_encode h'] at hdecode
  exact (Except.ok.inj hdecode).symm

theorem Holds.unique {other : Option DurableState} (h : Holds past bytes value) (h' : Holds past bytes other) :
    value = other := by
  cases h with
  | empty =>
    cases h'
    rfl
  | committed state records hv h =>
    generalize hframe : some (frameSnapshot state) = bytes at h'
    cases h' with
    | empty => cases hframe
    | committed other records' hv' h' => rw [frameSnapshot_injective hv hv' (Option.some.inj hframe)]

/-- What a recovery tells of a snapshot that holds this value. -/
inductive Reads (past : History) (s : Store) : Option DurableState → RecoveredState → Prop
  | empty (r : RecoveredState) (hr : r.recovered = false) (hmissing : missing r = true) : Reads past s none r
  | found (state : DurableState) (r : RecoveredState) (hr : r.recovered = true)
      (hcontent : content r.state = content state) : Reads past s (some (content state)) r
  | long (state : DurableState) (records : List JournalRecord) (r : RecoveredState) (hr : r.recovered = false)
      (hmissing : missing r = false) (h : ∃ e ∈ past, e.op = .commit state records)
      (hlong : (frameSnapshot state).length > s.config.maxBytes.toNat) : Reads past s (some (content state)) r

theorem reads_recoverFrom (h : Holds past s.disk.snapshot.visible value) :
    Reads past s value (recoverFrom s) := by
  generalize hvisible : s.disk.snapshot.visible = bytes at h
  cases h with
  | empty =>
    refine .empty _ ?_ ?_
    · rw [recoverFrom, hvisible]
      rfl
    · rw [missing, recoverFrom, hvisible]
      rfl
  | committed state records hv h =>
    by_cases hlong : (frameSnapshot state).length > s.config.maxBytes.toNat
    · have hread := congrArg SnapshotRead.state (readSnapshot_long hlong)
      refine .long state records _ (recoverFrom_rejected hvisible hread).1 ?_ h hlong
      rw [missing, recoverFrom, hvisible]
      dsimp only
      rw [hread]
      rfl
    · have hread := congrArg SnapshotRead.state (readSnapshot_frame hv (not_lt.mp hlong))
      refine .found state _ ?_ ?_
      · rw [recoverFrom, hvisible]
        dsimp only
        rw [hread]
        cases replay s.disk.journal.visible s.config <;> rfl
      · rw [recoverFrom, hvisible]
        dsimp only
        rw [hread]
        cases replay s.disk.journal.visible s.config <;> rfl

theorem map_access_snoc (past : History) (e : Event Call Answer Store) :
    (past ++ [e]).map access = past.map access ++ [access e] := by
  rw [List.map_append, List.map_singleton]

theorem Inv.visible (h : Inv past s) : ∃ value, Holds past s.disk.snapshot.visible value :=
  h.holds _ s.disk.snapshot.kept

theorem Inv.earlier (h : Inv past s)
    (hsub : ∀ bytes ∈ s'.disk.snapshot.remnants, bytes ∈ s.disk.snapshot.remnants)
    (hvalue : Candidate (past ++ [e]) s' value) : Candidate past s value := by
  obtain ⟨bytes, hbytes, hholds⟩ := hvalue
  obtain ⟨other, hother⟩ := h.holds bytes (hsub bytes hbytes)
  rw [hholds.unique hother.mono]
  exact ⟨bytes, hsub bytes hbytes, hother⟩

theorem Inv.later (h : Inv past s)
    (hsub : ∀ bytes ∈ s'.disk.snapshot.remnants, bytes ∈ s.disk.snapshot.remnants) :
    ∃ value, Candidate (past ++ [e]) s' value := by
  obtain ⟨value, hvalue⟩ := h.holds _ (hsub _ s'.disk.snapshot.kept)
  exact ⟨value, _, s'.disk.snapshot.kept, hvalue.mono⟩

theorem Inv.silent (h : Inv past s) (haccess : access e = .silent)
    (hsub : ∀ bytes ∈ s'.disk.snapshot.remnants, bytes ∈ s.disk.snapshot.remnants)
    (hsettled : s'.power ≠ some 0 → s'.disk.snapshot.remnants = [s'.disk.snapshot.visible]) :
    Inv (past ++ [e]) s' := by
  refine ⟨?_, ?_, hsettled⟩
  · intro bytes hbytes
    obtain ⟨value, hvalue⟩ := h.holds bytes (hsub bytes hbytes)
    exact ⟨value, hvalue.mono⟩
  · rw [map_access_snoc, haccess]
    exact h.explained.silent (h.later hsub) fun value hvalue ↦ h.earlier hsub hvalue

theorem Inv.same (h : Inv past s) (haccess : access e = .silent) (hlive : s.power ≠ some 0)
    (hsnapshot : s'.disk.snapshot = s.disk.snapshot) : Inv (past ++ [e]) s' := by
  refine h.silent haccess ?_ ?_
  · rw [hsnapshot]
    exact fun _ hbytes ↦ hbytes
  · rw [hsnapshot]
    exact fun _ ↦ h.settled hlive

theorem Inv.read (h : Inv past s) (hlive : s.power ≠ some 0) {r : RecoveredState}
    (hreads : ∀ value, Holds past s.disk.snapshot.visible value → Reads past s value r)
    (hop : e.op = .recover) (hout : e.out = .recovered (.ok r)) : Inv (past ++ [e]) s := by
  obtain ⟨value, hvalue⟩ := h.visible
  have hone : ∀ other, Candidate past s other → other = value := by
    intro other hother
    obtain ⟨bytes, hbytes, hholds⟩ := hother
    rw [h.settled hlive, List.mem_singleton] at hbytes
    rw [hbytes] at hholds
    exact hholds.unique hvalue
  have hsub : ∀ bytes ∈ s.disk.snapshot.remnants, bytes ∈ s.disk.snapshot.remnants := fun _ hbytes ↦ hbytes
  have hexplained : Explained none (past.map access ++ [.read value]) (Candidate (past ++ [e]) s) := by
    refine h.explained.read (h.later hsub) fun other hother ↦ ?_
    have hold := h.earlier hsub hother
    exact ⟨hold, hone other hold⟩
  cases hreads value hvalue with
  | long state records r hr hmissing hcommit hlong =>
    refine h.silent ?_ hsub h.settled
    rw [access, hop, hout]
    dsimp only
    rw [if_neg (by simp [hr]), if_neg (by simp [hmissing])]
  | empty r hr hmissing =>
    refine ⟨fun bytes hbytes ↦ ?_, ?_, h.settled⟩
    · obtain ⟨other, hother⟩ := h.holds bytes hbytes
      exact ⟨other, hother.mono⟩
    · rw [map_access_snoc, access, hop, hout]
      dsimp only
      rw [if_neg (by simp [hr]), if_pos hmissing]
      exact hexplained
  | found state r hr hcontent =>
    refine ⟨fun bytes hbytes ↦ ?_, ?_, h.settled⟩
    · obtain ⟨other, hother⟩ := h.holds bytes hbytes
      exact ⟨other, hother.mono⟩
    · rw [map_access_snoc, access, hop, hout]
      dsimp only
      rw [if_pos hr, hcontent]
      exact hexplained

theorem Inv.wrote (h : Inv past s) {out : Status} (hv : Valid state) (hop : e.op = .commit state records)
    (hout : e.out = .status out)
    (hsub : ∀ bytes ∈ s'.disk.snapshot.remnants,
      bytes = some (frameSnapshot state) ∨ (out ≠ .ok () ∧ bytes ∈ s.disk.snapshot.remnants))
    (hsettled : s'.power ≠ some 0 → s'.disk.snapshot.remnants = [s'.disk.snapshot.visible]) :
    Inv (past ++ [e]) s' := by
  have hnew : Holds (past ++ [e]) (some (frameSnapshot state)) (some (content state)) :=
    .committed state records hv ⟨e, by simp, hop⟩
  have hholds : ∀ bytes ∈ s'.disk.snapshot.remnants, ∃ value, Holds (past ++ [e]) bytes value := by
    intro bytes hbytes
    rcases hsub bytes hbytes with rfl | ⟨-, hold⟩
    · exact ⟨_, hnew⟩
    · obtain ⟨value, hvalue⟩ := h.holds bytes hold
      exact ⟨value, hvalue.mono⟩
  obtain ⟨value, hvalue⟩ := hholds _ s'.disk.snapshot.kept
  have hsome : ∃ value, Candidate (past ++ [e]) s' value := ⟨value, _, s'.disk.snapshot.kept, hvalue⟩
  refine ⟨hholds, ?_, hsettled⟩
  rw [map_access_snoc]
  cases out with
  | ok _ =>
    have haccess : access e = .write (some (content state)) true := by
      rw [access, hop, hout]
    rw [haccess]
    refine h.explained.acknowledge true hsome fun value hvalue ↦ ?_
    obtain ⟨bytes, hbytes, hother⟩ := hvalue
    rcases hsub bytes hbytes with rfl | ⟨hfailed, -⟩
    · exact hother.unique hnew
    · exact absurd rfl hfailed
  | error failure =>
    have haccess : access e = .write (some (content state)) false := by
      rw [access, hop, hout]
    rw [haccess]
    refine h.explained.attempt hsome fun value hvalue ↦ ?_
    obtain ⟨bytes, hbytes, hother⟩ := hvalue
    rcases hsub bytes hbytes with rfl | ⟨-, hold⟩
    · exact Or.inr (hother.unique hnew)
    · obtain ⟨older, holder⟩ := h.holds bytes hold
      rw [hother.unique holder.mono]
      exact Or.inl ⟨bytes, hold, holder⟩

theorem Inv.commit (h : Inv past s) (hlive : s.power ≠ some 0) {out : Status}
    (hcommit : Commits state s.disk.snapshot out s'.power s'.disk.snapshot)
    (hop : e.op = .commit state records) (hout : e.out = .status out) : Inv (past ++ [e]) s' := by
  have hone := h.settled hlive
  generalize hfile : s'.disk.snapshot = file at hcommit
  generalize hpower : s'.power = power at hcommit
  cases hcommit with
  | refused failure power =>
    have haccess : access e = .write (some (content state)) false := by
      rw [access, hop, hout]
    have hsub : ∀ bytes ∈ s'.disk.snapshot.remnants, bytes ∈ s.disk.snapshot.remnants := by
      rw [hfile]
      exact fun _ hbytes ↦ hbytes
    refine ⟨?_, ?_, ?_⟩
    · intro bytes hbytes
      obtain ⟨value, hvalue⟩ := h.holds bytes (hsub bytes hbytes)
      exact ⟨value, hvalue.mono⟩
    · rw [map_access_snoc, haccess]
      exact h.explained.attempt (h.later hsub) fun value hvalue ↦ Or.inl (h.earlier hsub hvalue)
    · rw [hfile]
      exact fun _ ↦ hone
  | dying failure hv =>
    refine h.wrote hv hop hout ?_ fun hp ↦ absurd hpower hp
    intro bytes hbytes
    rw [hfile, remnants_replaceBy, List.mem_append] at hbytes
    rcases hbytes with hold | hnew
    · exact Or.inr ⟨nofun, hold⟩
    · exact Or.inl (List.mem_singleton.mp hnew)
  | written out power hv =>
    refine h.wrote hv hop hout ?_ ?_
    · intro bytes hbytes
      rw [hfile] at hbytes
      exact Or.inl (List.mem_singleton.mp hbytes)
    · rw [hfile]
      exact fun _ ↦ rfl

theorem closeStore_keeps : Keeps (fun s : Store ↦ (s.disk, s.lapses)) closeStore := by
  refine Keeps.get_bind fun s ↦ ?_
  split
  · refine Keeps.bind (Keeps.get_bind fun s ↦ ?_) fun _ ↦ Keeps.modify fun _ ↦ rfl
    split
    · exact Keeps.modify fun _ ↦ rfl
    · exact Keeps.pure ()
  · exact Keeps.pure ()

theorem serve_recover (s : Store) : serve .recover s = (.recovered (call recover s).1, s) :=
  Prod.ext rfl (recover_keeps s)

theorem restart_cases (config : StoreConfig) (power : Option ℕ) (journal snapshot temp : Option Bytes) (s : Store) :
    (restart config power journal snapshot temp s).2 = s ∨ snapshot ∈ s.disk.snapshot.remnants ∧
      (restart config power journal snapshot temp s).2.disk.snapshot = .settled snapshot := by
  unfold restart
  split
  · next hleft =>
    rw [Bool.and_eq_true, Bool.and_eq_true] at hleft
    exact Or.inr ⟨List.contains_iff_mem.mp hleft.1.2, rfl⟩
  · exact Or.inl rfl

theorem reliable_step (h : Reliable s) (c : Call) : Reliable (step c s).2 := by
  unfold step
  split
  · exact h
  cases c with
  | openStore => exact openStore_reliable s h
  | closeStore =>
    have hkept := congrArg Prod.snd (closeStore_keeps s)
    exact hkept.trans h
  | recover =>
    rw [serve_recover]
    exact h
  | commit state records => exact commit_reliable state records s h
  | attach config => exact h
  | restart config power journal snapshot temp =>
    change Reliable (restart config power journal snapshot temp s).2
    unfold restart
    split
    · exact rfl
    · exact h

theorem restart_silent (config : StoreConfig) (power : Option ℕ) (journal snapshot temp : Option Bytes)
    (s : Store) : (restart config power journal snapshot temp s).1 = .silence := by
  unfold restart
  split <;> rfl

theorem Inv.restarted (h : Inv past s) (haccess : access e = .silent) {snapshot : Option Bytes}
    (hleft : snapshot ∈ s.disk.snapshot.remnants) (hfile : s'.disk.snapshot = .settled snapshot) :
    Inv (past ++ [e]) s' := by
  refine h.silent haccess ?_ ?_
  · intro bytes hbytes
    rw [hfile] at hbytes
    rwa [List.mem_singleton.mp hbytes]
  · rw [hfile]
    exact fun _ ↦ rfl

theorem Inv.serve (h : Inv past s) (hreliable : Reliable s) (c : Call)
    (hlive : c.powered = true → s.power ≠ some 0) :
    Inv (past ++ [⟨s, c, (serve c s).1, (serve c s).2⟩]) (serve c s).2 := by
  cases c with
  | openStore => exact h.same rfl (hlive rfl) (congrArg Prod.snd (openStore_keeps s))
  | closeStore => exact h.same rfl (hlive rfl) (congrArg (fun v ↦ v.1.snapshot) (closeStore_keeps s))
  | attach config => exact h.same rfl (hlive rfl) rfl
  | commit state records => exact h.commit (hlive rfl) (commit_commits hreliable state records) rfl rfl
  | recover =>
    rw [serve_recover]
    by_cases hopened : s.opened = true
    · rw [call_recover hopened]
      exact h.read (hlive rfl) (fun value hvalue ↦ reads_recoverFrom hvalue) rfl rfl
    · have hrefused : (call Storage.recover s).1 = Status.failure .notStarted "store is not open" := by
        unfold Storage.recover
        rw [call_get_bind, call_refuseIf_bind, if_pos (by simp [hopened])]
        rfl
      rw [hrefused]
      exact h.same rfl (hlive rfl) rfl
  | restart config power journal snapshot temp =>
    rcases restart_cases config power journal snapshot temp s with hsame | ⟨hleft, hfile⟩
    · change Inv _ (restart config power journal snapshot temp s).2
      rw [hsame]
      exact h.silent rfl (fun _ hbytes ↦ hbytes) h.settled
    · exact h.restarted rfl hleft hfile

theorem Inv.step (h : Inv past s) (hreliable : Reliable s) (c : Call) :
    Inv (past ++ [event step c s]) (step c s).2 := by
  unfold event Linearization.step
  split
  · next hdead =>
    refine h.silent ?_ (fun _ hbytes ↦ hbytes) fun hp ↦ absurd hdead.2 hp
    cases c <;> rfl
  · next hlive => exact h.serve hreliable c fun hpowered hdead ↦ hlive ⟨hpowered, hdead⟩

variable {config : StoreConfig} {power : Option ℕ}

theorem inv_empty (config : StoreConfig) (power : Option ℕ) : Inv [] { config, power } := by
  have hempty : ∀ bytes ∈ [(none : Option Bytes)], Holds [] bytes none := by
    intro bytes hbytes
    rw [List.mem_singleton.mp hbytes]
    exact .empty
  refine ⟨fun bytes hbytes ↦ ⟨none, hempty bytes hbytes⟩,
    ⟨⟨none, none, by simp, .empty⟩, ?_⟩, fun _ ↦ rfl⟩
  intro value hvalue
  obtain ⟨bytes, hbytes, hholds⟩ := hvalue
  rw [hholds.unique (hempty bytes hbytes)]
  exact .new

theorem reliable_of_run (h : DirectoryRun config power past s) : Reliable s := by
  induction h with
  | start => rfl
  | snoc _ c ih => exact reliable_step ih c

theorem inv_of_run (h : DirectoryRun config power past s) : Inv past s := by
  induction h with
  | start => exact inv_empty config power
  | snoc h c ih => exact ih.step (reliable_of_run h) c

theorem recovery_of_answer {c : Call} {r : RecoveredState} (h : (step c s).1 = .recovered (.ok r)) :
    r = recoverFrom s := by
  unfold step at h
  split at h
  · cases h
  · cases c with
    | recover =>
      rw [serve_recover] at h
      have hcall := Answer.recovered.inj h
      unfold Storage.recover at hcall
      rw [call_get_bind, call_refuseIf_bind] at hcall
      split at hcall
      · cases hcall
      · exact (Except.ok.inj hcall).symm
    | restart config power journal snapshot temp =>
      rw [serve, restart_silent] at h
      cases h
    | _ => cases h

/-- The store is a register that is atomic and survives crashes. Through any calls and losses of power,
what was recovered is explained by commits that took effect at once or never, all of the acknowledged
ones among them; and a snapshot is rejected only because a state was committed that is too long. -/
theorem directory_atomic (h : DirectoryRun config power past s) :
    (∃ value, Atomic none (past.map access) value) ∧
    ∀ pre e post, past = pre ++ e :: post → ∀ r, e.out = .recovered (.ok r) → r.recovered = false →
      missing r = false → ∃ c ∈ pre, ∃ state records, c.op = .commit state records ∧
        (frameSnapshot state).length > e.before.config.maxBytes.toNat := by
  constructor
  · have hinv := inv_of_run h
    obtain ⟨value, hvalue⟩ := hinv.explained.inhabited
    exact ⟨value, hinv.explained.atomic value hvalue⟩
  · intro pre e post hpast r hout hrecovered hmissing
    obtain ⟨hrun, hevent⟩ := h.splitAt hpast
    rw [hevent] at hout
    have hr := recovery_of_answer hout
    obtain ⟨value, hvalue⟩ := (inv_of_run hrun).visible
    have hreads := reads_recoverFrom hvalue
    rw [← hr] at hreads
    cases hreads with
    | empty r hr hm => exact absurd hm (by simp [hmissing])
    | found state r hr hcontent => exact absurd hr (by simp [hrecovered])
    | long state records r hr hm hcommit hlong =>
      obtain ⟨c, hc, hop⟩ := hcommit
      exact ⟨c, hc, state, records, hop, hlong⟩

/-- One commit is acknowledged; the power runs out while the next one writes its temporary snapshot. The
directory keeps both of its records and the first of the two states. -/
def interrupted : List Call :=
  [.openStore, .commit { epoch := ⟨1⟩, evaluations := 4 } [{ type := .evaluationCheckpoint, at_ := 5 }],
    .commit { epoch := ⟨2⟩ } [{ type := .epochAdvance, payload := putU64 2 }],
    .restart {} none (some (encodeRecords [{ type := .epochAdvance, payload := putU64 2, sequence := 2 }]))
      (some (frameSnapshot { epoch := ⟨1⟩, evaluations := 4 })) none,
    .openStore, .recover]

theorem directory_atomic_restart :
    ((history step { power := some 15 } interrupted).map access).take 3 =
      [.silent, .write (some { epoch := ⟨1⟩, evaluations := 4 }) true, .write (some { epoch := ⟨2⟩ }) false] ∧
    ∃ value, Atomic none ((history step { power := some 15 } interrupted).map access) value :=
  ⟨rfl, (directory_atomic (Run.of_ops _)).1⟩

end HotspotGovernor.Linearization
