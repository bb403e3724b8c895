import HotspotGovernor.Tails
import HotspotGovernor.Lib.Trace

namespace HotspotGovernor.ShortWrites

open Foundation ByteIo Framing Durable Journal Storage Lib.Volume Lib.Procedures Lib.Trace Durability Tails

/-- A failed write: how many bytes reached the file all the same, and what is reported. -/
structure Fault where
  written : ℕ
  detail : String

def appendFileAll (fault : Option Fault) (bytes : Bytes) : StoreM Unit :=
  match fault with
  | none => Storage.appendFileAll bytes
  | some fault => do
    Storage.appendFileAll (bytes.take fault.written)
    throw ⟨.persistenceIoError, fault.detail⟩

def append (fault : Option Fault) (record : JournalRecord) : StoreM Unit := do
  let s ← get
  refuseIf (!s.journal.isOpen) ⟨.notStarted, "journal is not open"⟩
  refuseIf (record.payload.length > Limits.kMaxJournalRecordBytes)
    ⟨.boundExceeded, "journal record exceeds the bound"⟩
  let encoded := encodeJournalRecord { record with sequence := s.journal.lastSequence + 1 }
  refuseIf (s.journal.bytes + encoded.length > s.config.maxBytes.toNat)
    ⟨.durableGrowthExceeded, "journal would exceed its configured bound"⟩
  appendFileAll fault encoded
  modify (fun s ↦ { s with
    journal := { s.journal with
      bytes := s.journal.bytes + encoded.length, lastSequence := s.journal.lastSequence + 1 } })

inductive Op
  | append (record : JournalRecord) (fault : Option Fault)
  | reset

def step : Op → Store → Result Unit × Store
  | .append record fault, s => call (append fault record) s
  | .reset, s => call JournalState.reset s

def numbered (s : Store) (record : JournalRecord) : JournalRecord :=
  { record with sequence := s.journal.lastSequence + 1 }

def acknowledge (acked : List JournalRecord) (e : Event Op (Result Unit) Store) : List JournalRecord :=
  match e.op, e.out with
  | .append record _, .ok () => acked ++ [numbered e.before record]
  | .reset, .ok () => []
  | _, .error _ => acked

def acknowledged (past : List (Event Op (Result Unit) Store)) : List JournalRecord := past.foldl acknowledge []

/-- What the journal itself checks before it writes. -/
structure Admits (s : Store) (record : JournalRecord) : Prop where
  isOpen : s.journal.isOpen = true
  bounded : Bounded record
  room : s.journal.bytes + (encodeJournalRecord (numbered s record)).length ≤ s.config.maxBytes.toNat

def landed (s : Store) (record : JournalRecord) (fault : Option Fault) : Bytes :=
  match fault with
  | none => encodeJournalRecord (numbered s record)
  | some fault => (encodeJournalRecord (numbered s record)).take fault.written

theorem append_spec {s : Store} (hpower : s.power = none) (record : JournalRecord) (fault : Option Fault) :
    (¬Admits s record ∧ ∃ e, call (append fault record) s = (.error e, s)) ∨
    (Admits s record ∧ ∃ s', ((fault = none ∧ call (append fault record) s = (.ok (), s') ∧
          s'.journal.bytes = s.journal.bytes + (encodeJournalRecord (numbered s record)).length) ∨
        ∃ f, fault = some f ∧ call (append fault record) s = (.error ⟨.persistenceIoError, f.detail⟩, s')) ∧
      s'.config = s.config ∧ s'.power = none ∧ s'.journal.isOpen = true ∧
      s'.disk.journal = s.disk.journal.append (landed s record fault)) := by
  have hlive : s.power ≠ some 0 := by simp [hpower]
  have hspent : spent s.power = none := by simp [hpower, spent]
  unfold append
  rw [call_get_bind, call_refuseIf_bind]
  split
  · next hclosed => exact .inl ⟨fun h ↦ by simp [h.isOpen] at hclosed, _, rfl⟩
  next hopen =>
  rw [call_refuseIf_bind]
  split
  · next hlong => exact .inl ⟨fun h ↦ absurd h.bounded (not_le.mpr hlong), _, rfl⟩
  next hbound =>
  dsimp only
  rw [call_refuseIf_bind]
  split
  · next hfull => exact .inl ⟨fun h ↦ absurd h.room (not_le.mpr hfull), _, rfl⟩
  next hroom =>
  have hopen : s.journal.isOpen = true := by simpa using hopen
  refine .inr ⟨⟨hopen, not_lt.mp hbound, not_lt.mp hroom⟩, ?_⟩
  cases fault with
  | none =>
    unfold appendFileAll Storage.appendFileAll
    rw [call_bind_ok (call_access_live hlive _ _), call_modify]
    exact ⟨_, .inl ⟨rfl, rfl, rfl⟩, rfl, hspent, hopen, rfl⟩
  | some f =>
    unfold appendFileAll Storage.appendFileAll
    rw [bind_assoc, call_bind_ok (call_access_live hlive _ _)]
    exact ⟨_, .inr ⟨f, rfl, rfl⟩, rfl, hspent, hopen, rfl⟩

theorem reset_spec {s : Store} (hpower : s.power = none) :
    (s.journal.isOpen = false ∧ ∃ e, call JournalState.reset s = (.error e, s)) ∨
    ∃ s', call JournalState.reset s = (.ok (), s') ∧ s'.config = s.config ∧ s'.power = none ∧
      s'.journal.isOpen = true ∧ s'.disk.journal.visible = some [] := by
  obtain ⟨mid, hwrite, hmid⟩ := call_writeFileAll hpower Disk.onJournal []
  have hkeeps : Keeps (fun s : Store ↦ (s.config, s.journal)) (writeFileAll Disk.onJournal []) :=
    writeFileAll_keeps_view (fun _ _ _ ↦ rfl) (fun _ _ ↦ rfl) []
  have hkept := hkeeps s
  rw [hwrite] at hkept
  obtain ⟨hconfig, hjournal⟩ := Prod.mk.inj hkept
  unfold JournalState.reset
  rw [call_get_bind, call_refuseIf_bind]
  split
  · next hclosed => exact .inl ⟨by simpa using hclosed, _, rfl⟩
  · next hopen =>
    have hopen : s.journal.isOpen = true := by simpa using hopen
    have hempty := writeFileAll_ok Disk.onJournal Disk.journal (fun _ _ ↦ rfl) hwrite
    rw [call_bind_ok hwrite, call_modify]
    refine .inr ⟨_, rfl, hconfig, hmid, ?_, hempty⟩
    exact (congrArg JournalState.isOpen hjournal).trans hopen

/-- The journal file starts with records among which the acknowledged ones stand in order, whatever
follows them, and it is within the bound. -/
structure Holds (acked : List JournalRecord) (s : Store) : Prop where
  content : ∃ records tail, (∀ r ∈ records, Bounded r) ∧ acked.Sublist records ∧
    s.disk.journal.visible = some (encodeRecords records ++ tail)
  bound : s.disk.journal.contents.length ≤ s.config.maxBytes.toNat
  power : s.power = none

/-- A replay and a later open of the directory return every acknowledged record in order, and the file is
within the bound. -/
structure Retains (acked : List JournalRecord) (s : Store) : Prop where
  replayed : ∀ limit, s.disk.journal.contents.length ≤ limit → ∃ records, acked.Sublist records ∧
    replay s.disk.journal.visible { s.config with maxJournalRecords := limit } = .ok records
  reopened : ∃ s' records, acked.Sublist records ∧ (∀ r ∈ records, Bounded r) ∧
    call JournalState.openJournal { config := s.config, disk := s.disk } = (.ok (), s') ∧
    s'.disk.journal.visible = some (encodeRecords records)
  bound : s.disk.journal.contents.length ≤ s.config.maxBytes.toNat

theorem scan_leading {records : List JournalRecord} (h : ∀ r ∈ records, Bounded r) (tail : Bytes) {limit : ℕ}
    (hlimit : records.length ≤ limit) : records <+: (scanRecords limit (encodeRecords records ++ tail)).1 := by
  induction records generalizing limit with
  | nil => exact List.nil_prefix
  | cons r records ih =>
    obtain ⟨limit, rfl⟩ : ∃ n, limit = n + 1 := ⟨limit - 1, by rw [List.length_cons] at hlimit; omega⟩
    have hr := decode_encode (h r List.mem_cons_self) (encodeRecords records ++ tail)
    have hrest := ih (fun x hx ↦ h x (List.mem_cons_of_mem _ hx)) (Nat.le_of_succ_le_succ hlimit)
    unfold scanRecords
    rw [show encodeRecords (r :: records) = encodeJournalRecord r ++ encodeRecords records from rfl,
      List.append_assoc, hr]
    exact List.cons_prefix_cons.mpr ⟨rfl, hrest⟩

theorem Holds.retains {acked : List JournalRecord} {s : Store} (h : Holds acked s) : Retains acked s := by
  obtain ⟨records, tail, hbound, hacked, hfile⟩ := h.content
  have hcontents : s.disk.journal.contents = encodeRecords records ++ tail := by
    rw [File.contents, hfile, Option.getD_some]
  have hmax := h.bound
  have hcount : records.length ≤ (encodeRecords records ++ tail).length := by
    rw [List.length_append]
    exact (length_le_encodeRecords records).trans (Nat.le_add_right _ _)
  rw [hcontents] at hmax
  refine ⟨fun limit hlimit ↦ ?_, ?_, h.bound⟩
  · rw [hcontents] at hlimit
    refine ⟨_, hacked.trans (scan_leading hbound tail (hcount.trans hlimit)).sublist, ?_⟩
    rw [hfile]
    unfold replay
    dsimp only
    rw [readFileAll_of_le hmax]
    rfl
  · obtain ⟨s', hopen, -, hkept, -, -⟩ := openJournal_spec (s := { config := s.config, disk := s.disk }) rfl rfl
      hfile hmax
    rw [take_validBytes] at hkept
    exact ⟨s', _, hacked.trans (scan_leading hbound tail hcount).sublist, (scan_sound _ _).2, hopen, hkept⟩

/-- The file holds whole records, and no byte that the journal has not counted. -/
structure Tidy (s : Store) : Prop where
  whole : Whole s.disk.journal.contents
  counted : s.disk.journal.contents.length = s.journal.bytes

def Careful (e : Event Op (Result Unit) Store) : Prop :=
  match e.op with
  | .append record _ => Admits e.before record → Tidy e.before
  | .reset => True

theorem length_landed_le (s : Store) (record : JournalRecord) (fault : Option Fault) :
    (landed s record fault).length ≤ (encodeJournalRecord (numbered s record)).length := by
  cases fault with
  | none => exact le_rfl
  | some fault => exact List.length_take_le' _ _

theorem Tidy.append {s : Store} (h : Tidy s) (hpower : s.power = none) (record : JournalRecord) :
    Tidy (step (.append record none) s).2 := by
  rcases append_spec hpower record none with ⟨-, e, hcall⟩ | ⟨hadmits, s', hcalls, -, -, -, hfile⟩
  · simp only [step, hcall]
    exact h
  · have hcontents : s'.disk.journal.contents =
        s.disk.journal.contents ++ encodeRecords [numbered s record] := by
      rw [hfile, encodeRecords, List.flatMap_singleton]
      rfl
    rcases hcalls with ⟨-, hcall, hbytes⟩ | ⟨f, hf, -⟩
    · simp only [step, hcall]
      refine ⟨?_, ?_⟩
      · rw [hcontents]
        refine h.whole.append fun r hr ↦ ?_
        rw [List.mem_singleton.mp hr]
        exact hadmits.bounded
      · rw [hcontents, List.length_append, h.counted, hbytes, encodeRecords, List.flatMap_singleton]
    · cases hf

theorem Tidy.bound {s : Store} (h : Tidy s) {record : JournalRecord} (hadmits : Admits s record)
    (fault : Option Fault) :
    (s.disk.journal.contents ++ landed s record fault).length ≤ s.config.maxBytes.toNat := by
  rw [List.length_append, h.counted]
  exact (Nat.add_le_add_left (length_landed_le s record fault) _).trans hadmits.room

theorem Holds.sublist_of_whole {acked : List JournalRecord} {s : Store} (h : Holds acked s)
    (hwhole : Whole s.disk.journal.contents) : ∃ records, (∀ r ∈ records, Bounded r) ∧
      acked.Sublist records ∧ s.disk.journal.contents = encodeRecords records := by
  obtain ⟨records, tail, hbound, hacked, hfile⟩ := h.content
  obtain ⟨whole, hall, hcontents⟩ := hwhole
  have hcut : encodeRecords records ++ tail = encodeRecords whole := by
    rw [← hcontents, File.contents, hfile, Option.getD_some]
  have hleading := @scan_leading records hbound tail (max records.length whole.length) (le_max_left _ _)
  rw [hcut, scan_whole hall (le_max_right _ _)] at hleading
  exact ⟨whole, hall, hacked.trans hleading.sublist, hcontents⟩

theorem Holds.step {past : List (Event Op (Result Unit) Store)} {s : Store} (h : Holds (acknowledged past) s)
    (op : Op) (hcareful : Careful (event step op s)) :
    Holds (acknowledged (past ++ [event step op s])) (step op s).2 := by
  have hacked : acknowledged (past ++ [event ShortWrites.step op s]) =
      acknowledge (acknowledged past) (event ShortWrites.step op s) := by
    rw [acknowledged, List.foldl_append]
    rfl
  rw [hacked]
  cases op with
  | reset =>
    rcases reset_spec h.power with ⟨-, e, hcall⟩ | ⟨s', hcall, hconfig, hpower, -, hempty⟩
    · simp only [acknowledge, event, ShortWrites.step, hcall]
      exact h
    · simp only [acknowledge, event, ShortWrites.step, hcall]
      refine ⟨⟨[], [], by simp, .refl _, hempty⟩, ?_, hpower⟩
      rw [File.contents, hempty]
      exact Nat.zero_le _
  | append record fault =>
    rcases append_spec h.power record fault with
      ⟨-, e, hcall⟩ | ⟨hadmits, s', hcalls, hconfig, hpower, -, hfile⟩
    · simp only [acknowledge, event, ShortWrites.step, hcall]
      exact h
    have htidy : Tidy s := hcareful hadmits
    have hcontents : s'.disk.journal.contents = s.disk.journal.contents ++ landed s record fault := by
      rw [hfile]
      rfl
    have hbound : s'.disk.journal.contents.length ≤ s'.config.maxBytes.toNat := by
      rw [hcontents, hconfig]
      exact htidy.bound hadmits fault
    rcases hcalls with ⟨rfl, hcall, -⟩ | ⟨f, rfl, hcall⟩
    · simp only [acknowledge, event, ShortWrites.step, hcall]
      obtain ⟨records, hall, hsub, hrecords⟩ := h.sublist_of_whole htidy.whole
      refine ⟨⟨records ++ [numbered s record], [], ?_, hsub.append (.refl _), ?_⟩, hbound, hpower⟩
      · intro r hr
        rcases List.mem_append.mp hr with hr | hr
        · exact hall r hr
        · rw [List.mem_singleton.mp hr]
          exact hadmits.bounded
      · rw [hfile, visible_append, hrecords, encodeRecords_append, List.append_nil]
        simp [landed, encodeRecords]
    · simp only [acknowledge, event, ShortWrites.step, hcall]
      obtain ⟨records, tail, hall, hsub, hvisible⟩ := h.content
      refine ⟨⟨records, tail ++ landed s record (some f), hall, hsub, ?_⟩, hbound, hpower⟩
      rw [hfile, visible_append, File.contents, hvisible, Option.getD_some, List.append_assoc]

theorem holds_of_open {t init : Store} (hpower : t.power = none)
    (hopen : call JournalState.openJournal t = (.ok (), init)) : Holds [] init := by
  have hclosed : t.journal.isOpen = false := by
    unfold JournalState.openJournal at hopen
    rw [call_get_bind, call_refuseIf_bind] at hopen
    split at hopen
    · cases hopen
    · next hclosed => simpa using hclosed
  cases hfile : t.disk.journal.visible with
  | some content =>
    by_cases hmax : content.length ≤ t.config.maxBytes.toNat
    · obtain ⟨s', hcall, -, hkept, hconfig, hpower'⟩ := openJournal_spec hclosed hpower hfile hmax
      obtain rfl : s' = init := (Prod.mk.inj (hcall.symm.trans hopen)).2
      have hlength := List.length_take_le' (openReport content).validBytes content
      have hcontents : s'.disk.journal.contents = content.take (openReport content).validBytes := by
        rw [File.contents, hkept, Option.getD_some]
      rw [take_validBytes] at hkept
      refine ⟨⟨_, [], (scan_sound _ _).2, List.nil_sublist _,
        by rw [List.append_nil]; exact hkept⟩, ?_, hpower'⟩
      rw [hcontents, hconfig]
      exact hlength.trans hmax
    · have hread := readBytes_some hfile
      rw [readFileAll_of_gt (not_le.mp hmax)] at hread
      unfold JournalState.openJournal at hopen
      rw [call_get_bind, call_refuseIf_bind, if_neg (by simp [hclosed]), call_bind_error hread] at hopen
      cases hopen
  | none =>
    obtain ⟨mid, hwrite, hpower'⟩ := call_writeFileAll hpower Disk.onJournal []
    have hempty : mid.disk.journal.visible = some [] :=
      writeFileAll_ok Disk.onJournal Disk.journal (fun _ _ ↦ rfl) hwrite
    have hread : call JournalState.readBytes t = (.ok [], mid) := by
      unfold JournalState.readBytes
      rw [call_get_bind, hfile]
      exact call_bind_ok hwrite
    have hcall := call_openJournal hclosed hread
    unfold JournalState.cutTail at hcall
    rw [if_neg (by decide), pure_bind, call_modify] at hcall
    obtain rfl := (Prod.mk.inj (hcall.symm.trans hopen)).2
    refine ⟨⟨[], [], by simp, .refl _, hempty⟩, ?_, hpower'⟩
    change (mid.disk.journal.visible.getD []).length ≤ _
    rw [hempty]
    exact Nat.zero_le _

/-- In every run on a journal that was opened without faults, if every append that passes the checks finds
whole records and no byte beyond those counted: a replay and a later open return every acknowledged record,
and the file stays within its bound. -/
theorem acknowledged_retained {t init s : Store} (hpower : t.power = none)
    (hopen : call JournalState.openJournal t = (.ok (), init)) {past : List (Event Op (Result Unit) Store)}
    (hrun : Run step init past s) (hcareful : ∀ pre e post, past = pre ++ e :: post → Careful e) :
    Retains (acknowledged past) s := by
  have hholds : Holds (acknowledged past) s :=
    @Run.invariant_of Op (Result Unit) Store step init s past (fun past s ↦ Holds (acknowledged past) s)
      (fun _ e ↦ Careful e) (holds_of_open hpower hopen) (fun past s op h hgood ↦ h.step op hgood) hrun hcareful
  exact hholds.retains

def created : Store := (call JournalState.openJournal {}).2

def wholeAppend : Op := .append bootRecord none

/-- Only the first byte of the record reaches the file. -/
def tornAppend : Op := .append bootRecord (some ⟨1, "short append"⟩)

theorem tidy_created : Tidy created := ⟨Whole.nil, rfl⟩

/-- A torn record at the end of the file costs nothing. -/
theorem created_retains_record : ∃ past s, Run step created past s ∧
    (step tornAppend (step wholeAppend created).2).1 = .error ⟨.persistenceIoError, "short append"⟩ ∧
    acknowledged past = [numbered created bootRecord] ∧ Retains (acknowledged past) s := by
  have hrun := ((@Run.start Op (Result Unit) Store step created).snoc wholeAppend).snoc tornAppend
  refine ⟨_, _, hrun, rfl, rfl, @acknowledged_retained {} created _ rfl rfl _ hrun ?_⟩
  intro pre e post hsplit
  rcases append_singleton_eq.mp hsplit with ⟨rfl, rfl, -⟩ | ⟨post', -, hsplit⟩
  · exact fun _ ↦ tidy_created.append rfl bootRecord
  · rcases append_singleton_eq.mp hsplit with ⟨rfl, rfl, -⟩ | ⟨post', -, hnil⟩
    · exact fun _ ↦ tidy_created
    · cases pre <;> cases hnil

/-- The first append fails after one byte; the second one returns success, and its record is lost. -/
theorem record_lost_behind_torn : ∃ past s, Run step created past s ∧
    acknowledged past = [numbered created bootRecord] ∧ ¬Retains (acknowledged past) s := by
  refine ⟨_, _, (Run.start.snoc tornAppend).snoc wholeAppend, rfl, fun h ↦ ?_⟩
  obtain ⟨records, hsub, hreplay⟩ := h.replayed _ le_rfl
  have hnone : (replay (step wholeAppend (step tornAppend created).2).2.disk.journal.visible
      { created.config with maxJournalRecords :=
          (step wholeAppend (step tornAppend created).2).2.disk.journal.contents.length }).toOption.map
        List.length = some 0 := by decide +kernel
  have hlength := (congrArg (fun r ↦ r.toOption.map List.length) hreplay).symm.trans hnone
  rw [List.length_eq_zero_iff.mp (Option.some.inj hlength)] at hsub
  exact absurd (List.sublist_nil.mp hsub) (List.cons_ne_nil _ _)

end HotspotGovernor.ShortWrites
