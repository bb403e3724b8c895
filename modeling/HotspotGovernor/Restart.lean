import HotspotGovernor.Epochs
import HotspotGovernor.Lib.Trace

namespace HotspotGovernor.Restart

open Foundation ByteIo Durable Governance Operations Effects Coordination Storage Durability Recoverable
open Epochs Lib.Volume Lib.Procedures Lib.Trace

/-- Off, or with a governor that has recovered, or with a coordinator that serves. -/
inductive Machine
  | off (disk : Disk)
  | recovered (g : Governor Store)
  | serving (c : Coordinator Store)

namespace Machine

def governor : Machine → Option (Governor Store)
  | .off _ => none
  | .recovered g => some g
  | .serving c => some c.governor

def disk : Machine → Disk
  | .off disk => disk
  | .recovered g => g.world.disk
  | .serving c => c.governor.world.disk

end Machine

/-- What happens to a machine. A boot tells how many accesses to the directory the machine will live
to make; whenever it goes off, one of the contents is left that each file may have been left with. -/
inductive Move
  | boot (config : GovernorConfig) (store : StoreConfig) (power : Option ℕ) (process : Process) (now : Millis)
  | start (config : CoordinatorConfig)
  | govern (op : Op)
  | act (act : Act)
  | crash (journal snapshot temp : Option Bytes)
  | damage (content : Bytes)

def spoils (content : Bytes) : Bool := !(readSnapshot kUInt64Max (some content)).state.isOk

def step : Move → Machine → Bool × Machine
  | .boot config store power process now, .off disk =>
    match Governor.recover durableStore process now
      { config := { config with store := some store }, world := { disk, power } } with
    | (.ok (), g) => (true, .recovered g)
    | (.error _, g) => (false, .off g.world.disk)
  | .start config, .recovered g =>
    match Coordination.start durableStore config g with
    | (.ok (), c) => (true, .serving c)
    | (.error _, c) => (false, .recovered c.governor)
  | .govern op, .recovered g =>
    let out := Operations.step durableStore op g
    (succeeded out.1, .recovered out.2)
  | .govern op, .serving c =>
    let out := Operations.step durableStore op c.governor
    (succeeded out.1, .serving { c with governor := out.2 })
  | .act act, .serving c => (true, .serving (Coordination.step durableStore act c).2)
  | .crash journal snapshot temp, m =>
    if journal ∈ m.disk.journal.remnants ∧ snapshot ∈ m.disk.snapshot.remnants ∧
        temp ∈ m.disk.temp.remnants then
      (true, .off ⟨.settled journal, .settled snapshot, .settled temp⟩)
    else (false, m)
  | .damage content, .off disk =>
    if disk.snapshot.visible.isSome && spoils content then
      (true, .off { disk with snapshot := .settled (some content) })
    else (false, .off disk)
  | _, m => (false, m)

abbrev History := List (Event Move Bool Machine)

def Serves (e : Event Move Bool Machine) (epoch : CoordinatorEpoch) : Prop :=
  ∃ c, e.after = .serving c ∧ c.governor.epoch = epoch

/-- The moves that commit when they succeed; among those of a serving coordinator, some that do not. -/
def Move.commits : Move → Bool
  | .start _ => true
  | .govern op => Epochs.commits op
  | .act _ => true
  | _ => false

def Commits (e : Event Move Bool Machine) (epoch : CoordinatorEpoch) : Prop :=
  e.op.commits = true ∧ e.out = true ∧ ∃ g, e.after.governor = some g ∧ g.epoch = epoch

def Installs (e : Event Move Bool Machine) (epoch : CoordinatorEpoch) : Prop :=
  ((∃ config, e.op = .start config) ∨ ∃ epoch boot now, e.op = .govern (.installEpoch epoch boot now)) ∧
  e.out = true ∧ ∃ g, e.after.governor = some g ∧ g.epoch = epoch

def Boots (e : Event Move Bool Machine) : Prop :=
  e.out = true ∧ ∃ config store power process now, e.op = .boot config store power process now

def Damaged (past : History) : Prop := ∃ e ∈ past, ∃ content, e.op = .damage content

variable {past : History} {m m' : Machine} {e : Event Move Bool Machine}

/-- What a move does, as far as governors and snapshots are concerned. -/
inductive Effect (e : Event Move Bool Machine) : Prop
  | booted (config : GovernorConfig) (store : StoreConfig) (power : Option ℕ) (process : Process) (now : Millis)
      (disk : Disk) (g : Governor Store) (hop : e.op = .boot config store power process now)
      (hbefore : e.before = .off disk) (hafter : e.after = .recovered g)
      (hrecover : Governor.recover durableStore process now
        { config := { config with store := some store }, world := { disk, power } } = (.ok (), g))
  | advanced (g g' : Governor Store) (committed : Bool) (hbefore : e.before.governor = some g)
      (hafter : e.after.governor = some g') (hadvance : Advance g g' committed)
      (hopen : g'.storeOpen = g.storeOpen) (hboots : ¬ Boots e)
      (hserving : ∀ c, e.after = .serving c → committed = true ∨ ∃ c, e.before = .serving c)
      (hcommits : e.op.commits = true → e.out = true → committed = true ∨ ∃ c, e.before = .serving c)
  | halted (hafter : e.after.governor = none)
      (hsnapshot : ∀ content ∈ e.after.disk.snapshot.remnants, content ∈ e.before.disk.snapshot.remnants ∨
        (∃ bytes, e.op = .damage bytes ∧ content = some bytes ∧ Corrupt bytes))

theorem corrupt_of_spoils {content : Bytes} (h : spoils content = true) : Corrupt content := by
  intro maxBytes state hread
  by_cases hlong : content.length > maxBytes.toNat
  · rw [readSnapshot_long hlong] at hread
    cases hread
  · have hle : content.length ≤ kUInt64Max.toNat := by
      have hmax : kUInt64Max.toNat = 2 ^ 64 - 1 := rfl
      have hlt := maxBytes.toNat_lt
      omega
    unfold spoils at h
    rw [readSnapshot_bound hle (not_lt.mp hlong), hread] at h
    cases h

/-- The governor of this machine can be called: its store is open and it has an epoch. -/
def Ready (m : Machine) : Prop :=
  ∀ g, m.governor = some g → g.storeOpen = true ∧ g.epoch.valid = true

theorem effect_idle {op : Move} (h : step op m = (false, m)) : Effect (event step op m) := by
  have hout : (event step op m).out = false := congrArg Prod.fst h
  have hafter : (event step op m).after = m := congrArg Prod.snd h
  cases hg : m.governor with
  | none =>
    refine .halted (by rw [hafter]; exact hg) fun content hcontent ↦ Or.inl ?_
    rwa [hafter] at hcontent
  | some g =>
    refine .advanced g g false hg (by rw [hafter]; exact hg) (.still rfl rfl) rfl ?_ ?_ ?_
    · intro hboots
      exact absurd hboots.1 (by simp [hout])
    · intro c hc
      exact Or.inr ⟨c, hafter.symm.trans hc⟩
    · intro _ htrue
      exact absurd htrue (by simp [hout])

theorem effect_boot (config : GovernorConfig) (store : StoreConfig) (power : Option ℕ) (process : Process)
    (now : Millis) (disk : Disk) :
    Effect (event step (.boot config store power process now) (.off disk)) := by
  cases hr : Governor.recover durableStore process now
      { config := { config with store := some store }, world := { disk, power } } with
  | mk out g =>
    cases out with
    | ok _ =>
      refine .booted config store power process now disk g rfl rfl ?_ hr
      change (step _ _).2 = _
      unfold step
      dsimp only
      rw [hr]
    | error e =>
      have hafter : (event step (.boot config store power process now) (.off disk)).after =
          .off g.world.disk := by
        change (step _ _).2 = _
        unfold step
        dsimp only
        rw [hr]
      have hsnapshot := recover_snapshot store
        (g := { config := { config with store := some store }, world := { disk, power } }) rfl process now
      rw [hr] at hsnapshot
      refine .halted (by rw [hafter]; rfl) fun content hcontent ↦ Or.inl ?_
      rw [hafter] at hcontent
      change content ∈ g.world.disk.snapshot.remnants at hcontent
      rwa [hsnapshot] at hcontent

theorem not_boots (h : ∀ config store power process now, e.op ≠ .boot config store power process now) :
    ¬ Boots e := by
  rintro ⟨-, config, store, power, process, now, hop⟩
  exact h config store power process now hop

theorem effect_start (config : CoordinatorConfig) {g : Governor Store} (h : Ready (.recovered g)) :
    Effect (event step (.start config) (.recovered g)) := by
  obtain ⟨hopen, hvalid⟩ := h g rfl
  have hadvance := installEpoch_advance hopen hvalid g.epoch g.boot 0
  have hstore := @installEpoch_storeOpen _ durableStore g g.epoch g.boot 0
  cases hi : g.installEpoch durableStore g.epoch g.boot 0 with
  | mk out g' =>
    rw [hi] at hadvance hstore
    cases out with
    | ok _ =>
      have hout : step (.start config) (.recovered g) =
          (true, .serving { config, governor := g', running := true }) := by
        unfold step Coordination.start
        dsimp only
        rw [hi]
      exact .advanced g g' true rfl (congrArg (fun r ↦ r.2.governor) hout) hadvance hstore (not_boots nofun)
        (fun _ _ ↦ Or.inl rfl) (fun _ _ ↦ Or.inl rfl)
    | error e =>
      have hout : step (.start config) (.recovered g) = (false, .recovered g') := by
        unfold step Coordination.start
        dsimp only
        rw [hi]
      refine .advanced g g' false rfl (congrArg (fun r ↦ r.2.governor) hout) hadvance hstore (not_boots nofun) ?_ ?_
      · intro c hc
        cases (congrArg Prod.snd hout).symm.trans hc
      · intro _ htrue
        cases (congrArg Prod.fst hout).symm.trans htrue

theorem effect_govern (op : Op) (h : Ready m) : Effect (event step (.govern op) m) := by
  cases m with
  | off disk => exact effect_idle rfl
  | recovered g =>
    obtain ⟨hopen, hvalid⟩ := h g rfl
    refine .advanced g _ _ rfl rfl (step_advance hopen hvalid op) (step_storeOpen durableStore op g)
      (not_boots nofun) ?_ ?_
    · intro c hc
      cases hc
    · intro hop hout
      exact Or.inl (Bool.and_eq_true_iff.mpr ⟨hop, hout⟩)
  | serving c =>
    obtain ⟨hopen, hvalid⟩ := h c.governor rfl
    exact .advanced c.governor _ _ rfl rfl (step_advance hopen hvalid op) (step_storeOpen durableStore op _)
      (not_boots nofun)
      (fun _ _ ↦ Or.inr ⟨c, rfl⟩) (fun _ _ ↦ Or.inr ⟨c, rfl⟩)

theorem effect_act (act : Act) (h : Ready m) : Effect (event step (.act act) m) := by
  cases m with
  | off disk => exact effect_idle rfl
  | recovered g => exact effect_idle rfl
  | serving c =>
    obtain ⟨hopen, hvalid⟩ := h c.governor rfl
    rcases coordinator_step durableStore act c with hsame | ⟨op, hop⟩
    · exact .advanced c.governor c.governor false rfl (congrArg some hsame) (.still rfl rfl) rfl (not_boots nofun)
        (fun _ _ ↦ Or.inr ⟨c, rfl⟩) (fun _ _ ↦ Or.inr ⟨c, rfl⟩)
    · exact .advanced c.governor _ _ rfl (congrArg some hop) (step_advance hopen hvalid op)
        (step_storeOpen durableStore op _) (not_boots nofun) (fun _ _ ↦ Or.inr ⟨c, rfl⟩)
        (fun _ _ ↦ Or.inr ⟨c, rfl⟩)

theorem effect_crash (journal snapshot temp : Option Bytes) (m : Machine) :
    Effect (event step (.crash journal snapshot temp) m) := by
  by_cases hleft : journal ∈ m.disk.journal.remnants ∧ snapshot ∈ m.disk.snapshot.remnants ∧
      temp ∈ m.disk.temp.remnants
  · have hout : step (.crash journal snapshot temp) m =
        (true, .off ⟨.settled journal, .settled snapshot, .settled temp⟩) := if_pos hleft
    have hafter : (event step (.crash journal snapshot temp) m).after =
        .off ⟨.settled journal, .settled snapshot, .settled temp⟩ := congrArg Prod.snd hout
    refine .halted (by rw [hafter]; rfl) fun content hcontent ↦ Or.inl ?_
    rw [hafter] at hcontent
    rw [List.mem_singleton.mp hcontent]
    exact hleft.2.1
  · exact effect_idle (if_neg hleft)

theorem effect_damage (content : Bytes) (m : Machine) : Effect (event step (.damage content) m) := by
  cases m with
  | recovered g => exact effect_idle rfl
  | serving c => exact effect_idle rfl
  | off disk =>
    by_cases hspoils : (disk.snapshot.visible.isSome && spoils content) = true
    · have hout : step (.damage content) (.off disk) =
          (true, .off { disk with snapshot := .settled (some content) }) := if_pos hspoils
      have hafter : (event step (.damage content) (.off disk)).after =
          .off { disk with snapshot := .settled (some content) } := congrArg Prod.snd hout
      refine .halted (by rw [hafter]; rfl) fun left hleft ↦ Or.inr ⟨content, rfl, ?_, ?_⟩
      · rw [hafter] at hleft
        exact List.mem_singleton.mp hleft
      · exact corrupt_of_spoils (Bool.and_eq_true_iff.mp hspoils).2
    · exact effect_idle (if_neg hspoils)

theorem effect (op : Move) (h : Ready m) : Effect (event step op m) := by
  cases op with
  | boot config store power process now =>
    cases m with
    | off disk => exact effect_boot config store power process now disk
    | recovered g => exact effect_idle rfl
    | serving c => exact effect_idle rfl
  | start config =>
    cases m with
    | off disk => exact effect_idle rfl
    | recovered g => exact effect_start config h
    | serving c => exact effect_idle rfl
  | govern op => exact effect_govern op h
  | act act => exact effect_act act h
  | crash journal snapshot temp => exact effect_crash journal snapshot temp m
  | damage content => exact effect_damage content m

def Held (e : Event Move Bool Machine) (epoch : CoordinatorEpoch) : Prop := Serves e epoch ∨ Commits e epoch

/-- What a boot finds as a snapshot is accepted, or the journal keeps it from getting that far. Without
damage it is enough that the snapshot fits the bound. -/
def Sound (past : History) (e : Event Move Bool Machine) : Prop :=
  ∀ config store power process now content, e.op = .boot config store power process now →
    e.before.disk.snapshot.visible = some content →
    (∃ state, (readSnapshot store.maxBytes (some content)).state = .ok state) ∨
    e.before.disk.journal.contents.length > store.maxBytes.toNat ∨
    (content.length ≤ store.maxBytes.toNat ∧ ¬ Damaged past)

def Unsaturated (e : Event Move Bool Machine) : Prop :=
  ∀ g, e.after.governor = some g → g.epoch.value ≠ kUInt64Max

def Good (past : History) (e : Event Move Bool Machine) : Prop := Sound past e ∧ Unsaturated e

/-- The directory covers every epoch that was ever served or committed, and a governor is past those of
the lifetimes before its own. -/
structure Inv (past : History) (m : Machine) : Prop where
  ready : Ready m
  reliable : ∀ g, m.governor = some g → Reliable g.world
  serving : ∀ c, m = .serving c → Covers (Damaged past) m.disk.snapshot c.governor.epoch
  covered : ∀ x ∈ past, ∀ epoch, Held x epoch →
    epoch.valid = true ∧ Covers (Damaged past) m.disk.snapshot epoch
  reached : ∀ x ∈ past, ∀ epoch, Held x epoch → ∀ g, m.governor = some g → epoch ≤ g.epoch
  earlier : ∀ pre b post, past = pre ++ b :: post → Boots b → ∀ x ∈ pre, ∀ epoch, Held x epoch →
    ∀ g, m.governor = some g → epoch < g.epoch

theorem disk_of_governor {g : Governor Store} (h : m.governor = some g) : m.disk = g.world.disk := by
  cases m with
  | off disk => cases h
  | recovered g' => rw [← Option.some.inj h]; rfl
  | serving c => rw [← Option.some.inj h]; rfl

theorem Held.governor {epoch : CoordinatorEpoch} (h : Held e epoch) :
    ∃ g, e.after.governor = some g ∧ g.epoch = epoch := by
  rcases h with ⟨c, hafter, hepoch⟩ | ⟨-, -, hg⟩
  · exact ⟨c.governor, by rw [hafter]; rfl, hepoch⟩
  · exact hg

theorem Damaged.snoc (h : Damaged past) (e : Event Move Bool Machine) : Damaged (past ++ [e]) := by
  obtain ⟨x, hx, hdamage⟩ := h
  exact ⟨x, List.mem_append_left _ hx, hdamage⟩

theorem valid_of_le {tag : IdTag} {a b : StrongId tag} (ha : a.valid = true) (hab : a ≤ b) : b.valid = true := by
  have hle : a.value.toNat ≤ b.value.toNat := hab
  simp only [StrongId.valid, bne_iff_ne, ne_eq] at ha ⊢
  intro hb
  rw [hb] at hle
  exact ha (UInt64.toNat_inj.mp (Nat.le_zero.mp hle))

theorem Inv.halted (h : Inv past e.before) (hafter : e.after.governor = none)
    (hsnapshot : ∀ content ∈ e.after.disk.snapshot.remnants, content ∈ e.before.disk.snapshot.remnants ∨
      (∃ bytes, e.op = .damage bytes ∧ content = some bytes ∧ Corrupt bytes)) :
    Inv (past ++ [e]) e.after := by
  refine ⟨?_, ?_, ?_, ?_, ?_, ?_⟩
  · intro g hg
    rw [hafter] at hg
    cases hg
  · intro g hg
    rw [hafter] at hg
    cases hg
  · intro c hc
    rw [hc] at hafter
    cases hafter
  · intro x hx epoch hheld
    rcases List.mem_append.mp hx with hx | hx
    · obtain ⟨hvalid, hcovers⟩ := h.covered x hx epoch hheld
      refine ⟨hvalid, ?_⟩
      intro content hcontent
      rcases hsnapshot content hcontent with hold | ⟨bytes, hop, hbytes, hcorrupt⟩
      · exact hcovers.mono (fun hd ↦ hd.snoc e) (fun _ hc ↦ hc) content hold
      · exact Or.inr ⟨⟨e, by simp, bytes, hop⟩, bytes, hbytes, hcorrupt⟩
    · obtain rfl := List.mem_singleton.mp hx
      obtain ⟨g, hg, -⟩ := hheld.governor
      rw [hafter] at hg
      cases hg
  · intro x hx epoch hheld g hg
    rw [hafter] at hg
    cases hg
  · intro pre b post hpast hboots x hx epoch hheld g hg
    rw [hafter] at hg
    cases hg

theorem Inv.advanced (h : Inv past e.before) {g g' : Governor Store} {committed : Bool}
    (hbefore : e.before.governor = some g) (hafter : e.after.governor = some g')
    (hadvance : Advance g g' committed) (hopen : g'.storeOpen = g.storeOpen) (hboots : ¬ Boots e)
    (hserving : ∀ c, e.after = .serving c → committed = true ∨ ∃ c, e.before = .serving c)
    (hcommits : e.op.commits = true → e.out = true → committed = true ∨ ∃ c, e.before = .serving c) :
    Inv (past ++ [e]) e.after := by
  obtain ⟨hstore, hvalid⟩ := h.ready g hbefore
  have hreliable := h.reliable g hbefore
  have hdisk := disk_of_governor hbefore
  have hdisk' := disk_of_governor hafter
  have hvalid' := valid_of_le hvalid hadvance.le
  -- A commit covers its own epoch, and a coordinator that serves has committed before.
  have hcurrent : (committed = true ∨ ∃ c, e.before = .serving c) →
      Covers (Damaged (past ++ [e])) e.after.disk.snapshot g'.epoch := by
    rintro (rfl | ⟨c, hc⟩)
    · rw [hdisk']
      exact hadvance.covers_of_committed hreliable
    · have hcovers := h.serving c hc
      have hgovernor : c.governor = g := by
        rw [hc] at hbefore
        exact Option.some.inj hbefore
      rw [hgovernor, hdisk] at hcovers
      rw [hdisk']
      exact (hadvance.covers_current hreliable hcovers).mono (fun hd ↦ hd.snoc e) (fun _ hx ↦ hx)
  have hnow : ∀ {epoch}, Held e epoch → epoch = g'.epoch := by
    intro epoch hheld
    obtain ⟨g₁, hg₁, rfl⟩ := hheld.governor
    rw [hafter] at hg₁
    rw [Option.some.inj hg₁]
  refine ⟨?_, ?_, ?_, ?_, ?_, ?_⟩
  · intro g₁ hg₁
    rw [hafter] at hg₁
    rw [← Option.some.inj hg₁]
    exact ⟨hopen.trans hstore, hvalid'⟩
  · intro g₁ hg₁
    rw [hafter] at hg₁
    rw [← Option.some.inj hg₁]
    exact hadvance.reliable hreliable
  · intro c hc
    have hgovernor : c.governor = g' := by
      rw [hc] at hafter
      exact Option.some.inj hafter
    rw [hgovernor]
    exact hcurrent (hserving c hc)
  · intro x hx epoch hheld
    rcases List.mem_append.mp hx with hx | hx
    · obtain ⟨hvalidx, hcovers⟩ := h.covered x hx epoch hheld
      rw [hdisk] at hcovers
      refine ⟨hvalidx, ?_⟩
      rw [hdisk']
      exact (hadvance.covers hcovers (h.reached x hx epoch hheld g hbefore)).mono (fun hd ↦ hd.snoc e)
        (fun _ hc ↦ hc)
    · obtain rfl := List.mem_singleton.mp hx
      rw [hnow hheld]
      refine ⟨hvalid', ?_⟩
      rcases hheld with ⟨c, hc, -⟩ | ⟨hop, hout, -⟩
      · exact hcurrent (hserving c hc)
      · exact hcurrent (hcommits hop hout)
  · intro x hx epoch hheld g₁ hg₁
    rw [hafter] at hg₁
    rw [← Option.some.inj hg₁]
    rcases List.mem_append.mp hx with hx | hx
    · exact (h.reached x hx epoch hheld g hbefore).trans hadvance.le
    · obtain rfl := List.mem_singleton.mp hx
      exact (hnow hheld).le
  · intro pre b post hpast hb x hx epoch hheld g₁ hg₁
    rw [hafter] at hg₁
    rw [← Option.some.inj hg₁]
    rcases append_singleton_eq.mp hpast with ⟨-, rfl, -⟩ | ⟨post', -, hpast'⟩
    · exact absurd hb hboots
    · exact (h.earlier pre b post' hpast' hb x hx epoch hheld g hbefore).trans_le hadvance.le

theorem Inv.booted (h : Inv past e.before) (hsound : Sound past e) (hmax : Unsaturated e)
    {config : GovernorConfig} {store : StoreConfig} {power : Option ℕ} {process : Process} {now : Millis}
    {disk : Disk} {g : Governor Store} (hop : e.op = .boot config store power process now)
    (hbefore : e.before = .off disk) (hafter : e.after = .recovered g)
    (hrecover : Governor.recover durableStore process now
      { config := { config with store := some store }, world := { disk, power } } = (.ok (), g)) :
    Inv (past ++ [e]) e.after := by
  have hgovernor : e.after.governor = some g := by
    rw [hafter]
    rfl
  have hsnapshot : e.after.disk.snapshot = e.before.disk.snapshot := by
    have hkept := recover_snapshot store
      (g := { config := { config with store := some store }, world := { disk, power } }) rfl process now
    rw [hrecover] at hkept
    rw [hafter, hbefore]
    exact hkept
  have hshort := journal_of_recover store rfl hrecover
  -- Whatever was held is covered by the snapshot that is found, which is read and left behind.
  have hpassed : ∀ x ∈ past, ∀ epoch, Held x epoch → epoch < g.epoch := by
    intro x hx epoch hheld
    obtain ⟨hvalid, hcovers⟩ := h.covered x hx epoch hheld
    have hfound := hcovers _ e.before.disk.snapshot.kept
    rcases hfound with ⟨state, hvisible, hstate, hle⟩ | ⟨hdamaged, bytes, hvisible, hcorrupt⟩
    · have hfits : (frameSnapshot state).length ≤ store.maxBytes.toNat := by
        rcases hsound config store power process now _ hop hvisible with ⟨found, hread⟩ | hlong | ⟨hfits, -⟩
        · by_contra hlong
          rw [readSnapshot_long (not_le.mp hlong)] at hread
          cases hread
        · rw [hbefore] at hlong
          exact absurd hlong hshort
        · exact hfits
      have hread := congrArg SnapshotRead.state (readSnapshot_frame hstate hfits)
      rw [hbefore] at hvisible
      exact hle.trans_lt (lt_of_recover store rfl hrecover hvisible hread (valid_of_le hvalid hle)
        (hmax g hgovernor))
    · rcases hsound config store power process now _ hop hvisible with ⟨found, hread⟩ | hlong | ⟨-, hwhole⟩
      · exact absurd hread (hcorrupt store.maxBytes found)
      · rw [hbefore] at hlong
        exact absurd hlong hshort
      · exact absurd hdamaged hwhole
  have hquiet : ∀ epoch, ¬ Held e epoch := by
    rintro epoch (⟨c, hc, -⟩ | ⟨hcommits, -⟩)
    · rw [hafter] at hc
      cases hc
    · rw [hop] at hcommits
      cases hcommits
  have hreliable := reliable_of_recover
    (g := { config := { config with store := some store }, world := { disk, power } }) rfl process now rfl
  rw [hrecover] at hreliable
  refine ⟨?_, ?_, ?_, ?_, ?_, ?_⟩
  · intro g₁ hg₁
    rw [hgovernor] at hg₁
    rw [← Option.some.inj hg₁]
    exact live_of_recover store rfl hrecover
  · intro g₁ hg₁
    rw [hgovernor] at hg₁
    rw [← Option.some.inj hg₁]
    exact hreliable
  · intro c hc
    rw [hafter] at hc
    cases hc
  · intro x hx epoch hheld
    rcases List.mem_append.mp hx with hx | hx
    · obtain ⟨hvalid, hcovers⟩ := h.covered x hx epoch hheld
      rw [hsnapshot]
      exact ⟨hvalid, hcovers.mono (fun hd ↦ hd.snoc e) (fun _ hc ↦ hc)⟩
    · rw [List.mem_singleton.mp hx] at hheld
      exact absurd hheld (hquiet epoch)
  · intro x hx epoch hheld g₁ hg₁
    rw [hgovernor] at hg₁
    rw [← Option.some.inj hg₁]
    rcases List.mem_append.mp hx with hx | hx
    · exact (hpassed x hx epoch hheld).le
    · rw [List.mem_singleton.mp hx] at hheld
      exact absurd hheld (hquiet epoch)
  · intro pre b post hpast _ x hx epoch hheld g₁ hg₁
    rw [hgovernor] at hg₁
    rw [← Option.some.inj hg₁]
    refine hpassed x ?_ epoch hheld
    rcases append_singleton_eq.mp hpast with ⟨rfl, -, -⟩ | ⟨post', -, rfl⟩
    · exact hx
    · exact List.mem_append_left _ hx

theorem Inv.step (h : Inv past m) (op : Move) (hgood : Good past (event step op m)) :
    Inv (past ++ [event step op m]) (step op m).2 := by
  cases effect op h.ready with
  | booted config store power process now disk g hop hbefore hafter hrecover =>
    exact Inv.booted h hgood.1 hgood.2 hop hbefore hafter hrecover
  | advanced g g' committed hbefore hafter hadvance hopen hboots hserving hcommits =>
    exact Inv.advanced h hbefore hafter hadvance hopen hboots hserving hcommits
  | halted hafter hsnapshot => exact Inv.halted h hafter hsnapshot

variable {disk : Disk}

/-- In a run whose boots are sound, a lifetime is past every epoch that was served or committed in the
lifetimes before it. -/
theorem epochs_advance (h : Run step (.off disk) past m)
    (hgood : ∀ pre e post, past = pre ++ e :: post → Good pre e)
    {pre post : History} {b : Event Move Bool Machine} (hpast : past = pre ++ b :: post) (hb : Boots b)
    {x y : Event Move Bool Machine} (hx : x ∈ pre) (hy : y ∈ post) {old : CoordinatorEpoch}
    (hold : Held x old) {g : Governor Store} (hg : y.after.governor = some g) : old < g.epoch := by
  have hstart : Inv [] (.off disk) :=
    ⟨by simp [Ready, Machine.governor], by simp [Machine.governor], by simp, by simp, by simp, by simp⟩
  obtain ⟨between, rest, rfl⟩ := List.append_of_mem hy
  have hsplit : past = (pre ++ b :: between) ++ y :: rest := by
    rw [hpast, List.append_assoc]
    rfl
  have hinv : Inv ((pre ++ b :: between) ++ [y]) y.after := by
    refine Run.invariant_of hstart (fun _ _ op hi ↦ hi.step op) (h.upTo hsplit) ?_
    intro pre' e' post' he'
    refine hgood pre' e' (post' ++ rest) ?_
    rw [hsplit, ← List.cons_append, ← List.append_assoc, ← he']
    simp
  exact hinv.earlier pre b (between ++ [y]) (by simp) hb x hx old hold g hg

def Fits (e : Event Move Bool Machine) : Prop :=
  ∀ config store power process now content, e.op = .boot config store power process now →
    e.before.disk.snapshot.visible = some content → content.length ≤ store.maxBytes.toNat

/-- Over an undamaged directory whose snapshots fit the bounds they are read under, every epoch that a
lifetime serves is past all that earlier lifetimes have served. -/
theorem served_epochs_increase (h : Run step (.off disk) past m) (hintact : ¬ Damaged past)
    (hfits : ∀ e ∈ past, Fits e) (hmax : ∀ e ∈ past, Unsaturated e)
    {pre post : History} {b : Event Move Bool Machine} (hpast : past = pre ++ b :: post) (hb : Boots b)
    {x y : Event Move Bool Machine} (hx : x ∈ pre) (hy : y ∈ post) {old new : CoordinatorEpoch}
    (hold : Serves x old) (hnew : Serves y new) : old < new := by
  obtain ⟨c, hc, rfl⟩ := hnew
  refine epochs_advance h ?_ hpast hb hx hy (Or.inl hold) (by rw [hc]; rfl)
  intro pre' e post' he
  have hmem : e ∈ past := by simp [he]
  refine ⟨?_, hmax e hmem⟩
  intro config store power process now content hop hvisible
  refine Or.inr (Or.inr ⟨hfits e hmem config store power process now content hop hvisible, ?_⟩)
  rintro ⟨z, hz, hdamage⟩
  exact hintact ⟨z, by simp [he, hz], hdamage⟩

def crashNow (m : Machine) : Move := .crash m.disk.journal.visible m.disk.snapshot.visible m.disk.temp.visible

theorem step_crashNow (m : Machine) : step (crashNow m) m = (true, .off ⟨.settled m.disk.journal.visible,
    .settled m.disk.snapshot.visible, .settled m.disk.temp.visible⟩) :=
  if_pos ⟨m.disk.journal.kept, m.disk.snapshot.kept, m.disk.temp.kept⟩

section Lifetimes

variable (maxBytes : UInt64)

def firstBoot : Event Move Bool Machine := event step (.boot {} { maxBytes } none ⟨0, 0⟩ 0) (.off {})

def firstStart : Event Move Bool Machine := event step (.start {}) (firstBoot maxBytes).after

def firstCrash : Event Move Bool Machine :=
  event step (crashNow (firstStart maxBytes).after) (firstStart maxBytes).after

def secondBoot : Event Move Bool Machine :=
  event step (.boot {} { maxBytes } none ⟨0, 0⟩ 0) (firstCrash maxBytes).after

def secondStart : Event Move Bool Machine := event step (.start {}) (secondBoot maxBytes).after

theorem run_secondStart : Run step (.off {}) ([firstBoot maxBytes, firstStart maxBytes, firstCrash maxBytes] ++
    secondBoot maxBytes :: [secondStart maxBytes]) (secondStart maxBytes).after :=
  ((((Run.start.snoc_event (.boot {} { maxBytes } none ⟨0, 0⟩ 0)).snoc_event (.start {})).snoc_event
    (crashNow (firstStart maxBytes).after)).snoc_event (.boot {} { maxBytes } none ⟨0, 0⟩ 0)).snoc_event (.start {})

end Lifetimes

def firstState : DurableState :=
  { epoch := ⟨1⟩, writtenByBoot := makeBootId {} ⟨0, 0⟩ 0, writtenAt := 0 }

theorem event_crashNow (m : Machine) : (event step (crashNow m) m).after = .off
    ⟨.settled m.disk.journal.visible, .settled m.disk.snapshot.visible, .settled m.disk.temp.visible⟩ := by
  unfold event
  rw [step_crashNow]

theorem firstCrash_after {maxBytes : UInt64} (h : (firstStart maxBytes).after.disk =
    ⟨.settled (some []), .settled (some (frameSnapshot firstState)), .settled none⟩) :
    (firstCrash maxBytes).after =
      .off ⟨.settled (some []), .settled (some (frameSnapshot firstState)), .settled none⟩ := by
  unfold firstCrash
  rw [event_crashNow, h]
  rfl

theorem firstCrash_wide : (firstCrash 4096).after =
    .off ⟨.settled (some []), .settled (some (frameSnapshot firstState)), .settled none⟩ :=
  firstCrash_after rfl

def secondStore : Store :=
  { config := { maxBytes := 4096 }
    disk := ⟨.settled (some []), .settled (some (frameSnapshot firstState)), .settled none⟩
    journal := { isOpen := true }
    opened := true }

theorem recoverFrom_secondStore :
    recoverFrom secondStore = replayOnto firstState (frameSnapshot firstState).length {} [] := by
  have hread : readSnapshot secondStore.config.maxBytes (some (frameSnapshot firstState)) =
      { state := .ok firstState, bytes := (frameSnapshot firstState).length } :=
    readSnapshot_frame (valid_of_validateState rfl) (by rw [length_frameSnapshot]; decide)
  have hrecovered := recoverFrom_accepted (s := secondStore) rfl (congrArg SnapshotRead.state hread) rfl
  rwa [hread] at hrecovered

def secondGovernor : Governor Store :=
  Governor.adopt
    { config := { store := some { maxBytes := 4096 } }
      world := secondStore
      boot := makeBootId {} ⟨0, 0⟩ 0
      epoch := ⟨1⟩
      storeOpen := true }
    (replayOnto firstState (frameSnapshot firstState).length {} [])

theorem secondBoot_wide : (secondBoot 4096).after = .recovered secondGovernor ∧
    (secondBoot 4096).out = true := by
  have hopen : call openStore (durableStore.attach { maxBytes := 4096 } { disk := secondStore.disk }) =
      (.ok (), secondStore) := rfl
  have hrecover := recover_opened
    (g := { config := { store := some { maxBytes := 4096 } }, world := { disk := secondStore.disk } })
    rfl ⟨0, 0⟩ 0 hopen
  rw [recoverFrom_secondStore] at hrecover
  have hstep : step (.boot {} { maxBytes := 4096 } none ⟨0, 0⟩ 0) (.off secondStore.disk) =
      (true, .recovered secondGovernor) := by
    unfold step
    dsimp only
    rw [hrecover]
    rfl
  unfold secondBoot
  rw [firstCrash_wide]
  exact ⟨congrArg Prod.snd hstep, congrArg Prod.fst hstep⟩

theorem secondStart_wide : Serves (secondStart 4096) ⟨2⟩ := by
  unfold secondStart
  rw [secondBoot_wide.1]
  exact ⟨_, rfl, rfl⟩

theorem unsaturated_of {epoch : CoordinatorEpoch} (h : ∀ g, e.after.governor = some g → g.epoch = epoch)
    (hne : epoch.value ≠ kUInt64Max) : Unsaturated e := by
  intro g hg
  rwa [h g hg]

theorem serves_unsaturated {epoch : CoordinatorEpoch} (h : Serves e epoch) (hne : epoch.value ≠ kUInt64Max) :
    Unsaturated e := by
  obtain ⟨c, hc, hepoch⟩ := h
  refine unsaturated_of (fun g hg ↦ ?_) hne
  rw [hc] at hg
  rw [← Option.some.inj hg]
  exact hepoch

theorem firstStart_wide : Serves (firstStart 4096) ⟨1⟩ := ⟨_, rfl, rfl⟩

theorem unsaturated_wide : ∀ e ∈ [firstBoot 4096, firstStart 4096, firstCrash 4096] ++
    secondBoot 4096 :: [secondStart 4096], Unsaturated e := by
  simp only [List.cons_append, List.nil_append, List.forall_mem_cons]
  refine ⟨?_, serves_unsaturated firstStart_wide (by decide), ?_, ?_,
    serves_unsaturated secondStart_wide (by decide), by simp⟩
  · intro g hg
    rw [← Option.some.inj hg]
    decide
  · intro g hg
    rw [firstCrash_wide] at hg
    cases hg
  · intro g hg
    rw [secondBoot_wide.1] at hg
    rw [← Option.some.inj hg]
    decide

theorem undamaged_secondStart (maxBytes : UInt64) :
    ¬ Damaged ([firstBoot maxBytes, firstStart maxBytes, firstCrash maxBytes] ++
      secondBoot maxBytes :: [secondStart maxBytes]) := by
  rintro ⟨e, he, content, hop⟩
  simp only [List.cons_append, List.nil_append, List.mem_cons, List.not_mem_nil, or_false] at he
  rcases he with rfl | rfl | rfl | rfl | rfl <;> cases hop

theorem found_wide : ∀ e ∈ [firstBoot 4096, firstStart 4096, firstCrash 4096] ++
    secondBoot 4096 :: [secondStart 4096], ∀ config store power process now content,
    e.op = .boot config store power process now → e.before.disk.snapshot.visible = some content →
    store = { maxBytes := 4096 } ∧ content = frameSnapshot firstState := by
  simp only [List.cons_append, List.nil_append, List.forall_mem_cons]
  refine ⟨?_, nofun, nofun, ?_, nofun, by simp⟩
  · intro config store power process now content hop hvisible
    cases hvisible
  · intro config store power process now content hop hvisible
    have hfound : (secondBoot 4096).before.disk.snapshot.visible = some (frameSnapshot firstState) := by
      unfold secondBoot
      rw [firstCrash_wide]
      rfl
    rw [hfound] at hvisible
    refine ⟨?_, (Option.some.inj hvisible).symm⟩
    cases hop
    rfl

theorem fits_wide : ∀ e ∈ [firstBoot 4096, firstStart 4096, firstCrash 4096] ++
    secondBoot 4096 :: [secondStart 4096], Fits e := by
  intro e he config store power process now content hop hvisible
  obtain ⟨rfl, rfl⟩ := found_wide e he config store power process now content hop hvisible
  rw [length_frameSnapshot]
  decide

/-- One epoch is served in the first lifetime, a later one in the second. -/
theorem served_twice : Serves (firstStart 4096) ⟨1⟩ ∧ Serves (secondStart 4096) ⟨2⟩ ∧
    (⟨1⟩ : CoordinatorEpoch) < ⟨2⟩ := by
  refine ⟨firstStart_wide, secondStart_wide, ?_⟩
  exact served_epochs_increase (run_secondStart 4096) (undamaged_secondStart 4096) fits_wide unsaturated_wide rfl
    ⟨secondBoot_wide.2, _, _, _, _, _, rfl⟩ (x := firstStart 4096) (by simp) (y := secondStart 4096) (by simp)
    firstStart_wide secondStart_wide

theorem firstCrash_narrow : (firstCrash 72).after =
    .off ⟨.settled (some []), .settled (some (frameSnapshot firstState)), .settled none⟩ :=
  firstCrash_after rfl

theorem firstStart_narrow : Serves (firstStart 72) ⟨1⟩ := ⟨_, rfl, rfl⟩

theorem secondBoot_narrow : (secondBoot 72).out = true ∧
    ∀ g, (secondBoot 72).after.governor = some g → g.epoch = ⟨1⟩ := by
  unfold secondBoot
  rw [firstCrash_narrow]
  refine ⟨rfl, fun g hg ↦ ?_⟩
  rw [← Option.some.inj hg]
  rfl

theorem secondStart_narrow : Serves (secondStart 72) ⟨1⟩ := by
  unfold secondStart secondBoot
  rw [firstCrash_narrow]
  exact ⟨_, rfl, rfl⟩

/-- Seventy-two bytes hold the record of an epoch change and the body of the state it leads to, but not
the file around that body: the second lifetime serves the epoch of the first. -/
theorem served_epoch_repeats : Run step (.off {}) ([firstBoot 72, firstStart 72, firstCrash 72] ++
      secondBoot 72 :: [secondStart 72]) (secondStart 72).after ∧
    ¬ Damaged ([firstBoot 72, firstStart 72, firstCrash 72] ++ secondBoot 72 :: [secondStart 72]) ∧
    (∀ e ∈ [firstBoot 72, firstStart 72, firstCrash 72] ++ secondBoot 72 :: [secondStart 72], Unsaturated e) ∧
    Boots (secondBoot 72) ∧ Serves (firstStart 72) ⟨1⟩ ∧ Serves (secondStart 72) ⟨1⟩ := by
  refine ⟨run_secondStart 72, undamaged_secondStart 72, ?_, ⟨secondBoot_narrow.1, _, _, _, _, _, rfl⟩,
    firstStart_narrow, secondStart_narrow⟩
  simp only [List.cons_append, List.nil_append, List.forall_mem_cons]
  refine ⟨?_, serves_unsaturated firstStart_narrow (by decide), ?_,
    unsaturated_of secondBoot_narrow.2 (by decide), serves_unsaturated secondStart_narrow (by decide), by simp⟩
  · intro g hg
    rw [← Option.some.inj hg]
    decide
  · intro g hg
    rw [firstCrash_narrow] at hg
    cases hg

/-- A boot that finds a snapshot which is rejected finds a journal that is too long as well. -/
def Refusing (e : Event Move Bool Machine) : Prop :=
  ∀ config store power process now content failure, e.op = .boot config store power process now →
    e.before.disk.snapshot.visible = some content →
    (readSnapshot store.maxBytes (some content)).state = .error failure →
    e.before.disk.journal.contents.length > store.maxBytes.toNat

/-- Over a rejected snapshot a recovery fails exactly when the journal is too long to open. Where that
is so at every boot, whatever is installed after a recovery is past all that was committed before. -/
theorem rejected_snapshot_refused (g : Governor Store) {store : StoreConfig}
    (hstore : g.config.store = some store) (hpower : g.world.power = none) (process : Process) (now : Millis) :
    (∀ content failure, g.world.disk.snapshot.visible = some content →
      (readSnapshot store.maxBytes (some content)).state = .error failure →
      ((∃ e, (g.recover durableStore process now).1 = .error e) ↔
        g.world.disk.journal.contents.length > store.maxBytes.toNat)) ∧
    ∀ disk past m, Run step (.off disk) past m → (∀ e ∈ past, Refusing e) →
      (∀ e ∈ past, Unsaturated e) →
      ∀ pre b post, past = pre ++ b :: post → Boots b →
        ∀ x ∈ pre, ∀ y ∈ post, ∀ old new, Commits x old → Installs y new → old < new := by
  constructor
  · intro content failure _ _
    exact recover_error_iff hstore hpower process now
  · rintro disk past m h hrefusing hmax pre b post hpast hb x hx y hy old new hold ⟨-, -, g, hg, rfl⟩
    refine epochs_advance h ?_ hpast hb hx hy (Or.inr hold) hg
    intro pre' e post' he
    have hmem : e ∈ past := by simp [he]
    refine ⟨?_, hmax e hmem⟩
    intro config store power process now content hop hvisible
    cases hread : (readSnapshot store.maxBytes (some content)).state with
    | ok state => exact Or.inl ⟨state, rfl⟩
    | error failure =>
      exact Or.inr (Or.inl (hrefusing e hmem config store power process now content failure hop hvisible hread))

theorem refusing_wide : ∀ e ∈ [firstBoot 4096, firstStart 4096, firstCrash 4096] ++
    secondBoot 4096 :: [secondStart 4096], Refusing e := by
  intro e he config store power process now content failure hop hvisible hread
  obtain ⟨rfl, rfl⟩ := found_wide e he config store power process now content hop hvisible
  rw [readSnapshot_frame (valid_of_validateState rfl) (by rw [length_frameSnapshot]; decide)] at hread
  cases hread

def crowded : Governor Store :=
  { config := { store := some { maxBytes := 0 } }
    world := { disk := { snapshot := .settled (some [0]), journal := .settled (some [0]) } } }

/-- Recovery over the crowded directory fails, and the second of two lifetimes installs an epoch past the
one that the first committed. -/
theorem crowded_refused : (∃ e, (crowded.recover durableStore ⟨0, 0⟩ 0).1 = .error e) ∧
    Commits (firstStart 4096) ⟨1⟩ ∧ Installs (secondStart 4096) ⟨2⟩ ∧
      (⟨1⟩ : CoordinatorEpoch) < ⟨2⟩ := by
  have hcommits : Commits (firstStart 4096) ⟨1⟩ := ⟨rfl, rfl, _, rfl, rfl⟩
  have hinstalls : Installs (secondStart 4096) ⟨2⟩ := by
    unfold secondStart
    rw [secondBoot_wide.1]
    exact ⟨Or.inl ⟨_, rfl⟩, rfl, _, rfl, rfl⟩
  obtain ⟨hrefused, hadvance⟩ := rejected_snapshot_refused crowded rfl rfl ⟨0, 0⟩ 0
  refine ⟨(hrefused [0] _ rfl rfl).mpr (by decide), hcommits, hinstalls, ?_⟩
  exact hadvance _ _ _ (run_secondStart 4096) refusing_wide unsaturated_wide _ _ _ rfl
    ⟨secondBoot_wide.2, _, _, _, _, _, rfl⟩ (firstStart 4096) (by simp) (secondStart 4096) (by simp) _ _
    hcommits hinstalls

def damaged : Event Move Bool Machine := event step (.damage [0]) (firstCrash 4096).after

def damagedBoot : Event Move Bool Machine :=
  event step (.boot {} { maxBytes := 4096 } none ⟨0, 0⟩ 0) damaged.after

def damagedStart : Event Move Bool Machine := event step (.start {}) damagedBoot.after

theorem damaged_after : damaged.after = .off ⟨.settled (some []), .settled (some [0]), .settled none⟩ := by
  unfold damaged
  rw [firstCrash_wide]
  rfl

/-- A snapshot of one byte is rejected, the recovery over it succeeds, and the next start installs the
epoch that the lifetime before has committed. -/
theorem rejected_snapshot_forgotten :
    (readSnapshot 4096 (some [0])).state =
      Status.failure .persistenceTruncated "snapshot header is incomplete" ∧
    (Governor.recover durableStore ⟨0, 0⟩ 0
      { config := { store := some { maxBytes := 4096 } }
        world := { disk := ⟨.settled (some []), .settled (some [0]), .settled none⟩ } }).1 = .ok () ∧
    Run step (.off {}) ([firstBoot 4096, firstStart 4096, firstCrash 4096, damaged] ++
      damagedBoot :: [damagedStart]) damagedStart.after ∧
    Boots damagedBoot ∧ Commits (firstStart 4096) ⟨1⟩ ∧ Installs damagedStart ⟨1⟩ := by
  have hrun : Run step (.off {}) ([firstBoot 4096, firstStart 4096, firstCrash 4096, damaged] ++
      damagedBoot :: [damagedStart]) damagedStart.after :=
    (((((Run.start.snoc_event (.boot {} { maxBytes := 4096 } none ⟨0, 0⟩ 0)).snoc_event (.start {})).snoc_event
      (crashNow (firstStart 4096).after)).snoc_event (.damage [0])).snoc_event
      (.boot {} { maxBytes := 4096 } none ⟨0, 0⟩ 0)).snoc_event (.start {})
  refine ⟨rfl, rfl, hrun, ?_, ⟨rfl, rfl, _, rfl, rfl⟩, ?_⟩
  · unfold damagedBoot
    rw [damaged_after]
    exact ⟨rfl, _, _, _, _, _, rfl⟩
  · unfold damagedStart damagedBoot
    rw [damaged_after]
    exact ⟨Or.inl ⟨_, rfl⟩, rfl, _, rfl, rfl⟩

end HotspotGovernor.Restart
