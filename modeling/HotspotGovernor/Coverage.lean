import HotspotGovernor.Ratio
import HotspotGovernor.Unknown
import HotspotGovernor.Verdicts

namespace HotspotGovernor.Coverage

open Foundation Lib Topology Evidence Detection Sampling Detect Admissibility Unknown Ratio Verdicts

/-- What a resource adds to the fabric: the capacity of every usable entry, observed or not. -/
def usableUnits : Observation → UInt64
  | .unusable => 0
  | .silent entry => entry.capacityUnits
  | .stale entry => entry.capacityUnits
  | .measured entry _ => entry.capacityUnits

/-- What a resource adds to the admissibly observed part of the fabric. -/
def admissibleUnits (t : Thresholds) : Observation → UInt64
  | .measured entry sample => if admissible t entry sample then entry.capacityUnits else 0
  | _ => 0

section

variable (ev : BoundEvidence) (t : Thresholds) (now : Millis)

def usableCapacity : ℕ := ((observations ev t now).map (fun o ↦ (usableUnits o.2).toNat)).sum

def admissibleCapacity : ℕ := ((observations ev t now).map (fun o ↦ (admissibleUnits t o.2).toNat)).sum

end

variable (t : Thresholds)

theorem admissibleUnits_le (o : Observation) : admissibleUnits t o ≤ usableUnits o := by
  cases o with
  | measured entry sample =>
    simp only [admissibleUnits, usableUnits]
    split
    · exact UInt64.le_refl _
    · exact UInt64.zero_le
  | _ => exact UInt64.zero_le

theorem admissibleCapacity_le (ev : BoundEvidence) (now : Millis) :
    admissibleCapacity ev t now ≤ usableCapacity ev t now := by
  apply List.sum_le_sum
  intro o _
  exact UInt64.le_iff_toNat_le.mp (admissibleUnits_le t o.2)

theorem min_max_toNat (x : UInt64) : min x.toNat (2 ^ 64 - 1) = x.toNat := by
  have h := x.toNat_lt
  exact min_eq_left (by omega)

theorem satAdd_zero (x : UInt64) : satAdd x 0 = x := by
  apply UInt64.toNat_inj.mp
  rw [satAdd_toNat, UInt64.toNat_zero, add_zero, min_max_toNat]

theorem step_fabricCapacity (tally : Tally) (o : Resource × Observation) :
    (tally.step t o).fabricCapacity = satAdd tally.fabricCapacity (usableUnits o.2) := by
  obtain ⟨r, o⟩ := o
  cases o with
  | unusable => simp only [Tally.step, usableUnits, satAdd_zero]
  | _ => simp only [Tally.step, usableUnits]

theorem addIf_eq (condition : Bool) (total amount : UInt64) :
    Tally.addIf condition total amount = satAdd total (if condition then amount else 0) := by
  cases condition with
  | false => rw [Tally.addIf, if_neg Bool.false_ne_true, if_neg Bool.false_ne_true, satAdd_zero]
  | true => rw [Tally.addIf, if_pos rfl, if_pos rfl]

-- stated for a variable, so that the kernel never unfolds the saturating sum it stands for
theorem admissibleCapacity_unseen (tally : Tally) (units : UInt64) (stale : ℕ) :
    ({ tally with fabricCapacity := units, staleCount := stale } : Tally).admissibleCapacity =
      satAdd tally.admissibleCapacity 0 := by
  rw [satAdd_zero]

theorem step_admissibleCapacity (tally : Tally) (o : Resource × Observation) :
    (tally.step t o).admissibleCapacity = satAdd tally.admissibleCapacity (admissibleUnits t o.2) := by
  obtain ⟨r, o⟩ := o
  cases o with
  | unusable =>
    change tally.admissibleCapacity = satAdd tally.admissibleCapacity 0
    rw [satAdd_zero]
  | silent entry => exact admissibleCapacity_unseen tally (satAdd tally.fabricCapacity entry.capacityUnits) _
  | stale entry => exact admissibleCapacity_unseen tally (satAdd tally.fabricCapacity entry.capacityUnits) _
  | measured entry sample => exact addIf_eq _ _ _

theorem foldl_saturating {field : Tally → UInt64} {units : Resource × Observation → UInt64}
    (hstep : ∀ tally o, field (tally.step t o) = satAdd (field tally) (units o))
    (obs : List (Resource × Observation)) (tally : Tally) :
    (field (obs.foldl (Tally.step t) tally)).toNat =
      min ((field tally).toNat + (obs.map (fun o ↦ (units o).toNat)).sum) (2 ^ 64 - 1) := by
  induction obs generalizing tally with
  | nil => rw [List.foldl_nil, List.map_nil, List.sum_nil, add_zero, min_max_toNat]
  | cons o obs ih =>
    rw [List.foldl_cons, ih, hstep, satAdd_toNat, List.map_cons, List.sum_cons]
    omega

theorem tallyOf_fabricCapacity (ev : BoundEvidence) (now : Millis) :
    (tallyOf ev t now).fabricCapacity.toNat = min (usableCapacity ev t now) (2 ^ 64 - 1) := by
  rw [tallyOf, foldl_saturating t (step_fabricCapacity t)]
  simp [usableCapacity]

theorem tallyOf_admissibleCapacity (ev : BoundEvidence) (now : Millis) :
    (tallyOf ev t now).admissibleCapacity.toNat = min (admissibleCapacity ev t now) (2 ^ 64 - 1) := by
  rw [tallyOf, foldl_saturating t (step_admissibleCapacity t)]
  simp [admissibleCapacity]

theorem admissibleCoveragePpm_toNat {tally : Tally} (h : tally.fabricCapacity ≠ 0) :
    tally.admissibleCoveragePpm.toNat =
      codePpm tally.admissibleCapacity.toNat tally.fabricCapacity.toNat := by
  obtain ⟨v, hv, heq⟩ := ratioPpm_spec tally.admissibleCapacity h
  rw [Tally.admissibleCoveragePpm, hv, Option.getD_some, heq]

theorem codePpm_saturated {part : ℕ} (h : part < 2 ^ 64 - 1) : codePpm part (2 ^ 64 - 1) = 0 := by
  have hq : part / (2 ^ 64 - 1) = 0 := Nat.div_eq_of_lt h
  have hr : part % (2 ^ 64 - 1) = part := Nat.mod_eq_of_lt h
  rw [codePpm, hq, hr]
  split <;> omega

theorem codePpm_self {whole : ℕ} (h : 0 < whole) : codePpm whole whole = 1000000 := by
  rw [codePpm, Nat.div_self h, Nat.mod_self]
  norm_num

theorem floor_of_codePpm {floor admissible usable : ℕ} (hle : admissible ≤ usable) (hpos : 0 < usable)
    (h : usable < 2 ^ 64 ∨ admissible < 2 ^ 64 - 1)
    (hfloor : floor ≤ codePpm (min admissible (2 ^ 64 - 1)) (min usable (2 ^ 64 - 1))) :
    floor * usable ≤ 1000000 * admissible := by
  by_cases husable : usable < 2 ^ 64
  · rw [min_eq_left (show usable ≤ 2 ^ 64 - 1 by omega),
      min_eq_left (show admissible ≤ 2 ^ 64 - 1 by omega)] at hfloor
    have hdiv : floor ≤ admissible * 1000000 / usable :=
      (hfloor.trans (codePpm_le hpos)).trans (min_le_left _ _)
    rw [mul_comm 1000000]
    exact (Nat.le_div_iff_mul_le hpos).mp hdiv
  · have hlt : admissible < 2 ^ 64 - 1 := h.resolve_left husable
    rw [min_eq_right (show 2 ^ 64 - 1 ≤ usable by omega), min_eq_left hlt.le, codePpm_saturated hlt]
      at hfloor
    rw [Nat.le_zero.mp hfloor, Nat.zero_mul]
    exact Nat.zero_le _

theorem codePpm_both_saturated {admissible usable : ℕ} (ha : 2 ^ 64 - 1 ≤ admissible)
    (hu : 2 ^ 64 ≤ usable) :
    codePpm (min admissible (2 ^ 64 - 1)) (min usable (2 ^ 64 - 1)) = 1000000 := by
  rw [min_eq_right ha, min_eq_right (show 2 ^ 64 - 1 ≤ usable by omega)]
  exact codePpm_self (by norm_num)

section

variable (input : DecisionInput) (ev : BoundEvidence)

/-- The evidence passes every gate in front of the telemetry floor. -/
structure Presented : Prop where
  topology : input.topology.filter TopologySnapshot.built = some ev.topology
  fresh : ev.topology.freshAt input.now = true
  evidence : (findingsOf input ev.topology).evidence ev.topology = some ev
  populated : ev.topology.resources.length ≠ 0
  references : referenceRefusal input ev = none
  capacityFloor : input.thresholds.minCoveragePpm ≤
    (tallyOf ev input.thresholds input.now).capacityCoveragePpm ev.topology.resources.length

/-- The capacity of every usable resource, over unbounded integers. -/
def fabricUnits : ℕ := usableCapacity ev input.thresholds input.now

/-- The capacity of every admissibly observed resource, over unbounded integers. -/
def observedUnits : ℕ := admissibleCapacity ev input.thresholds input.now

def BothSaturate : Prop := 2 ^ 64 ≤ fabricUnits input ev ∧ 2 ^ 64 - 1 ≤ observedUnits input ev

end

/-- The sums of the evidence whose generations the input binds meet the policy floor. -/
def FloorMet (input : DecisionInput) : Prop :=
  ∃ ev : BoundEvidence, Supplied input ev.topology ev.capacity ev.signals ∧
    input.thresholds.minCoveragePpm.toNat * fabricUnits input ev ≤ 1000000 * observedUnits input ev

/-- Evidence that reads as fully covered, although the true sums miss the floor. -/
def Masked (input : DecisionInput) : Prop :=
  ∃ ev, Presented input ev ∧ BothSaturate input ev ∧ input.thresholds.minCoveragePpm ≤ 1000000 ∧
    1000000 * observedUnits input ev < input.thresholds.minCoveragePpm.toNat * fabricUnits input ev

variable {input : DecisionInput} {ev : BoundEvidence}

theorem coverageRefusal_eq_none {t : Thresholds} {tally : Tally} {n : ℕ} :
    coverageRefusal t tally n = none ↔ tally.fabricCapacity ≠ 0 ∧
      t.minCoveragePpm ≤ tally.capacityCoveragePpm n ∧ t.minCoveragePpm ≤ tally.admissibleCoveragePpm := by
  simp only [coverageRefusal]
  split_ifs with hfabric hcap hadm
  · simp [hfabric]
  · simp [UInt32.not_le.mpr hcap]
  · simp [UInt32.not_le.mpr hadm]
  · simp [hfabric, UInt32.not_lt.mp hcap, UInt32.not_lt.mp hadm]

theorem admittedEvidence_iff : admittedEvidence input = some ev ↔
    Presented input ev ∧ (tallyOf ev input.thresholds input.now).fabricCapacity ≠ 0 ∧
      input.thresholds.minCoveragePpm ≤ (tallyOf ev input.thresholds input.now).admissibleCoveragePpm := by
  constructor
  · intro h
    have hg := gates_of_admitted h
    obtain ⟨hfabric, hcap, hadm⟩ := coverageRefusal_eq_none.mp hg.coverage
    have htop : input.topology.filter TopologySnapshot.built = some ev.topology :=
      Option.filter_eq_some_iff.mpr ⟨hg.topology, hg.built⟩
    exact ⟨⟨htop, hg.fresh, evidence_of_admitted h, hg.populated, hg.references, hcap⟩, hfabric, hadm⟩
  · rintro ⟨hp, hfabric, hadm⟩
    have hcov := coverageRefusal_eq_none.mpr ⟨hfabric, hp.capacityFloor, hadm⟩
    simp only [admittedEvidence, hp.topology, hp.fresh, Bool.not_true, Bool.false_eq_true, if_false, hp.evidence,
      hp.populated, hp.references, hcov, Option.isSome_none, or_self]

theorem admitted_of_bothSaturate (hp : Presented input ev) (hs : BothSaturate input ev)
    (hmin : input.thresholds.minCoveragePpm ≤ 1000000) : admittedEvidence input = some ev := by
  have hf := tallyOf_fabricCapacity input.thresholds ev input.now
  have ha := tallyOf_admissibleCapacity input.thresholds ev input.now
  have hfabric : (tallyOf ev input.thresholds input.now).fabricCapacity ≠ 0 := by
    intro h
    have hlarge : 2 ^ 64 ≤ usableCapacity ev input.thresholds input.now := hs.1
    rw [h, UInt64.toNat_zero, min_eq_right (show 2 ^ 64 - 1 ≤ _ by omega)] at hf
    norm_num at hf
  refine admittedEvidence_iff.mpr ⟨hp, hfabric, ?_⟩
  rw [UInt32.le_iff_toNat_le, admissibleCoveragePpm_toNat hfabric, hf, ha]
  exact (UInt32.le_iff_toNat_le.mp hmin).trans (codePpm_both_saturated hs.2 hs.1).ge

theorem floor_of_admitted (h : admittedEvidence input = some ev) (hs : ¬BothSaturate input ev) :
    input.thresholds.minCoveragePpm.toNat * fabricUnits input ev ≤ 1000000 * observedUnits input ev := by
  obtain ⟨-, hfabric, hadm⟩ := admittedEvidence_iff.mp h
  have hpos := toNat_pos hfabric
  rw [UInt32.le_iff_toNat_le, admissibleCoveragePpm_toNat hfabric, tallyOf_fabricCapacity,
    tallyOf_admissibleCapacity] at hadm
  rw [tallyOf_fabricCapacity] at hpos
  rw [BothSaturate, not_and_or, not_le, not_le] at hs
  exact floor_of_codePpm (admissibleCapacity_le _ ev _) (lt_of_lt_of_le hpos (min_le_left _ _)) hs hadm

theorem supplied_of_evidence (htop : input.topology.filter TopologySnapshot.built = some ev.topology)
    (hfresh : ev.topology.freshAt input.now = true)
    (hev : (findingsOf input ev.topology).evidence ev.topology = some ev) :
    Supplied input ev.topology ev.capacity ev.signals := by
  obtain ⟨hc, hs, -⟩ := evidence_eq_some hev
  refine supplied_of_findings htop hfresh hc ?_
  rw [← hc]
  exact hs

theorem floorMet_iff (h : Supplied input ev.topology ev.capacity ev.signals) : FloorMet input ↔
    input.thresholds.minCoveragePpm.toNat * fabricUnits input ev ≤ 1000000 * observedUnits input ev := by
  refine ⟨?_, fun hfloor ↦ ⟨ev, h, hfloor⟩⟩
  rintro ⟨ev', h', hfloor⟩
  obtain ⟨topology, capacity, signals, paths, traffic⟩ := ev
  obtain ⟨topology', capacity', signals', paths', traffic'⟩ := ev'
  obtain rfl : topology = topology' := Option.some.inj (h.topologySupplied.symm.trans h'.topologySupplied)
  obtain rfl : capacity = capacity' := Option.some.inj (h.capacitySupplied.symm.trans h'.capacitySupplied)
  obtain rfl : signals = signals' := Option.some.inj (h.signalsSupplied.symm.trans h'.signalsSupplied)
  exact hfloor

theorem floorMet_of_empty (h : Supplied input ev.topology ev.capacity ev.signals)
    (hempty : ev.topology.resources = []) : FloorMet input := by
  refine ⟨ev, h, ?_⟩
  have hobs : observations ev input.thresholds input.now = [] := by
    rw [observations, hempty, List.map_nil]
  rw [fabricUnits, usableCapacity, hobs, List.map_nil, List.sum_nil, Nat.mul_zero]
  exact Nat.zero_le _

theorem scope_ne_unknown_of_admitted (h : admittedEvidence input = some ev) :
    (detect input).1.scope ≠ .unknown := by
  obtain ⟨authority, hh, -, hs⟩ := detect_reports h
  rw [hs]
  split
  · simp
  · apply widest_ne_unknown
    rw [hh, List.forall_mem_map]
    exact fun c _ ↦ classify_ne_none _ _ _ _

/-- A verdict other than Unknown rests on the floor in exact arithmetic as long as not both sums
saturate; where both do, they read as equal, and the floor is met or missed by accident. -/
theorem floorMet_of_verdict_iff (input : DecisionInput) :
    ((∀ ev, Presented input ev → ¬BothSaturate input ev) → (detect input).1.scope ≠ .unknown →
      FloorMet input) ∧
    (((detect input).1.scope ≠ .unknown → FloorMet input) ↔ ¬Masked input) := by
  have hcases := detect_cases input
  cases hadm : admittedEvidence input with
  | none =>
    rw [hadm] at hcases
    have hmet : (detect input).1.scope ≠ .unknown → FloorMet input := by
      intro hscope
      rcases hcases with ⟨r, reason, hd, -⟩ | ⟨-, ev, htop, hfresh, hev, hempty⟩
      · rw [hd] at hscope
        exact absurd rfl hscope
      · exact floorMet_of_empty (supplied_of_evidence htop hfresh hev) hempty
    refine ⟨fun _ ↦ hmet, iff_of_true hmet ?_⟩
    rintro ⟨ev, hp, hs, hmin, -⟩
    rw [admitted_of_bothSaturate hp hs hmin] at hadm
    cases hadm
  | some ev =>
    obtain ⟨hp, -, -⟩ := admittedEvidence_iff.mp hadm
    have hiff := floorMet_iff (supplied_of_evidence hp.topology hp.fresh hp.evidence)
    refine ⟨fun h _ ↦ hiff.mpr (floor_of_admitted hadm (h ev hp)), ?_⟩
    rw [imp_iff_right (scope_ne_unknown_of_admitted hadm), hiff]
    constructor
    · rintro hfloor ⟨ev', hp', hs', hmin, hlt⟩
      rw [admitted_of_bothSaturate hp' hs' hmin, Option.some_inj] at hadm
      subst hadm
      exact absurd hfloor (Nat.not_le.mpr hlt)
    · intro hmasked
      by_contra hfloor
      have hs : BothSaturate input ev := by
        by_contra hs
        exact hfloor (floor_of_admitted hadm hs)
      refine hmasked ⟨ev, hp, hs, ?_, Nat.not_le.mp hfloor⟩
      obtain ⟨-, hfabric, hmin⟩ := admittedEvidence_iff.mp hadm
      rw [UInt32.le_iff_toNat_le, admissibleCoveragePpm_toNat hfabric, tallyOf_fabricCapacity,
        tallyOf_admissibleCapacity] at hmin
      exact UInt32.le_iff_toNat_le.mpr (hmin.trans (codePpm_both_saturated hs.2 hs.1).le)

def fullCapacities : Result CapacitySnapshot :=
  let s := { (default : CapacitySnapshot) with observedAt := 10000 }
  ((s.add { resource := ⟨1⟩, capacityUnits := kUInt64Max }).add
    { resource := ⟨2⟩, capacityUnits := kUInt64Max }).build

def oneSample : Result SignalSnapshot := ((default : SignalSnapshot).add (islandSample 1 10)).build

def halfSeenInput : DecisionInput :=
  { topology := twoIslands.toOption, capacity := fullCapacities.toOption
    signals := oneSample.toOption, now := 10000 }

def halfSeenEvidence : BoundEvidence := (admittedEvidence halfSeenInput).get (by decide +kernel)

theorem halfSeen_below_floor :
    (detect halfSeenInput).1.scope = .none ∧ halfSeenInput.thresholds.minCoveragePpm = 600000 ∧
      fabricUnits halfSeenInput halfSeenEvidence = 2 ^ 65 - 2 ∧
      observedUnits halfSeenInput halfSeenEvidence = 2 ^ 64 - 1 ∧ ¬FloorMet halfSeenInput := by
  have hadm : admittedEvidence halfSeenInput = some halfSeenEvidence := by
    rw [halfSeenEvidence, Option.some_get]
  obtain ⟨hp, -, -⟩ := admittedEvidence_iff.mp hadm
  refine ⟨by decide +kernel, by decide +kernel, by decide +kernel, by decide +kernel, ?_⟩
  rw [floorMet_iff (supplied_of_evidence hp.topology hp.fresh hp.evidence)]
  decide +kernel

end HotspotGovernor.Coverage
