import HotspotGovernor.Escalation
import HotspotGovernor.Coverage
import HotspotGovernor.Persistence

namespace HotspotGovernor.Accounting

open Foundation Lib Topology TopologyIndex Evidence Authority Detection Sampling Hotspots Detect
open Admissibility Components Reporting Persistence Ratio Coverage

theorem le_satAdd (a x : UInt64) : a ≤ satAdd a x := by
  have ha := a.toNat_lt
  rw [UInt64.le_iff_toNat_le, satAdd_toNat]
  omega

theorem satAdd_le_satAdd {a b x y : UInt64} (h : a ≤ b) (hxy : x ≤ y) : satAdd a x ≤ satAdd b y := by
  rw [UInt64.le_iff_toNat_le] at h hxy
  rw [UInt64.le_iff_toNat_le, satAdd_toNat, satAdd_toNat]
  omega

theorem ratioPpm_le_scale {part whole : UInt64} (h : part ≤ whole) :
    (ratioPpm part whole).getD 0 ≤ 1000000 := by
  by_cases hw : whole = 0
  · have hnone : ratioPpm part whole = none := by simp only [ratioPpm, if_pos hw]
    rw [hnone]
    exact UInt32.zero_le
  · obtain ⟨v, hv, hcode⟩ := ratioPpm_spec part hw
    have hpos := toNat_pos hw
    have hle : codePpm part.toNat whole.toNat ≤ exactPpm part.toNat whole.toNat := codePpm_le hpos
    have hmono : exactPpm part.toNat whole.toNat ≤ exactPpm whole.toNat whole.toNat :=
      exactPpm_mono (UInt64.le_iff_toNat_le.mp h)
    have hself : exactPpm whole.toNat whole.toNat ≤ 1000000 := by
      rw [exactPpm, Nat.mul_div_cancel_left _ hpos]
      exact min_le_left _ _
    rw [hv, Option.getD_some, UInt32.le_iff_toNat_le, hcode]
    exact (hle.trans hmono).trans hself

/-- What a resource adds to the part of the fabric with a sample, trusted or not. -/
def coveredUnits : Observation → UInt64
  | .measured entry _ => entry.capacityUnits
  | _ => 0

/-- What a resource adds to the admissibly saturated part of the fabric. -/
def saturatedUnits (t : Thresholds) (o : Observation) : UInt64 :=
  if (o.cell t).saturated then admissibleUnits t o else 0

variable (t : Thresholds)

theorem admissible_of_saturated {entry : ResourceCapacity} {sample : ResourceSignals}
    (h : (measureCell t entry sample).saturated = true) : admissible t entry sample = true :=
  (Bool.and_eq_true_iff.mp h).1

theorem saturatedUnits_le (o : Observation) : saturatedUnits t o ≤ admissibleUnits t o := by
  unfold saturatedUnits
  split
  · exact UInt64.le_refl _
  · exact UInt64.zero_le

theorem admissibleUnits_le_covered (o : Observation) : admissibleUnits t o ≤ coveredUnits o := by
  cases o with
  | measured entry sample => exact admissibleUnits_le t _
  | _ => exact UInt64.le_refl _

theorem coveredUnits_le (o : Observation) : coveredUnits o ≤ usableUnits o := by
  cases o with
  | measured entry sample => exact UInt64.le_refl _
  | _ => exact UInt64.zero_le

-- both are stated for variables, for the reason that `admissibleCapacity_unseen` is
theorem coveredCapacity_unseen (tally : Tally) (units : UInt64) (stale : ℕ) :
    ({ tally with fabricCapacity := units, staleCount := stale } : Tally).coveredCapacity =
      satAdd tally.coveredCapacity 0 := by
  rw [satAdd_zero]

theorem saturatedCapacity_unseen (tally : Tally) (units : UInt64) (stale : ℕ) :
    ({ tally with fabricCapacity := units, staleCount := stale } : Tally).saturatedCapacity =
      satAdd tally.saturatedCapacity 0 := by
  rw [satAdd_zero]

theorem step_coveredCapacity (tally : Tally) (o : Resource × Observation) :
    (tally.step t o).coveredCapacity = satAdd tally.coveredCapacity (coveredUnits o.2) := by
  obtain ⟨r, o⟩ := o
  cases o with
  | unusable =>
    change tally.coveredCapacity = satAdd tally.coveredCapacity 0
    rw [satAdd_zero]
  | silent entry => exact coveredCapacity_unseen tally (satAdd tally.fabricCapacity entry.capacityUnits) _
  | stale entry => exact coveredCapacity_unseen tally (satAdd tally.fabricCapacity entry.capacityUnits) _
  | measured entry sample => exact rfl

theorem step_saturatedCapacity (tally : Tally) (o : Resource × Observation) :
    (tally.step t o).saturatedCapacity = satAdd tally.saturatedCapacity (saturatedUnits t o.2) := by
  obtain ⟨r, o⟩ := o
  cases o with
  | unusable =>
    change tally.saturatedCapacity = satAdd tally.saturatedCapacity 0
    rw [satAdd_zero]
  | silent entry => exact saturatedCapacity_unseen tally (satAdd tally.fabricCapacity entry.capacityUnits) _
  | stale entry => exact saturatedCapacity_unseen tally (satAdd tally.fabricCapacity entry.capacityUnits) _
  | measured entry sample =>
    have hunits : saturatedUnits t (.measured entry sample) =
        if (measureCell t entry sample).saturated then entry.capacityUnits else 0 := by
      change (if (measureCell t entry sample).saturated then admissibleUnits t (.measured entry sample)
        else 0) = _
      by_cases hsat : (measureCell t entry sample).saturated = true
      · rw [if_pos hsat, if_pos hsat, admissibleUnits, if_pos (admissible_of_saturated t hsat)]
      · rw [if_neg hsat, if_neg hsat]
    rw [hunits]
    exact addIf_eq _ _ _

/-- The order of the capacities and counts after some number of resources. -/
structure Ordered (seen : ℕ) (tally : Tally) : Prop where
  saturatedCapacity : tally.saturatedCapacity ≤ tally.admissibleCapacity
  admissibleCapacity : tally.admissibleCapacity ≤ tally.coveredCapacity
  coveredCapacity : tally.coveredCapacity ≤ tally.fabricCapacity
  saturatedCount : tally.saturatedCount ≤ tally.admissibleCount
  admissibleCount : tally.admissibleCount ≤ tally.observedCount
  observedCount : tally.observedCount + tally.unusableCount ≤ seen

theorem ordered_start : Ordered 0 {} where
  saturatedCapacity := UInt64.le_refl _
  admissibleCapacity := UInt64.le_refl _
  coveredCapacity := UInt64.le_refl _
  saturatedCount := le_refl _
  admissibleCount := le_refl _
  observedCount := le_refl _

/-- A resource is saturated only if admissible, admissible only if observed, and observed or unusable
but not both. -/
theorem step_counts (tally : Tally) (o : Resource × Observation) :
    ∃ saturated admissible observed unusable, saturated ≤ admissible ∧ admissible ≤ observed ∧
      observed + unusable ≤ 1 ∧ (tally.step t o).saturatedCount = tally.saturatedCount + saturated ∧
      (tally.step t o).admissibleCount = tally.admissibleCount + admissible ∧
      (tally.step t o).observedCount = tally.observedCount + observed ∧
      (tally.step t o).unusableCount = tally.unusableCount + unusable := by
  obtain ⟨r, o⟩ := o
  cases o with
  | unusable => exact ⟨0, 0, 0, 1, le_refl _, le_refl _, le_refl _, rfl, rfl, rfl, rfl⟩
  | silent entry => exact ⟨0, 0, 0, 0, le_refl _, le_refl _, Nat.zero_le _, rfl, rfl, rfl, rfl⟩
  | stale entry => exact ⟨0, 0, 0, 0, le_refl _, le_refl _, Nat.zero_le _, rfl, rfl, rfl, rfl⟩
  | measured entry sample =>
    have himp : (measureCell t entry sample).saturated = true →
        (measureCell t entry sample).admissible = true := admissible_of_saturated t
    exact ⟨(measureCell t entry sample).saturated.toNat, (measureCell t entry sample).admissible.toNat, 1, 0,
      Bool.toNat_le_toNat himp, Bool.toNat_le _, le_refl _, rfl, rfl, rfl, rfl⟩

theorem Ordered.step {seen : ℕ} {tally : Tally} (h : Ordered seen tally) (o : Resource × Observation) :
    Ordered (seen + 1) (tally.step t o) := by
  obtain ⟨saturated, admissible, observed, unusable, hsat, hadm, hobs, hs, ha, ho, hu⟩ := step_counts t tally o
  constructor
  · rw [step_saturatedCapacity, step_admissibleCapacity]
    exact satAdd_le_satAdd h.saturatedCapacity (saturatedUnits_le t o.2)
  · rw [step_admissibleCapacity, step_coveredCapacity]
    exact satAdd_le_satAdd h.admissibleCapacity (admissibleUnits_le_covered t o.2)
  · rw [step_coveredCapacity, step_fabricCapacity]
    exact satAdd_le_satAdd h.coveredCapacity (coveredUnits_le o.2)
  · rw [hs, ha]
    exact Nat.add_le_add h.saturatedCount hsat
  · rw [ha, ho]
    exact Nat.add_le_add h.admissibleCount hadm
  · have hcount := h.observedCount
    omega

theorem Ordered.foldl {seen : ℕ} {tally : Tally} (h : Ordered seen tally)
    (obs : List (Resource × Observation)) : Ordered (seen + obs.length) (obs.foldl (Tally.step t) tally) := by
  induction obs generalizing seen tally with
  | nil => exact h
  | cons o obs ih =>
    have hrest := ih (h.step t o)
    rw [List.length_cons, add_comm obs.length 1, ← add_assoc]
    exact hrest

theorem ordered_tallyOf (ev : BoundEvidence) (now : Millis) :
    Ordered ev.topology.resources.length (tallyOf ev t now) := by
  have h := ordered_start.foldl t (observations ev t now)
  rwa [zero_add, observations, List.length_map] at h

theorem tallyOf_saturatedCapacity (ev : BoundEvidence) (now : Millis) :
    (tallyOf ev t now).saturatedCapacity.toNat =
      min ((observations ev t now).map (fun o ↦ (saturatedUnits t o.2).toNat)).sum (2 ^ 64 - 1) := by
  rw [tallyOf, foldl_saturating t (step_saturatedCapacity t)]
  simp

section

variable {input : DecisionInput} {ev : BoundEvidence} {binding : EvidenceBinding}

def entryUnits (scene : Scene) (index : ℕ) : UInt64 :=
  match scene.evidence.capacity.find (scene.resourceId index) with
  | none => 0
  | some entry => entry.capacityUnits

theorem componentCapacity_eq (scene : Scene) (component : List ℕ) : scene.componentCapacity component =
    component.foldl (fun total i ↦ satAdd total (entryUnits scene i)) 0 := by
  unfold Scene.componentCapacity entryUnits
  congr 1
  funext total i
  cases scene.evidence.capacity.find (scene.resourceId i) with
  | none => exact (satAdd_zero total).symm
  | some entry => rfl

theorem foldl_satAdd {α : Type} (units : α → UInt64) (xs : List α) (total : UInt64) :
    (xs.foldl (fun total x ↦ satAdd total (units x)) total).toNat =
      min (total.toNat + (xs.map (fun x ↦ (units x).toNat)).sum) (2 ^ 64 - 1) := by
  induction xs generalizing total with
  | nil => rw [List.foldl_nil, List.map_nil, List.sum_nil, add_zero, min_max_toNat]
  | cons x xs ih =>
    rw [List.foldl_cons, ih, satAdd_toNat, List.map_cons, List.sum_cons]
    omega

theorem componentCapacity_toNat (scene : Scene) (component : List ℕ) :
    (scene.componentCapacity component).toNat =
      min (component.map (fun i ↦ (entryUnits scene i).toNat)).sum (2 ^ 64 - 1) := by
  rw [componentCapacity_eq, foldl_satAdd, UInt64.toNat_zero, zero_add]

/-- What a position adds to the saturated capacity of the fabric; positions past the end add nothing. -/
def positionUnits (ev : BoundEvidence) (t : Thresholds) (now : Millis) (index : ℕ) : ℕ :=
  ((observations ev t now).map (fun o ↦ (saturatedUnits t o.2).toNat)).getD index 0

theorem entryUnits_of_saturated {i : ℕ} (h : (sceneOf input ev binding).saturatedAt i = true) :
    (entryUnits (sceneOf input ev binding) i).toNat = positionUnits ev input.thresholds input.now i := by
  obtain ⟨r, hr, hs⟩ := saturatedAt_iff.mp h
  have hid : (sceneOf input ev binding).resourceId i = r.id := resourceId_of_getElem? hr
  have hcell := (observe_saturated_iff (List.mem_of_getElem? hr)).mpr hs
  have hobs : positionUnits ev input.thresholds input.now i =
      (saturatedUnits input.thresholds (observe ev input.thresholds input.now r)).toNat := by
    simp [positionUnits, observations, List.getD_eq_getElem?_getD, hr]
  obtain ⟨-, entry, sample, hentry, hsample, hu, hcap, hage, hmiss, -⟩ := hs
  have hmeasured : observe ev input.thresholds input.now r = .measured entry sample := by
    simp [observe, hentry, hsample, hu, hcap, hage, hmiss]
  rw [hmeasured] at hobs hcell
  have hadm := admissible_of_saturated input.thresholds hcell
  have hunits : saturatedUnits input.thresholds (.measured entry sample) = entry.capacityUnits := by
    rw [saturatedUnits, if_pos hcell, admissibleUnits, if_pos hadm]
  have hfind : (sceneOf input ev binding).evidence.capacity.find
      ((sceneOf input ev binding).resourceId i) = some entry := by
    rw [hid]
    exact hentry
  rw [hobs, hunits, entryUnits, hfind]

theorem sum_positionUnits_le {component : List ℕ} (hnodup : component.Nodup)
    (hrange : ∀ i ∈ component, i < ev.topology.resources.length) (now : Millis) :
    (component.map (positionUnits ev t now)).sum ≤
      ((observations ev t now).map (fun o ↦ (saturatedUnits t o.2).toNat)).sum := by
  set units := (observations ev t now).map (fun o ↦ (saturatedUnits t o.2).toNat) with hunits
  have hlength : units.length = ev.topology.resources.length := by simp [hunits, observations]
  have hall : (List.range units.length).map (positionUnits ev t now) = units := by
    apply List.ext_getElem
    · simp
    · intro i h₁ h₂
      simp [positionUnits, ← hunits, List.getD_eq_getElem?_getD, h₂]
  have hsub : component.Subperm (List.range units.length) := by
    apply List.subperm_of_subset hnodup
    intro i hi
    exact List.mem_range.mpr (hlength ▸ hrange i hi)
  obtain ⟨sorted, hperm, hsublist⟩ := hsub
  calc (component.map (positionUnits ev t now)).sum
      = (sorted.map (positionUnits ev t now)).sum := (hperm.map _).sum_eq.symm
    _ ≤ ((List.range units.length).map (positionUnits ev t now)).sum :=
        (hsublist.map _).sum_le_sum (fun _ _ ↦ Nat.zero_le _)
    _ = units.sum := by rw [hall]

/-- A component never holds more capacity than the accounting found saturated, however both sums
saturate on the way. -/
theorem componentCapacity_le (hbuilt : ev.topology.built = true) {component : List ℕ}
    (hc : component ∈ (sceneOf input ev binding).components) :
    (sceneOf input ev binding).componentCapacity component ≤
      (tallyOf ev input.thresholds input.now).saturatedCapacity := by
  have hg : Grouped input ev binding := grouped hbuilt
  have hsat : ∀ i ∈ component, (sceneOf input ev binding).saturatedAt i = true :=
    fun i hi ↦ (hg.mem_iff i).mp (List.mem_flatten.mpr ⟨component, hc, hi⟩)
  have hrange : ∀ i ∈ component, i < ev.topology.resources.length := by
    intro i hi
    obtain ⟨r, hr, -⟩ := saturatedAt_iff.mp (hsat i hi)
    exact (List.getElem?_eq_some_iff.mp hr).1
  have hnodup : component.Nodup := (List.nodup_flatten.mp hg.nodup).1 component hc
  have hsum := sum_positionUnits_le input.thresholds hnodup hrange input.now
  have heq : component.map (fun i ↦ (entryUnits (sceneOf input ev binding) i).toNat) =
      component.map (positionUnits ev input.thresholds input.now) :=
    List.map_congr_left (fun i hi ↦ entryUnits_of_saturated (hsat i hi))
  rw [UInt64.le_iff_toNat_le, componentCapacity_toNat, tallyOf_saturatedCapacity, heq]
  exact min_le_min_right _ hsum

end

def figures (r : FabricAssessment) : FabricAssessment :=
  { fabricCapacityUnits := r.fabricCapacityUnits
    coveredCapacityUnits := r.coveredCapacityUnits
    admissibleCapacityUnits := r.admissibleCapacityUnits
    saturatedCapacityUnits := r.saturatedCapacityUnits
    coveragePpm := r.coveragePpm
    admissibleCoveragePpm := r.admissibleCoveragePpm
    capacityCoveragePpm := r.capacityCoveragePpm
    globalSharePpm := r.globalSharePpm
    resourceCount := r.resourceCount
    observedCount := r.observedCount
    admissibleCount := r.admissibleCount
    saturatedCount := r.saturatedCount
    unknownCapacityCount := r.unknownCapacityCount }

@[simp] theorem figures_diagnose (r : FabricAssessment) (code : ErrorCode) (detail : String) :
    figures (r.diagnose code detail) = figures r := by
  unfold FabricAssessment.diagnose
  split <;> rfl

@[simp] theorem figures_record {α : Type} (r : FabricAssessment) (f : Finding α) :
    figures (r.record f) = figures r := by
  unfold FabricAssessment.record
  cases f.diagnostic with
  | none => rfl
  | some d => exact figures_diagnose _ _ _

@[simp] theorem figures_grant (r : FabricAssessment) (domain : AuthorityDomain) (reason binding : String) :
    figures (r.grant domain reason binding) = figures r := rfl

@[simp] theorem figures_deny (r : FabricAssessment) (domain : AuthorityDomain) (reason binding : String) :
    figures (r.deny domain reason binding) = figures r := rfl

@[simp] theorem figures_opening (input : DecisionInput) : figures (opening input) = {} := by
  simp only [opening, figures_record]
  rfl

@[simp] theorem figures_recordEvidence (input : DecisionInput) (topology : TopologySnapshot) :
    figures (recordEvidence input topology) = {} := by
  simp only [recordEvidence, figures_record, figures_grant, figures_opening]

@[simp] theorem figures_trackingRecord (input : DecisionInput) (r : FabricAssessment) :
    figures (trackingRecord input r) = figures r := by
  unfold trackingRecord
  split
  · rfl
  · rw [figures_diagnose, figures_deny]

@[simp] theorem figures_historyRecord (input : DecisionInput) (st : Collection) (r : FabricAssessment) :
    figures (historyRecord input st r) = figures r := by
  unfold historyRecord
  dsimp only
  split <;> split <;> simp only [figures_diagnose]

@[simp] theorem figures_verdict (r : FabricAssessment) : figures (verdict r) = figures r := by
  unfold verdict
  split <;> rfl

@[simp] theorem figures_escalate (input : DecisionInput) (r : FabricAssessment) :
    figures (escalate input r) = figures r := by
  unfold escalate
  split <;> rfl

@[simp] theorem figures_close (r : FabricAssessment) : figures (close r) = figures r := rfl

@[simp] theorem figures_refuse (input : DecisionInput) (r : FabricAssessment) (f : Refusal) :
    figures (refuse input r f).1 = figures r :=
  (figures_diagnose _ _ _).trans (figures_deny _ _ _ _)

theorem localize_eq_close (input : DecisionInput) (ev : BoundEvidence) (r : FabricAssessment) :
    ∃ q, figures q = figures r ∧ (localize input ev r).1 = close (escalate input (verdict q)) := by
  refine ⟨historyRecord input (collectAll (sceneOf input ev (trackingRecord input r).binding)
    (trackingRecord input r).authority) _, ?_, rfl⟩
  rw [figures_historyRecord]
  exact figures_trackingRecord input r

theorem figures_localize (input : DecisionInput) (ev : BoundEvidence) (r : FabricAssessment) :
    figures (localize input ev r).1 = figures r := by
  obtain ⟨q, hq, hout⟩ := localize_eq_close input ev r
  rw [hout, figures_close, figures_escalate, figures_verdict, hq]

/-- Detection gets past the references, and so to the accounting, on this evidence. -/
structure Accounted (input : DecisionInput) (ev : BoundEvidence) : Prop where
  topology : input.topology.filter TopologySnapshot.built = some ev.topology
  fresh : ev.topology.freshAt input.now = true
  evidence : (findingsOf input ev.topology).evidence ev.topology = some ev
  populated : ev.topology.resources.length ≠ 0
  references : referenceRefusal input ev = none

/-- The accounting that an evaluation reports on this evidence, whatever comes after it. -/
def accountOf (input : DecisionInput) (ev : BoundEvidence) : FabricAssessment :=
  figures (account (countResources {} ev.topology.resources.length)
    (tallyOf ev input.thresholds input.now))

theorem figures_account (r : FabricAssessment) (n : ℕ) (tally : Tally) :
    figures (account (countResources r n) tally) = figures (account (countResources {} n) tally) := rfl

theorem figures_detectBound {input : DecisionInput} {r : FabricAssessment} (ev : BoundEvidence)
    (hr : figures r = {}) :
    figures (detectBound input ev r).1 = { resourceCount := ev.topology.resources.length } ∨
    (ev.topology.resources.length ≠ 0 ∧ referenceRefusal input ev = none ∧
      figures (detectBound input ev r).1 = accountOf input ev) := by
  have hcount : figures (countResources r ev.topology.resources.length) =
      { resourceCount := ev.topology.resources.length } := by
    change { figures r with resourceCount := ev.topology.resources.length } = _
    rw [hr]
  have haccount := figures_account r ev.topology.resources.length (tallyOf ev input.thresholds input.now)
  unfold detectBound
  dsimp only
  by_cases hn : ev.topology.resources.length = 0
  · rw [if_pos hn]
    exact Or.inl hcount
  · rw [if_neg hn]
    cases href : referenceRefusal input ev with
    | some f => exact Or.inl ((figures_refuse _ _ f).trans hcount)
    | none =>
      refine Or.inr ⟨hn, rfl, ?_⟩
      dsimp only
      cases coverageRefusal input.thresholds (tallyOf ev input.thresholds input.now)
          ev.topology.resources.length with
      | some f => exact (figures_refuse _ _ f).trans haccount
      | none => exact (figures_localize _ _ _).trans haccount

theorem figures_detect (input : DecisionInput) :
    (∃ n, figures (detect input).1 = { resourceCount := n }) ∨
      ∃ ev, Accounted input ev ∧ figures (detect input).1 = accountOf input ev := by
  unfold detect
  cases ht : input.topology.filter TopologySnapshot.built with
  | none => exact Or.inl ⟨0, (figures_refuse _ _ _).trans (figures_opening input)⟩
  | some topology =>
    dsimp only
    by_cases hf : (!topology.freshAt input.now) = true
    · rw [if_pos hf]
      exact Or.inl ⟨0, (figures_refuse _ _ _).trans (figures_opening input)⟩
    · rw [if_neg hf]
      cases hev : (findingsOf input topology).evidence topology with
      | none => exact Or.inl ⟨0, figures_recordEvidence input topology⟩
      | some ev =>
        obtain rfl := evidence_topology hev
        rcases figures_detectBound ev (figures_recordEvidence input ev.topology)
          with h | ⟨hn, href, h⟩
        · exact Or.inl ⟨_, h⟩
        · exact Or.inr ⟨ev, ⟨ht, by simpa using hf, hev, hn, href⟩, h⟩

/-- The capacities, the counts and the ratios of an assessment are ordered. -/
structure InOrder (r : FabricAssessment) : Prop where
  saturatedCapacity : r.saturatedCapacityUnits ≤ r.admissibleCapacityUnits
  admissibleCapacity : r.admissibleCapacityUnits ≤ r.coveredCapacityUnits
  coveredCapacity : r.coveredCapacityUnits ≤ r.fabricCapacityUnits
  saturatedCount : r.saturatedCount ≤ r.admissibleCount
  admissibleCount : r.admissibleCount ≤ r.observedCount
  observedCount : r.observedCount + r.unknownCapacityCount ≤ r.resourceCount
  coverage : r.coveragePpm ≤ 1000000
  admissibleCoverage : r.admissibleCoveragePpm ≤ 1000000
  capacityCoverage : r.capacityCoveragePpm ≤ 1000000
  globalShare : r.globalSharePpm ≤ 1000000

theorem inOrder_of_figures {r r' : FabricAssessment} (h : InOrder r) (heq : figures r' = figures r) :
    InOrder r' := by
  have hr : InOrder (figures r) := ⟨h.1, h.2, h.3, h.4, h.5, h.6, h.7, h.8, h.9, h.10⟩
  rw [← heq] at hr
  exact ⟨hr.1, hr.2, hr.3, hr.4, hr.5, hr.6, hr.7, hr.8, hr.9, hr.10⟩

theorem inOrder_empty (n : ℕ) : InOrder { resourceCount := n } := by
  constructor <;> simp

theorem capacityCoveragePpm_le (tally : Tally) {n : ℕ} (hn : n < 2 ^ 64) :
    tally.capacityCoveragePpm n ≤ 1000000 := by
  apply ratioPpm_le_scale
  rw [UInt64.le_iff_toNat_le, UInt64.toNat_ofNat', UInt64.toNat_ofNat', Nat.mod_eq_of_lt hn,
    Nat.mod_eq_of_lt (lt_of_le_of_lt (Nat.sub_le n _) hn)]
  exact Nat.sub_le n _

theorem inOrder_account {n : ℕ} {tally : Tally} (h : Ordered n tally) (hn : n < 2 ^ 64) :
    InOrder (account (countResources {} n) tally) where
  saturatedCapacity := h.saturatedCapacity
  admissibleCapacity := h.admissibleCapacity
  coveredCapacity := h.coveredCapacity
  saturatedCount := h.saturatedCount
  admissibleCount := h.admissibleCount
  observedCount := h.observedCount
  coverage := ratioPpm_le_scale h.coveredCapacity
  admissibleCoverage := ratioPpm_le_scale (UInt64.le_trans h.admissibleCapacity h.coveredCapacity)
  capacityCoverage := capacityCoveragePpm_le tally hn
  globalShare := ratioPpm_le_scale (UInt64.le_trans h.saturatedCapacity
    (UInt64.le_trans h.admissibleCapacity h.coveredCapacity))

theorem confidencePpm_le (a : Attribution) : a.confidencePpm ≤ 1000000 := by
  unfold Attribution.confidencePpm
  dsimp only
  split_ifs
  · exact UInt32.zero_le
  · exact UInt32.zero_le
  · exact ratioPpm_le_scale (le_satAdd _ _)

/-- Whatever the capacities are and wherever a sum saturates, the accounting of an evaluation is in
order, and no reported component exceeds the whole it is a part of. -/
theorem accounting_ordered (input : DecisionInput) : InOrder (detect input).1 ∧
    ∀ h ∈ (detect input).1.hotspots ++ (detect input).1.candidates,
      h.sharePpm ≤ 1000000 ∧ h.attributionConfidencePpm ≤ 1000000 ∧
        h.saturatedCapacityUnits ≤ (detect input).1.saturatedCapacityUnits := by
  constructor
  · rcases figures_detect input with ⟨n, hn⟩ | ⟨ev, hev, hfig⟩
    · exact inOrder_of_figures (inOrder_empty n) hn
    · have hbuilt := (Option.filter_eq_some_iff.mp hev.topology).2
      have hcount : ev.topology.resources.length < 2 ^ 64 :=
        lt_of_le_of_lt (built_validated hbuilt).resourceCount (by decide)
      exact inOrder_of_figures (inOrder_account (ordered_tallyOf _ ev _) hcount) hfig
  · intro h hh
    obtain ⟨ev, hadm, component, hc, authority, rfl⟩ := reported_component hh
    have hle := componentCapacity_le (gates_of_admitted hadm).built hc
    have horder := ordered_tallyOf input.thresholds ev input.now
    have hfabric := UInt64.le_trans hle (UInt64.le_trans horder.saturatedCapacity
      (UInt64.le_trans horder.admissibleCapacity horder.coveredCapacity))
    refine ⟨ratioPpm_le_scale hfabric, confidencePpm_le _, ?_⟩
    have hfig := congrArg (fun r ↦ (figures r.1).saturatedCapacityUnits) (detect_eq_localize hadm)
    rw [figures_localize] at hfig
    exact hfig ▸ hle

end HotspotGovernor.Accounting
