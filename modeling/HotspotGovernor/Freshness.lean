import HotspotGovernor.Ranking
import HotspotGovernor.Verdicts

namespace HotspotGovernor.Freshness

open Foundation Lib Topology TopologyIndex Evidence Detection Sampling Hotspots Detect
open Admissibility Components Reporting Verdicts Demand Ranking SortedList

def Within (observed now : Millis) (bound : UInt32) : Prop :=
  observed.toInt ≤ now.toInt ∧ now.toInt - observed.toInt ≤ bound.toNat

instance (observed now : Millis) (bound : UInt32) : Decidable (Within observed now bound) :=
  inferInstanceAs (Decidable (_ ∧ _))

theorem ageMs_eq_elapsedMs {observed now : Millis} (ho : observed ≠ kNoTime) (hn : now ≠ kNoTime)
    (hle : observed ≤ now) : ageMs observed now = elapsedMs observed now := by
  have hmissing : ¬ (observed = kNoTime ∨ now = kNoTime) := not_or.mpr ⟨ho, hn⟩
  rw [ageMs, elapsedMs, if_neg hmissing, if_neg hmissing, if_neg (Int64.not_lt.mpr hle)]
  by_cases hsame : now ≤ observed
  · obtain rfl := Int64.le_antisymm hle hsame
    rw [if_pos hsame, UInt64.sub_self]
    rfl
  · rw [if_neg hsame]
    dsimp only
    generalize now.toUInt64 - observed.toUInt64 = delta
    by_cases hmax : delta = kMaxTime.toUInt64
    · subst hmax
      rfl
    · have hne : delta.toNat ≠ kMaxTime.toUInt64.toNat := fun h ↦ hmax (UInt64.toNat_inj.mp h)
      simp only [ge_iff_le, gt_iff_lt, UInt64.le_iff_toNat_le, UInt64.lt_iff_toNat_lt]
      split <;> split <;> first | rfl | omega

theorem within_of_ageMs {observed now : Millis} {bound : UInt32} (h : ageMs observed now ≤ millis bound) :
    Within observed now bound := by
  have hbound := bound.toNat_lt
  have hmax : kMaxTime.toInt = 2 ^ 63 - 1 := rfl
  rw [Int64.le_iff_toInt_le, millis_toInt] at h
  have hne : ageMs observed now ≠ kMaxTime := by
    intro heq
    rw [heq, hmax] at h
    omega
  by_cases hmissing : observed = kNoTime ∨ now = kNoTime
  · exact absurd (if_pos hmissing) hne
  · by_cases hfuture : now < observed
    · refine absurd ?_ hne
      rw [ageMs, if_neg hmissing, if_pos hfuture]
    · rw [not_or] at hmissing
      have hle := Int64.not_lt.mp hfuture
      rw [ageMs_eq_elapsedMs hmissing.1 hmissing.2 hle, elapsedMs_toInt hmissing.1 hmissing.2] at h
      rw [Int64.le_iff_toInt_le] at hle
      exact ⟨hle, by omega⟩

/-- Everything that a verdict rests on was observed within the time that the policy permits. -/
structure InAge (input : DecisionInput) (ev : BoundEvidence) (r : FabricAssessment) : Prop where
  topology : Within ev.topology.validFrom input.now input.thresholds.maxTopologyAgeMs
  capacity : Within ev.capacity.observedAt input.now input.thresholds.maxCapacityAgeMs
  samples : ∀ resource ∈ ev.topology.resources,
    ((observe ev input.thresholds input.now resource).cell input.thresholds).admissible = true →
      ∃ sample, ev.signals.find resource.id = some sample ∧
        Within sample.observedAt input.now input.thresholds.maxSignalAgeMs
  paths : ∀ h ∈ r.hotspots ++ r.candidates, h.contributors ≠ [] → ∃ paths, ev.paths = some paths ∧
    Within paths.observedAt input.now input.thresholds.maxPathAgeMs
  traffic : ∀ h ∈ r.hotspots ++ r.candidates, ∀ c ∈ h.contributors, ∃ counted : List TrafficRecord,
    (∀ record ∈ counted, record ∈ boundRecords ev ∧ record.flow = c.flow ∧
      Within record.observedAt input.now input.thresholds.maxTrafficAgeMs) ∧
    c.demandBps.toNat = min (counted.map (fun record ↦ record.demandBps.toNat)).sum (2 ^ 64 - 1)

/-- A verdict on a fabric with resources rests on evidence in its age, unless it is Unknown. -/
def BelievedInAge (input : DecisionInput) : Prop :=
  (detect input).1.scope ≠ .unknown → ∀ topology, input.topology = some topology →
    topology.resources ≠ [] → ∃ ev, admittedEvidence input = some ev ∧ ev.topology = topology ∧
      InAge input ev (detect input).1

section Admitted

variable {input : DecisionInput} {ev : BoundEvidence}

theorem admitted_of_scope (hscope : (detect input).1.scope ≠ .unknown) {topology : TopologySnapshot}
    (htop : input.topology = some topology) (hne : topology.resources ≠ []) :
    ∃ ev, admittedEvidence input = some ev ∧ ev.topology = topology := by
  have hcases := detect_cases input
  cases hadm : admittedEvidence input with
  | some ev =>
    have hsame := (gates_of_admitted hadm).topology.symm.trans htop
    exact ⟨ev, rfl, Option.some.inj hsame⟩
  | none =>
    rw [hadm] at hcases
    rcases hcases with ⟨r, reason, hd, -⟩ | ⟨-, ev, hfilter, -, -, hempty⟩
    · rw [hd] at hscope
      exact absurd rfl hscope
    · have hsame := (Option.filter_eq_some_iff.mp hfilter).1.symm.trans htop
      rw [Option.some.inj hsame] at hempty
      exact absurd hempty hne

theorem samples_inAge {resource : Resource}
    (h : ((observe ev input.thresholds input.now resource).cell input.thresholds).admissible = true) :
    ∃ sample, ev.signals.find resource.id = some sample ∧
      Within sample.observedAt input.now input.thresholds.maxSignalAgeMs := by
  rw [observe] at h
  split at h
  · cases h
  · split at h
    · cases h
    · split at h
      · cases h
      · next sample hsample =>
        split at h
        · cases h
        · next hage =>
          refine ⟨sample, hsample, within_of_ageMs ?_⟩
          rw [tooOld, decide_eq_true_eq] at hage
          exact Int64.not_lt.mp hage

theorem paths_inAge (hadm : admittedEvidence input = some ev) {binding : EvidenceBinding}
    {component : List ℕ} (h : ((sceneOf input ev binding).hotspotOf component).contributors ≠ []) :
    ∃ paths, ev.paths = some paths ∧ Within paths.observedAt input.now input.thresholds.maxPathAgeMs := by
  rcases bound_cases hadm with htraffic | ⟨paths, traffic, hpaths, -, -, -⟩
  · obtain ⟨c, hc⟩ := List.exists_mem_of_ne_nil _ h
    obtain ⟨a, ha, -⟩ := mem_contributors hc
    have hseen := (ledger_attribution hadm _ component).entered _ (List.mem_map_of_mem ha)
    rw [visited_nil htraffic] at hseen
    cases hseen
  · have hfound := pathsFinding_admitted.mp ((gates_of_admitted hadm).paths.trans hpaths)
    exact ⟨paths, hpaths, within_of_ageMs (Int64.not_lt.mp hfound.2.2.2)⟩

theorem traffic_inAge (hadm : admittedEvidence input = some ev) {binding : EvidenceBinding}
    {component : List ℕ} {c : Contributor}
    (hc : c ∈ ((sceneOf input ev binding).hotspotOf component).contributors) :
    ∃ counted : List TrafficRecord, (∀ record ∈ counted, record ∈ boundRecords ev ∧ record.flow = c.flow ∧
        Within record.observedAt input.now input.thresholds.maxTrafficAgeMs) ∧
      c.demandBps.toNat = min (counted.map (fun record ↦ record.demandBps.toNat)).sum (2 ^ 64 - 1) := by
  obtain ⟨a, ha, hflow, hdemand⟩ := mem_contributors hc
  have hledger := ledger_attribution hadm binding component
  set seen := visited ev (component.map (sceneOf input ev binding).resourceId) with hseen
  refine ⟨seen.filter (freshIn input.thresholds input.now c.flow), ?_, ?_⟩
  · intro record hmem
    obtain ⟨hrecord, hfresh⟩ := List.mem_filter.mp hmem
    have hacross := (mem_visited hadm).mp hrecord
    rw [freshIn, freshRecord, Bool.and_eq_true, Bool.and_eq_true, decide_eq_true_eq, decide_eq_true_eq]
      at hfresh
    exact ⟨(List.mem_filter.mp hacross).1, hfresh.2, within_of_ageMs hfresh.1.1⟩
  · rw [hdemand, (hledger.holds a ha).total, sum_filter, hflow]
    rfl

end Admitted

/-- For every input: what a verdict rests on is in its age exactly when the topology is. No gate looks
at the age that the policy permits for it, while everything else is held to its own. -/
theorem believed_in_age_iff (input : DecisionInput) : BelievedInAge input ↔
    ∀ ev, admittedEvidence input = some ev →
      Within ev.topology.validFrom input.now input.thresholds.maxTopologyAgeMs := by
  constructor
  · intro h ev hadm
    have hg := gates_of_admitted hadm
    obtain ⟨ev', hadm', -, hage⟩ := h (Coverage.scope_ne_unknown_of_admitted hadm) _ hg.topology
      (fun hnil ↦ hg.populated (List.length_eq_zero_iff.mpr hnil))
    obtain rfl : ev = ev' := Option.some.inj (hadm.symm.trans hadm')
    exact hage.topology
  · intro h hscope topology htop hne
    obtain ⟨ev, hadm, hsame⟩ := admitted_of_scope hscope htop hne
    have hcapacity := capacityFinding_admitted.mp (gates_of_admitted hadm).capacity
    refine ⟨ev, hadm, hsame, h ev hadm, within_of_ageMs (Int64.not_lt.mp hcapacity.2.2.2),
      fun _ _ ↦ samples_inAge, ?_, ?_⟩
    · intro h hh
      obtain ⟨ev', hadm', c, -, authority, rfl⟩ := Persistence.reported_component hh
      obtain rfl : ev = ev' := Option.some.inj (hadm.symm.trans hadm')
      exact paths_inAge hadm
    · intro h hh c hc
      obtain ⟨ev', hadm', component, -, authority, rfl⟩ := Persistence.reported_component hh
      obtain rfl : ev = ev' := Option.some.inj (hadm.symm.trans hadm')
      exact traffic_inAge hadm hc

/-- The three switches of the flow, in a topology that is nine seconds old where five are permitted. -/
def agedInput : DecisionInput :=
  { onceInput with
    topology := threeSwitches.toOption.map (fun s ↦ s.setValidity 1000 0)
    policy := some { thresholds := { maxTopologyAgeMs := 5000 } } }

theorem aged_topology_believed : (detect agedInput).1.scope = .global ∧ ¬ BelievedInAge agedInput := by
  have hscope : (detect agedInput).1.scope = .global := by decide +kernel
  refine ⟨hscope, fun h ↦ ?_⟩
  have hsome : agedInput.topology.isSome = true := by decide +kernel
  obtain ⟨topology, htop⟩ := Option.isSome_iff_exists.mp hsome
  have hlen : agedInput.topology.map (fun s ↦ (s.resources.length, s.validFrom)) = some (3, 1000) := by
    decide +kernel
  rw [htop, Option.map_some, Option.some_inj, Prod.mk.injEq] at hlen
  have hne : topology.resources ≠ [] := by
    intro hnil
    rw [hnil] at hlen
    cases hlen.1
  obtain ⟨ev, -, rfl, hage⟩ := h (by rw [hscope]; simp) topology htop hne
  have hwithin := hage.topology
  rw [hlen.2] at hwithin
  revert hwithin
  decide

end HotspotGovernor.Freshness
