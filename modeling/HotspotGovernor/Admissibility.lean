import HotspotGovernor.Detect

namespace HotspotGovernor.Admissibility

open Foundation Lib Topology Evidence Authority Detection Sampling Hotspots Detect

/-- The part of an assessment that findings, diagnostics and accounting never touch. -/
def core (r : FabricAssessment) : List Hotspot × List Hotspot × Bool × EvidenceBinding :=
  (r.hotspots, r.candidates, r.escalationRequired, r.binding)

@[simp] theorem core_diagnose (r : FabricAssessment) (code : ErrorCode) (detail : String) :
    core (r.diagnose code detail) = core r := by
  unfold FabricAssessment.diagnose
  split <;> rfl

@[simp] theorem core_record {α : Type} (r : FabricAssessment) (f : Finding α) :
    core (r.record f) = core r := by
  unfold FabricAssessment.record
  cases f.diagnostic with
  | none => rfl
  | some d => exact core_diagnose _ _ _

@[simp] theorem core_grant (r : FabricAssessment) (domain : AuthorityDomain) (reason binding : String) :
    core (r.grant domain reason binding) = core r := rfl

@[simp] theorem core_deny (r : FabricAssessment) (domain : AuthorityDomain) (reason binding : String) :
    core (r.deny domain reason binding) = core r := rfl

@[simp] theorem core_account (r : FabricAssessment) (tally : Tally) : core (account r tally) = core r := rfl

@[simp] theorem core_opening (input : DecisionInput) :
    core (opening input) = ([], [], false, recordBinding input) := by
  simp only [opening, core_record]
  rfl

@[simp] theorem core_recordEvidence (input : DecisionInput) (topology : TopologySnapshot) :
    core (recordEvidence input topology) = ([], [], false, recordBinding input) := by
  simp only [recordEvidence, core_record, core_grant, core_opening]

def admittedEvidence (input : DecisionInput) : Option BoundEvidence :=
  match input.topology.filter TopologySnapshot.built with
  | none => none
  | some topology =>
    if !topology.freshAt input.now then none
    else
      match (findingsOf input topology).evidence topology with
      | none => none
      | some ev =>
        if topology.resources.length = 0 ∨ (referenceRefusal input ev).isSome ∨
            (coverageRefusal input.thresholds (tallyOf ev input.thresholds input.now)
              topology.resources.length).isSome then none
        else some ev

/-- The outcome of a rejected evaluation: a verdict, an empty report and an emptied tracker. -/
def Rejected (input : DecisionInput) (scope : CongestionScope)
    (outcome : FabricAssessment × Option SaturationTracker) : Prop :=
  ∃ r reason, outcome = reject input r scope reason ∧ core r = ([], [], false, recordBinding input)

def Localized (input : DecisionInput) (ev : BoundEvidence)
    (outcome : FabricAssessment × Option SaturationTracker) : Prop :=
  ∃ r, outcome = localize input ev (account r (tallyOf ev input.thresholds input.now)) ∧
    core r = ([], [], false, recordBinding input)

theorem evidence_topology {f : Findings} {topology : TopologySnapshot} {ev : BoundEvidence}
    (h : f.evidence topology = some ev) : ev.topology = topology := by
  unfold Findings.evidence at h
  split at h
  · exact (congrArg BoundEvidence.topology (Option.some.inj h)).symm
  · cases h

theorem rejected_refuse {input : DecisionInput} {r : FabricAssessment}
    (hr : core r = ([], [], false, recordBinding input)) (f : Refusal) :
    Rejected input .unknown (refuse input r f) := by
  refine ⟨_, _, rfl, ?_⟩
  rw [core_diagnose, core_deny, hr]

theorem detectBound_cases {input : DecisionInput} {r : FabricAssessment} (ev : BoundEvidence)
    (hr : core r = ([], [], false, recordBinding input)) :
    (ev.topology.resources.length = 0 ∧ Rejected input .none (detectBound input ev r)) ∨
    (ev.topology.resources.length ≠ 0 ∧
      ((referenceRefusal input ev).isSome ∨ (coverageRefusal input.thresholds
        (tallyOf ev input.thresholds input.now) ev.topology.resources.length).isSome) ∧
      Rejected input .unknown (detectBound input ev r)) ∨
    (ev.topology.resources.length ≠ 0 ∧ referenceRefusal input ev = none ∧
      coverageRefusal input.thresholds (tallyOf ev input.thresholds input.now)
        ev.topology.resources.length = none ∧ Localized input ev (detectBound input ev r)) := by
  have hcount : core (countResources r ev.topology.resources.length) =
      ([], [], false, recordBinding input) := hr
  have haccount := (core_account (countResources r ev.topology.resources.length)
    (tallyOf ev input.thresholds input.now)).trans hcount
  unfold detectBound
  dsimp only
  by_cases hn : ev.topology.resources.length = 0
  · rw [if_pos hn]
    exact Or.inl ⟨hn, _, _, rfl, hcount⟩
  · rw [if_neg hn]
    refine Or.inr ?_
    cases href : referenceRefusal input ev with
    | some f => exact Or.inl ⟨hn, Or.inl rfl, rejected_refuse hcount f⟩
    | none =>
      dsimp only
      cases hcov : coverageRefusal input.thresholds (tallyOf ev input.thresholds input.now)
          ev.topology.resources.length with
      | some f => exact Or.inl ⟨hn, Or.inr rfl, rejected_refuse haccount f⟩
      | none => exact Or.inr ⟨hn, rfl, rfl, _, rfl, hcount⟩

theorem detect_cases (input : DecisionInput) :
    match admittedEvidence input with
    | some ev => Localized input ev (detect input)
    | none => Rejected input .unknown (detect input) ∨ (Rejected input .none (detect input) ∧
        ∃ ev, input.topology.filter TopologySnapshot.built = some ev.topology ∧
          ev.topology.freshAt input.now = true ∧
          (findingsOf input ev.topology).evidence ev.topology = some ev ∧ ev.topology.resources = []) := by
  unfold admittedEvidence detect
  cases ht : input.topology.filter TopologySnapshot.built with
  | none => exact Or.inl (rejected_refuse (core_opening input) _)
  | some topology =>
    dsimp only
    by_cases hf : (!topology.freshAt input.now) = true
    · rw [if_pos hf, if_pos hf]
      exact Or.inl (rejected_refuse (core_opening input) _)
    · rw [if_neg hf, if_neg hf]
      cases hev : (findingsOf input topology).evidence topology with
      | none => exact Or.inl ⟨_, _, rfl, core_recordEvidence input topology⟩
      | some ev =>
        obtain rfl := evidence_topology hev
        dsimp only
        rcases detectBound_cases ev (core_recordEvidence input ev.topology)
          with ⟨hn, h⟩ | ⟨hn, hrefused, h⟩ | ⟨hn, href, hcov, h⟩
        · rw [if_pos (Or.inl hn)]
          exact Or.inr ⟨h, ev, rfl, by simpa using hf, hev, List.length_eq_zero_iff.mp hn⟩
        · rw [if_pos (Or.inr hrefused)]
          exact Or.inl h
        · rw [if_neg]
          · exact h
          · rw [href, hcov]
            simpa using hn

theorem guarded_admitted {α : Type} {a b : α} {p q : α → Prop} [Decidable (p a)] [Decidable (q a)]
    {stranger stale bound : Finding α} (hstranger : stranger.admitted = none) (hstale : stale.admitted = none)
    (hbound : bound.admitted = some a) :
    (if p a then stranger else if q a then stale else bound).admitted = some b ↔ a = b ∧ ¬ p b ∧ ¬ q b := by
  split
  · next hp =>
    refine iff_of_false (by simp [hstranger]) ?_
    rintro ⟨rfl, hp', -⟩
    exact hp' hp
  · next hp =>
    split
    · next hq =>
      refine iff_of_false (by simp [hstale]) ?_
      rintro ⟨rfl, -, hq'⟩
      exact hq' hq
    · next hq =>
      rw [hbound, Option.some.injEq]
      constructor
      · rintro rfl
        exact ⟨rfl, hp, hq⟩
      · intro h
        exact h.1

theorem capacityFinding_admitted {input : DecisionInput} {topology : TopologySnapshot}
    {capacity : CapacitySnapshot} : (capacityFinding input topology).admitted = some capacity ↔
      input.capacity = some capacity ∧ capacity.built = true ∧
        capacity.topologyGeneration = topology.generation ∧
        ¬ ageMs capacity.observedAt input.now > millis input.thresholds.maxCapacityAgeMs := by
  rw [← and_assoc, ← Option.filter_eq_some_iff]
  unfold capacityFinding
  split
  · next h => simp [h, Finding.refuse]
  · next c h =>
    rw [h, Option.some.injEq]
    refine (guarded_admitted (p := fun c : CapacitySnapshot ↦ c.topologyGeneration ≠ topology.generation)
      (q := fun c ↦ ageMs c.observedAt input.now > millis input.thresholds.maxCapacityAgeMs) rfl rfl rfl).trans ?_
    rw [not_not]

theorem signalsFinding_admitted {input : DecisionInput} {topology : TopologySnapshot}
    {capacity : Option CapacitySnapshot} {signals : SignalSnapshot} :
    (signalsFinding input topology capacity).admitted = some signals ↔
      ∃ c, capacity = some c ∧ input.signals = some signals ∧ signals.built = true ∧
        signals.topologyGeneration = topology.generation ∧ signals.capacityGeneration = c.generation := by
  unfold signalsFinding
  split
  · simp
  · next c =>
    have hcap : (∃ c', some c = some c' ∧ input.signals = some signals ∧ signals.built = true ∧
        signals.topologyGeneration = topology.generation ∧ signals.capacityGeneration = c'.generation) ↔
        (input.signals.filter SignalSnapshot.built = some signals ∧
          signals.topologyGeneration = topology.generation ∧
          signals.capacityGeneration = c.generation) := by
      simp [Option.filter_eq_some_iff, and_assoc]
    rw [hcap]
    split
    · next h => simp [h, Finding.refuse]
    · next s h =>
      rw [h, Option.some.injEq]
      refine (guarded_admitted (p := fun s : SignalSnapshot ↦ s.topologyGeneration ≠ topology.generation)
        (q := fun s ↦ s.capacityGeneration ≠ c.generation) rfl rfl rfl).trans ?_
      rw [not_not, not_not]

theorem pathsFinding_admitted {input : DecisionInput} {topology : TopologySnapshot}
    {paths : PathSnapshot} : (pathsFinding input topology).admitted = some paths ↔
      input.paths = some paths ∧ paths.built = true ∧ paths.topologyGeneration = topology.generation ∧
        ¬ ageMs paths.observedAt input.now > millis input.thresholds.maxPathAgeMs := by
  rw [← and_assoc, ← Option.filter_eq_some_iff]
  unfold pathsFinding
  split
  · next h => simp [h, Finding.refuse]
  · next p h =>
    rw [h, Option.some.injEq]
    refine (guarded_admitted (p := fun p : PathSnapshot ↦ p.topologyGeneration ≠ topology.generation)
      (q := fun p ↦ ageMs p.observedAt input.now > millis input.thresholds.maxPathAgeMs) rfl rfl rfl).trans ?_
    rw [not_not]

/-- Everything that holds of the evidence an evaluation works on. -/
structure Gates (input : DecisionInput) (ev : BoundEvidence) : Prop where
  topology : input.topology = some ev.topology
  built : ev.topology.built = true
  fresh : ev.topology.freshAt input.now = true
  capacity : (capacityFinding input ev.topology).admitted = some ev.capacity
  signals : (signalsFinding input ev.topology (some ev.capacity)).admitted = some ev.signals
  paths : (pathsFinding input ev.topology).admitted = ev.paths
  populated : ev.topology.resources.length ≠ 0
  references : referenceRefusal input ev = none
  coverage : coverageRefusal input.thresholds (tallyOf ev input.thresholds input.now)
    ev.topology.resources.length = none

theorem evidence_eq_some {f : Findings} {topology : TopologySnapshot} {ev : BoundEvidence}
    (h : f.evidence topology = some ev) : f.capacity.admitted = some ev.capacity ∧
      f.signals.admitted = some ev.signals ∧ f.paths.admitted = ev.paths := by
  unfold Findings.evidence at h
  split at h
  · next c s hc hs =>
    obtain rfl := Option.some.inj h
    exact ⟨hc, hs, rfl⟩
  · cases h

theorem gates_of_admitted {input : DecisionInput} {ev : BoundEvidence}
    (h : admittedEvidence input = some ev) : Gates input ev := by
  unfold admittedEvidence at h
  split at h
  · cases h
  · next topology ht =>
    split at h
    · cases h
    · next hf =>
      split at h
      · cases h
      · next ev' hev =>
        split at h
        · cases h
        · next hg =>
          obtain rfl := Option.some.inj h
          obtain rfl := evidence_topology hev
          obtain ⟨htop, hbuilt⟩ := Option.filter_eq_some_iff.mp ht
          obtain ⟨hc, hs, hp⟩ := evidence_eq_some hev
          rw [not_or, not_or] at hg
          refine ⟨htop, hbuilt, by simpa using hf, hc, ?_, hp, hg.1, by simpa using hg.2.1,
            by simpa using hg.2.2⟩
          rw [← hc]
          exact hs

theorem evidence_of_admitted {input : DecisionInput} {ev : BoundEvidence}
    (h : admittedEvidence input = some ev) :
    (findingsOf input ev.topology).evidence ev.topology = some ev := by
  have hg := gates_of_admitted h
  have htop : input.topology.filter TopologySnapshot.built = some ev.topology :=
    Option.filter_eq_some_iff.mpr ⟨hg.topology, hg.built⟩
  simp only [admittedEvidence, htop, hg.fresh, Bool.not_true, Bool.false_eq_true, if_false] at h
  split at h
  · cases h
  · next ev' hev =>
    split at h
    · cases h
    · rw [hev, Option.some.inj h]

theorem detect_eq_localize {input : DecisionInput} {ev : BoundEvidence}
    (h : admittedEvidence input = some ev) : detect input = localize input ev (account
      (countResources (recordEvidence input ev.topology) ev.topology.resources.length)
      (tallyOf ev input.thresholds input.now)) := by
  have hg := gates_of_admitted h
  have htop : input.topology.filter TopologySnapshot.built = some ev.topology :=
    Option.filter_eq_some_iff.mpr ⟨hg.topology, hg.built⟩
  have hev := evidence_of_admitted h
  unfold detect
  simp only [htop, hg.fresh, Bool.not_true, Bool.false_eq_true, if_false, hev]
  unfold detectBound
  simp only [if_neg hg.populated, hg.references, hg.coverage]

theorem Gates.now_ne {input : DecisionInput} {ev : BoundEvidence} (h : Gates input ev) :
    input.now ≠ kNoTime := by
  intro hnow
  obtain ⟨-, -, -, hage⟩ := capacityFinding_admitted.mp h.capacity
  apply hage
  rw [hnow, ageMs_noTime, gt_iff_lt, Int64.lt_iff_toInt_lt, millis_toInt]
  have hd := input.thresholds.maxCapacityAgeMs.toNat_lt
  have hm : kMaxTime.toInt = 2 ^ 63 - 1 := rfl
  omega

end HotspotGovernor.Admissibility
