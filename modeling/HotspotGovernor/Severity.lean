import HotspotGovernor.Classification

namespace HotspotGovernor.Severity

open Foundation Lib Topology Evidence Detection Sampling Hotspots Detect
open Admissibility Components Verdicts Escalation Classification SortedList

theorem le_max_or {k a b : UInt32} : k ≤ max a b ↔ k ≤ a ∨ k ≤ b := by
  have hmax : max a b = if a ≤ b then b else a := rfl
  simp only [hmax, UInt32.le_iff_toNat_le]
  split <;> omega

theorem le_foldl_max {α : Type} (f : α → UInt32) (xs : List α) (m k : UInt32) :
    k ≤ xs.foldl (fun m x ↦ max m (f x)) m ↔ k ≤ m ∨ ∃ x ∈ xs, k ≤ f x := by
  induction xs generalizing m with
  | nil => simp
  | cons x xs ih => rw [List.foldl_cons, ih, le_max_or, or_assoc, List.exists_mem_cons_iff]

theorem cell_of_saturatedAt {input : DecisionInput} {ev : BoundEvidence} {binding : EvidenceBinding} {i : ℕ}
    (h : (sceneOf input ev binding).saturatedAt i = true) :
    ∃ entry sample, ev.capacity.find ((sceneOf input ev binding).resourceId i) = some entry ∧
      ev.signals.find ((sceneOf input ev binding).resourceId i) = some sample ∧
      (sceneOf input ev binding).cell i = measureCell input.thresholds entry sample := by
  obtain ⟨r, hr, hs⟩ := saturatedAt_iff.mp h
  obtain ⟨entry, sample, hentry, hsample, husable, hunits, hage, hquality, -⟩ := hs.evidence
  have hid : (sceneOf input ev binding).resourceId i = r.id := resourceId_of_getElem? hr
  refine ⟨entry, sample, hid ▸ hentry, hid ▸ hsample, (cell_of_getElem? hr).trans ?_⟩
  simp [observe, hentry, hsample, husable, hunits, hage, hquality, Observation.cell]

/-- Some resource of the component has a pressure of at least `level`. -/
def Reaches (ev : BoundEvidence) (level : UInt32) (component : List ResourceId) : Prop :=
  ∃ id ∈ component, ∃ entry sample, ev.capacity.find id = some entry ∧ ev.signals.find id = some sample ∧
    (level ≤ utilizationPpm entry sample ∨ level ≤ queuePpm entry sample ∨ level ≤ bufferPpm entry sample)

section Pressure

variable {input : DecisionInput} {ev : BoundEvidence} {binding : EvidenceBinding} {component : List ℕ}

theorem le_peak_iff (hsat : ∀ i ∈ component, (sceneOf input ev binding).saturatedAt i = true)
    {level : UInt32} (hlevel : level ≠ 0) :
    level ≤ (sceneOf input ev binding).peak Cell.pressurePpm component ↔
      Reaches ev level (component.map (sceneOf input ev binding).resourceId) := by
  have hzero : ¬ level ≤ 0 := fun h ↦ hlevel (UInt32.le_zero_iff.mp h)
  rw [Scene.peak, le_foldl_max, or_iff_right hzero]
  constructor
  · rintro ⟨i, hi, hle⟩
    obtain ⟨entry, sample, hentry, hsample, hcell⟩ := cell_of_saturatedAt (hsat i hi)
    rw [hcell] at hle
    exact ⟨_, List.mem_map_of_mem hi, entry, sample, hentry, hsample, by
      simpa [measureCell, le_max_or] using hle⟩
  · rintro ⟨id, hid, entry', sample', hentry', hsample', hle⟩
    obtain ⟨i, hi, rfl⟩ := List.mem_map.mp hid
    obtain ⟨entry, sample, hentry, hsample, hcell⟩ := cell_of_saturatedAt (hsat i hi)
    rw [hentry, Option.some_inj] at hentry'
    rw [hsample, Option.some_inj] at hsample'
    subst hentry' hsample'
    refine ⟨i, hi, ?_⟩
    rw [hcell]
    simpa [measureCell, le_max_or] using hle

end Pressure

/-- When a resource of this evaluation became saturated. -/
def startedAt (input : DecisionInput) (id : ResourceId) : Millis :=
  (nextEntry input.tracker input.now id).firstSaturated

/-- The resource of the component that was the last to become saturated has been so for four
persistence windows. -/
def HeldFourWindows (input : DecisionInput) (component : List ResourceId) : Prop :=
  ∃ id ∈ component, (∀ other ∈ component, startedAt input other ≤ startedAt input id) ∧
    millis input.thresholds.persistenceWindowMs * 4 ≤ elapsedMs (startedAt input id) input.now

theorem foldl_spanStep_mem (entries : List Entry) (h : entries ≠ []) :
    ∃ entry ∈ entries, ((entries.foldl Scene.spanStep none).getD (kNoTime, 0)).1 = entry.firstSaturated := by
  induction entries using List.reverseRecOn with
  | nil => exact absurd rfl h
  | append_singleton entries last ih =>
    rw [List.foldl_append, List.foldl_cons, List.foldl_nil]
    cases hf : entries.foldl Scene.spanStep none with
    | none => exact ⟨last, by simp, rfl⟩
    | some span =>
      have hne : entries ≠ [] := by
        rintro rfl
        cases hf
      obtain ⟨entry, hmem, heq⟩ := ih hne
      rw [hf, Option.getD_some] at heq
      simp only [Scene.spanStep, Option.getD_some]
      split
      · exact ⟨last, by simp, rfl⟩
      · exact ⟨entry, List.mem_append_left _ hmem, heq⟩

theorem heldFourWindows_iff {input : DecisionInput} {ev : BoundEvidence} {binding : EvidenceBinding}
    {component : List ℕ} (hne : component ≠ []) :
    millis input.thresholds.persistenceWindowMs * 4 ≤
        elapsedMs ((sceneOf input ev binding).span component).1 input.now ↔
      HeldFourWindows input (component.map (sceneOf input ev binding).resourceId) := by
  set scene := sceneOf input ev binding with hscene
  have hlast : ∃ i ∈ component, (scene.span component).1 = startedAt input (scene.resourceId i) := by
    obtain ⟨entry, hmem, heq⟩ := foldl_spanStep_mem ((scene.history component).map Prod.snd)
      (by simpa [Scene.history] using hne)
    simp only [Scene.history, List.map_map, List.mem_map] at hmem
    obtain ⟨i, hi, rfl⟩ := hmem
    exact ⟨i, hi, heq⟩
  have hle : ∀ i ∈ component, startedAt input (scene.resourceId i) ≤ (scene.span component).1 :=
    fun i hi ↦ (Persistence.span_le hi).1
  constructor
  · intro h
    obtain ⟨i, hi, heq⟩ := hlast
    refine ⟨_, List.mem_map_of_mem hi, ?_, heq ▸ h⟩
    rw [List.forall_mem_map, ← heq]
    exact hle
  · rintro ⟨id, hid, hall, h⟩
    obtain ⟨i, hi, rfl⟩ := List.mem_map.mp hid
    obtain ⟨j, hj, heq⟩ := hlast
    have hsame : (scene.span component).1 = startedAt input (scene.resourceId i) := by
      apply Int64.le_antisymm
      · rw [heq]
        exact hall _ (List.mem_map_of_mem hj)
      · exact hle i hi
    rw [hsame]
    exact h

theorem raised_ne_none (severity : Severity) : Scene.raised severity ≠ .none := by
  cases severity <;> simp [Scene.raised]

theorem severity_raised_ne_none_iff (severity : Severity) (p : Prop) [Decidable p] :
    (if p then Scene.raised severity else severity) ≠ .none ↔ severity ≠ .none ∨ p := by
  by_cases h : p
  · simp [h, raised_ne_none]
  · simp [h]

theorem classify_ne_none_iff (peak : UInt32) :
    ({} : SeverityBands).classify peak ≠ .none ↔ 900000 ≤ peak := by
  have hbands : ({} : SeverityBands).lowPpm = 900000 ∧ ({} : SeverityBands).moderatePpm = 950000 ∧
      ({} : SeverityBands).highPpm = 990000 ∧ ({} : SeverityBands).criticalPpm = 1100000 :=
    ⟨rfl, rfl, rfl, rfl⟩
  obtain ⟨hlow, hmoderate, hhigh, hcritical⟩ := hbands
  rw [SeverityBands.classify, hlow, hmoderate, hhigh, hcritical]
  simp only [ge_iff_le, UInt32.le_iff_toNat_le, UInt32.reduceToNat]
  split_ifs with h₁ h₂ h₃ h₄
  · simp; omega
  · simp; omega
  · simp; omega
  · simp [h₄]
  · simp [h₄]

/-- With the default bands, every confirmed hotspot has a severity exactly when each confirmed component
reaches the lowest band or has been saturated for four windows. By default the band starts at 900000 ppm,
and a queue counts as saturated from 850000 on. -/
theorem severity_of_confirmed_iff (input : DecisionInput) (hb : input.bands = {}) :
    (∀ h ∈ (detect input).1.hotspots, h.severity ≠ .none) ↔
      ∀ ev, admittedEvidence input = some ev →
        ∀ c ∈ confirmed (sceneOf input ev (recordBinding input)),
          Reaches ev 900000 (c.map (sceneOf input ev (recordBinding input)).resourceId) ∨
            HeldFourWindows input (c.map (sceneOf input ev (recordBinding input)).resourceId) := by
  cases hadm : admittedEvidence input with
  | none =>
    rw [hotspots_of_rejected hadm]
    simp
  | some ev =>
    set scene := sceneOf input ev (recordBinding input) with hscene
    obtain ⟨authority, hhot, -, -⟩ := detect_reports hadm
    have hbuilt := (gates_of_admitted hadm).built
    have hone : ∀ c ∈ confirmed scene, ((scene.hotspotOf c).severity ≠ .none ↔
        Reaches ev 900000 (c.map scene.resourceId) ∨ HeldFourWindows input (c.map scene.resourceId)) := by
      intro c hc
      obtain ⟨hcomp, hwindow⟩ := List.mem_filter.mp (List.mem_of_mem_take hc)
      have hne : c ≠ [] := (grouped hbuilt : Grouped input ev (recordBinding input)).inhabited c hcomp
      have hreaches : 900000 ≤ scene.peak Cell.pressurePpm c ↔ Reaches ev 900000 (c.map scene.resourceId) :=
        le_peak_iff (fun i hi ↦ saturatedAt_of_mem hbuilt hcomp hi) (by decide)
      have hheld : millis input.thresholds.persistenceWindowMs * 4 ≤ elapsedMs (scene.span c).1 input.now ↔
          HeldFourWindows input (c.map scene.resourceId) := heldFourWindows_iff hne
      have hseverity : (scene.hotspotOf c).severity = if meetsWindow scene c = true ∧
          elapsedMs (scene.span c).1 input.now ≥ millis input.thresholds.persistenceWindowMs * 4 then
            Scene.raised (input.bands.classify (scene.peak Cell.pressurePpm c))
          else input.bands.classify (scene.peak Cell.pressurePpm c) := rfl
      rw [hseverity, severity_raised_ne_none_iff, hb, classify_ne_none_iff, hreaches, ge_iff_le, hheld,
        and_iff_right hwindow]
    rw [hhot, List.forall_mem_map]
    simp only [Option.some.injEq, forall_eq']
    exact forall₂_congr hone

theorem island_severity_iff : (detect islandInput).1.hotspots.length = 1 ∧
    ((∀ h ∈ (detect islandInput).1.hotspots, h.severity ≠ .none) ↔
      ∀ ev, admittedEvidence islandInput = some ev →
        ∀ c ∈ confirmed (sceneOf islandInput ev (recordBinding islandInput)),
          Reaches ev 900000 (c.map (sceneOf islandInput ev (recordBinding islandInput)).resourceId) ∨
            HeldFourWindows islandInput
              (c.map (sceneOf islandInput ev (recordBinding islandInput)).resourceId)) :=
  ⟨by decide +kernel, severity_of_confirmed_iff islandInput rfl⟩

def queueCapacities : Result CapacitySnapshot :=
  let s := { (default : CapacitySnapshot) with observedAt := 10000 }
  ((s.add { resource := ⟨1⟩, capacityUnits := 100, queueLimitUnits := 100 }).add
    { resource := ⟨2⟩, capacityUnits := 100 }).build

def queueSamples : Result SignalSnapshot :=
  (((default : SignalSnapshot).add { islandSample 1 50 with queueDepthUnits := 87 }).add
    (islandSample 2 10)).build

def queueInput : DecisionInput :=
  { topology := twoIslands.toOption, capacity := queueCapacities.toOption
    signals := queueSamples.toOption, now := 10000
    tracker := some (SaturationTracker.replace [(⟨1⟩, ⟨5000, 9000, 5⟩)]) }

theorem full_queue_without_severity :
    queueInput.thresholds = {} ∧ queueInput.bands = {} ∧
      ¬ ∀ h ∈ (detect queueInput).1.hotspots, h.severity ≠ .none := by
  refine ⟨rfl, rfl, fun h ↦ ?_⟩
  have hall : (detect queueInput).1.hotspots.all (fun h ↦ h.severity != .none) = true := by
    simpa using h
  exact absurd hall (by decide +kernel)

end HotspotGovernor.Severity
