import HotspotGovernor.Escalation
import HotspotGovernor.Rows

namespace HotspotGovernor.Classification

open Foundation Lib Topology TopologyIndex Evidence Detection Sampling Hotspots Detect
open Admissibility Components Reporting Verdicts Escalation Rows SortedList

/-- The components that are reported as candidates, up to the reporting bound. -/
def tentative (scene : Scene) : List (List ℕ) :=
  (scene.components.filter (fun c ↦ !meetsWindow scene c)).take Limits.kMaxHotspots

def reportedComponents (scene : Scene) : List (List ℕ) := confirmed scene ++ tentative scene

theorem hotspotsOf_tentative (scene : Scene) :
    (hotspotsOf scene false scene.components).take Limits.kMaxHotspots =
      (tentative scene).map scene.hotspotOf := by
  rw [hotspotsOf, List.filter_map, tentative, List.map_take]
  congr 2
  apply List.filter_congr
  intro c _
  have hpersistent : (scene.hotspotOf c).persistent = meetsWindow scene c := rfl
  simp [hpersistent]

theorem mem_components_of_reported {scene : Scene} {c : List ℕ} (h : c ∈ reportedComponents scene) :
    c ∈ scene.components := by
  rcases List.mem_append.mp h with h | h <;>
    exact (List.mem_filter.mp (List.mem_of_mem_take h)).1

/-- What is reported about a component, whatever authority it carries. -/
def Reports (scene : Scene) (h : Hotspot) (component : List ℕ) : Prop :=
  ∃ authority, h = { scene.hotspotOf component with authority }

section Reported

variable {input : DecisionInput} {ev : BoundEvidence}

theorem detect_reported (hadm : admittedEvidence input = some ev) :
    let scene := sceneOf input ev (recordBinding input)
    ∃ authority, (detect input).1.hotspots ++ (detect input).1.candidates =
      (reportedComponents scene).map (fun c ↦ { scene.hotspotOf c with authority }) := by
  obtain ⟨authority, hhot, hcand, -⟩ := detect_reports hadm
  rw [hotspotsOf_tentative, List.map_map] at hcand
  refine ⟨authority, ?_⟩
  rw [hhot, hcand, reportedComponents, List.map_append]
  rfl

variable {binding : EvidenceBinding} (hbuilt : ev.topology.built = true)
include hbuilt

theorem saturatedAt_of_mem {c : List ℕ} (hc : c ∈ (sceneOf input ev binding).components) {i : ℕ}
    (hi : i ∈ c) : (sceneOf input ev binding).saturatedAt i = true := by
  have hg : Grouped input ev binding := grouped hbuilt
  exact (hg.mem_iff i).mp (List.mem_flatten.mpr ⟨c, hc, hi⟩)

theorem component_unique {c c' : List ℕ} (hc : c ∈ (sceneOf input ev binding).components)
    (hc' : c' ∈ (sceneOf input ev binding).components) {i j : ℕ} (hi : i ∈ c) (hj : j ∈ c')
    (h : (sceneOf input ev binding).resourceId i = (sceneOf input ev binding).resourceId j) : c = c' := by
  have hg : Grouped input ev binding := grouped hbuilt
  obtain rfl := resourceId_inj_on hbuilt (saturatedAt_of_mem hbuilt hc hi) (saturatedAt_of_mem hbuilt hc' hj) h
  by_contra hne
  have : Std.Symm (fun c c' : List ℕ ↦ c.Disjoint c') := ⟨fun _ _ h _ ha hb ↦ h hb ha⟩
  exact (List.nodup_flatten.mp hg.nodup).2.forall hc hc' hne hi hj

theorem reports_unique {h : Hotspot} {c c' : List ℕ} (hc : c ∈ (sceneOf input ev binding).components)
    (hc' : c' ∈ (sceneOf input ev binding).components) (hr : Reports (sceneOf input ev binding) h c)
    (hr' : Reports (sceneOf input ev binding) h c') : c = c' := by
  have hg : Grouped input ev binding := grouped hbuilt
  obtain ⟨authority, rfl⟩ := hr
  obtain ⟨authority', heq⟩ := hr'
  have hids : (c.take Limits.kMaxHotspotResources).map (sceneOf input ev binding).resourceId =
      (c'.take Limits.kMaxHotspotResources).map (sceneOf input ev binding).resourceId :=
    congrArg Hotspot.saturatedResources heq
  obtain ⟨i, rest, rfl⟩ := List.exists_cons_of_ne_nil (hg.inhabited c hc)
  obtain ⟨j, rest', rfl⟩ := List.exists_cons_of_ne_nil (hg.inhabited c' hc')
  exact component_unique hbuilt hc hc' List.mem_cons_self List.mem_cons_self (List.cons.inj hids).1

end Reported

/-- A property of the reports, whatever authority they carry, is one of the reported components. -/
theorem forall_reported_iff {input : DecisionInput} {P : BoundEvidence → List ℕ → Hotspot → Prop}
    (hP : ∀ ev c h authority, P ev c { h with authority } ↔ P ev c h) :
    (∀ h ∈ (detect input).1.hotspots ++ (detect input).1.candidates,
      ∃ ev, admittedEvidence input = some ev ∧ ∃ c ∈ (sceneOf input ev (recordBinding input)).components,
        Reports (sceneOf input ev (recordBinding input)) h c ∧ P ev c h) ↔
      ∀ ev, admittedEvidence input = some ev →
        ∀ c ∈ reportedComponents (sceneOf input ev (recordBinding input)),
          P ev c ((sceneOf input ev (recordBinding input)).hotspotOf c) := by
  constructor
  · intro hall ev hadm c hc
    obtain ⟨authority, hreported⟩ := detect_reported hadm
    have hmem : { (sceneOf input ev (recordBinding input)).hotspotOf c with authority } ∈
        (detect input).1.hotspots ++ (detect input).1.candidates := by
      rw [hreported]
      exact List.mem_map_of_mem hc
    obtain ⟨ev', hadm', c', hc', hr, h⟩ := hall _ hmem
    obtain rfl : ev = ev' := Option.some.inj (hadm.symm.trans hadm')
    obtain rfl : c = c' := reports_unique (gates_of_admitted hadm).built (mem_components_of_reported hc) hc'
      ⟨authority, rfl⟩ hr
    exact (hP ev c _ authority).mp h
  · intro hall h hh
    cases hadm : admittedEvidence input with
    | none =>
      obtain ⟨ev, hadm', -⟩ := Persistence.reported_component hh
      rw [hadm] at hadm'
      cases hadm'
    | some ev =>
      obtain ⟨authority, hreported⟩ := detect_reported hadm
      rw [hreported] at hh
      obtain ⟨c, hc, rfl⟩ := List.mem_map.mp hh
      exact ⟨ev, rfl, c, mem_components_of_reported hc, ⟨authority, rfl⟩,
        (hP ev c _ authority).mpr (hall ev hadm c hc)⟩

/-- The evidence about a resource is admissible and it is not saturated. -/
def Unsaturated (ev : BoundEvidence) (t : Thresholds) (now : Millis) (id : ResourceId) : Prop :=
  ∃ r ∈ ev.topology.resources, r.id = id ∧ ((observe ev t now r).cell t).admissible = true ∧
    ((observe ev t now r).cell t).saturated = false

def regionsIn (topology : TopologySnapshot) (component : List ResourceId) : Finset RegionId :=
  ((topology.resources.filter (fun r ↦ component.contains r.id)).map Resource.region).toFinset

section Scene

variable {input : DecisionInput} {ev : BoundEvidence} {binding : EvidenceBinding}

theorem cell_of_getElem? {i : ℕ} {r : Resource} (hr : ev.topology.resources[i]? = some r) :
    (sceneOf input ev binding).cell i = (observe ev input.thresholds input.now r).cell input.thresholds := by
  simp only [Scene.cell, sceneOf, cellsOf, observations, List.map_map, List.getD_eq_getElem?_getD,
    List.getElem?_map, hr, Option.map_some, Option.getD_some, Function.comp_apply]

theorem toFinset_regions (scene : Scene) (component : List ℕ) : (scene.regions component).toFinset =
    ((component.take Limits.kMaxRegions).map scene.regionId).toFinset := by
  ext region
  rw [List.mem_toFinset, List.mem_toFinset]
  exact mem_unique_sortBy_id

variable (hbuilt : ev.topology.built = true)
include hbuilt

theorem mem_healthy_iff {component : List ℕ} {id : ResourceId} :
    id ∈ (sceneOf input ev binding).healthy component ↔
      (∃ a ∈ component.map (sceneOf input ev binding).resourceId, Adjacent ev.topology.links a id) ∧
        Unsaturated ev input.thresholds input.now id := by
  set scene := sceneOf input ev binding with hscene
  have hstrict : Strict Resource.id ev.topology.resources := (built_validated hbuilt).resourcesStrict
  have hcells : ∀ {j : ℕ} {r : Resource}, ev.topology.resources[j]? = some r → scene.cell j =
      (observe ev input.thresholds input.now r).cell input.thresholds := cell_of_getElem?
  have hgood : (scene.indexOfResource id).any
      (fun j ↦ (scene.cell j).admissible && !(scene.cell j).saturated) = true ↔
        Unsaturated ev input.thresholds input.now id := by
    constructor
    · intro h
      obtain ⟨j, hj, hcell⟩ := (Option.any_eq_true _ _).mp h
      obtain ⟨r, hr, hid, -⟩ := findIndex_eq_some hj
      rw [hcells hr, Bool.and_eq_true, Bool.not_eq_true'] at hcell
      exact ⟨r, List.mem_of_getElem? hr, hid, hcell⟩
    · rintro ⟨r, hmem, rfl, hcell⟩
      obtain ⟨j, hj⟩ := List.mem_iff_getElem?.mp hmem
      refine (Option.any_eq_true _ _).mpr ⟨j, hstrict.findIndex_getElem hj, ?_⟩
      rw [hcells hj, Bool.and_eq_true, Bool.not_eq_true']
      exact hcell
  have hmem : id ∈ scene.healthy component ↔ ∃ i ∈ component,
      id ∈ ev.topology.neighbors (scene.resourceId i) ∧ Unsaturated ev input.thresholds input.now id := by
    refine mem_unique_sortBy_id.trans ?_
    rw [List.mem_flatMap]
    apply exists_congr
    intro i
    rw [List.mem_filter, hgood]
    rfl
  rw [hmem]
  constructor
  · rintro ⟨i, hi, hn, hu⟩
    exact ⟨⟨_, List.mem_map_of_mem hi, (mem_neighbors hbuilt).mp hn⟩, hu⟩
  · rintro ⟨⟨a, ha, hadj⟩, hu⟩
    obtain ⟨i, hi, rfl⟩ := List.mem_map.mp ha
    exact ⟨i, hi, (mem_neighbors hbuilt).mpr hadj, hu⟩

theorem regionsIn_component {component : List ℕ}
    (hsat : ∀ i ∈ component, (sceneOf input ev binding).saturatedAt i = true) :
    regionsIn ev.topology (component.map (sceneOf input ev binding).resourceId) =
      (component.map (sceneOf input ev binding).regionId).toFinset := by
  have hstrict : Strict Resource.id ev.topology.resources := (built_validated hbuilt).resourcesStrict
  have hat : ∀ {i : ℕ} {r : Resource}, ev.topology.resources[i]? = some r →
      (sceneOf input ev binding).resourceId i = r.id ∧ (sceneOf input ev binding).regionId i = r.region := by
    intro i r hr
    refine ⟨resourceId_of_getElem? hr, ?_⟩
    have hget : (sceneOf input ev binding).resources[i]? = some r := hr
    rw [Scene.regionId, hget]
    rfl
  ext region
  simp only [regionsIn, List.mem_toFinset, List.mem_map, List.mem_filter, List.contains_iff_mem]
  constructor
  · rintro ⟨r, ⟨hr, i, hi, hid⟩, rfl⟩
    obtain ⟨r', hr', -⟩ := saturatedAt_iff.mp (hsat i hi)
    obtain rfl : r' = r := hstrict.inj (List.mem_of_getElem? hr') hr ((hat hr').1.symm.trans hid)
    exact ⟨i, hi, (hat hr').2⟩
  · rintro ⟨i, hi, rfl⟩
    obtain ⟨r, hr, -⟩ := saturatedAt_iff.mp (hsat i hi)
    exact ⟨r, ⟨List.mem_of_getElem? hr, i, hi, (hat hr).1⟩, (hat hr).2.symm⟩

end Scene

/-- A hotspot is local: in its share of the fabric, in its regions, and against what is around it. -/
structure Local (input : DecisionInput) (ev : BoundEvidence) (component : List ResourceId) (h : Hotspot) :
    Prop where
  share : h.sharePpm ≤ input.thresholds.maxLocalSharePpm
  belowGlobal : h.sharePpm < input.thresholds.globalSharePpm
  confined : (regionsIn ev.topology component).card ≤ input.thresholds.maxLocalRegions.toNat
  beside : ∃ a ∈ component, ∃ id, Adjacent ev.topology.links a id ∧
    Unsaturated ev input.thresholds input.now id
  healthyElsewhere : ∃ id, Unsaturated ev input.thresholds input.now id

def LocalizedLocal (input : DecisionInput) : Prop :=
  ∀ h ∈ (detect input).1.hotspots ++ (detect input).1.candidates,
    ∃ ev, admittedEvidence input = some ev ∧ ∃ c ∈ (sceneOf input ev (recordBinding input)).components,
      Reports (sceneOf input ev (recordBinding input)) h c ∧ (h.scope = .localized →
        Local input ev (c.map (sceneOf input ev (recordBinding input)).resourceId) h)

/-- A component that passes every test the classification makes before it says Localized. -/
structure Confined (scene : Scene) (component : List ℕ) : Prop where
  share : componentShare scene component < scene.thresholds.globalSharePpm
  regional : (scene.regions component).length ≤ scene.thresholds.maxRegionalRegions.toNat
  healthyElsewhere : scene.allAdmissibleSaturated = false
  regions : (scene.regions component).length ≤ scene.thresholds.maxLocalRegions.toNat
  beside : scene.healthy component ≠ []

/-- A component that passes those tests although its share is above the local one, which none of them
reads, or its regions are too many, which they only see in its first resources. -/
def Overlooked (scene : Scene) (component : List ℕ) : Prop :=
  Confined scene component ∧
    (scene.thresholds.maxLocalSharePpm < componentShare scene component ∨
      scene.thresholds.maxLocalRegions.toNat <
        (regionsIn scene.evidence.topology (component.map scene.resourceId)).card)

theorem scope_hotspotOf_eq_localized {scene : Scene} {component : List ℕ} :
    (scene.hotspotOf component).scope = .localized ↔ Confined scene component := by
  have hscope : (scene.hotspotOf component).scope = scene.classify (componentShare scene component)
    (scene.regions component).length (scene.healthy component).length := rfl
  rw [hscope, Scene.classify]
  constructor
  · intro h
    split_ifs at h with h₁ h₂ h₃ h₄ h₅
    exact ⟨UInt32.not_le.mp h₁, not_lt.mp h₂, Bool.not_eq_true _ ▸ h₃, not_lt.mp h₄,
      fun hnil ↦ h₅ (List.length_eq_zero_iff.mpr hnil)⟩
  · intro h
    rw [if_neg (UInt32.not_le.mpr h.share), if_neg (not_lt.mpr h.regional),
      if_neg (by simp [h.healthyElsewhere]), if_neg (not_lt.mpr h.regions),
      if_neg (fun hzero ↦ h.beside (List.length_eq_zero_iff.mp hzero))]

/-- For every input: every hotspot and candidate classified as localized is local exactly when no
reported component is overlooked. -/
theorem localized_local_iff (input : DecisionInput) : LocalizedLocal input ↔
    ∀ ev, admittedEvidence input = some ev →
      ∀ c ∈ reportedComponents (sceneOf input ev (recordBinding input)),
        ¬ Overlooked (sceneOf input ev (recordBinding input)) c := by
  rw [LocalizedLocal, forall_reported_iff (P := fun ev c h ↦ h.scope = .localized →
    Local input ev (c.map (sceneOf input ev (recordBinding input)).resourceId) h) ?_]
  · apply forall₄_congr
    intro ev hadm c hc
    have hbuilt := (gates_of_admitted hadm).built
    rw [scope_hotspotOf_eq_localized, Overlooked, not_and, not_or, UInt32.not_lt, not_lt]
    apply forall_congr'
    intro hconfined
    constructor
    · exact fun h ↦ ⟨h.share, h.confined⟩
    · rintro ⟨hshare, hregions⟩
      obtain ⟨id, hid⟩ := List.exists_mem_of_ne_nil _ hconfined.beside
      obtain ⟨⟨a, ha, hadj⟩, hu⟩ := (mem_healthy_iff hbuilt).mp hid
      exact ⟨hshare, hconfined.share, hregions, ⟨a, ha, id, hadj, hu⟩, id, hu⟩
  · intro ev c h authority
    exact forall_congr' (fun _ ↦
      ⟨fun h ↦ ⟨h.1, h.2, h.3, h.4, h.5⟩, fun h ↦ ⟨h.1, h.2, h.3, h.4, h.5⟩⟩)

def thirdSamples : Result SignalSnapshot :=
  let s : SignalSnapshot := default
  (((s.add (islandSample 1 95)).add (islandSample 2 10)).add (islandSample 3 10)).build

def thirdInput : DecisionInput :=
  { topology := threeSwitches.toOption, capacity := Demand.lateCapacities.toOption
    signals := thirdSamples.toOption, now := 10000
    tracker := some (SaturationTracker.replace [(⟨1⟩, ⟨1000, 9000, 5⟩)]) }

theorem third_called_localized :
    (detect thirdInput).1.hotspots.map (fun h ↦ (h.scope, h.sharePpm)) = [(.localized, 333333)] ∧
      thirdInput.thresholds.maxLocalSharePpm = 250000 ∧ ¬ LocalizedLocal thirdInput := by
  have hreport : (detect thirdInput).1.hotspots.map (fun h ↦ (h.scope, h.sharePpm)) =
      [(.localized, 333333)] := by decide +kernel
  refine ⟨hreport, rfl, fun hlocal ↦ ?_⟩
  obtain ⟨h, rest, hhot⟩ : ∃ h rest, (detect thirdInput).1.hotspots = h :: rest := by
    apply List.exists_cons_of_ne_nil
    intro hnil
    rw [hnil] at hreport
    cases hreport
  rw [hhot, List.map_cons, List.cons.injEq, Prod.mk.injEq] at hreport
  obtain ⟨_, -, _, -, -, h⟩ := hlocal h (by simp [hhot])
  have hshare := (h hreport.1.1).share
  rw [hreport.1.2] at hshare
  exact absurd hshare (by decide)

/-- The regions of every hotspot and candidate are those of all its resources, each once and in order. -/
def RegionsExact (input : DecisionInput) : Prop :=
  ∀ h ∈ (detect input).1.hotspots ++ (detect input).1.candidates,
    ∃ ev, admittedEvidence input = some ev ∧ ∃ c ∈ (sceneOf input ev (recordBinding input)).components,
      Reports (sceneOf input ev (recordBinding input)) h c ∧ Strict (fun region ↦ region) h.regions ∧
        h.regions.toFinset =
          regionsIn ev.topology (c.map (sceneOf input ev (recordBinding input)).resourceId)

/-- The first resources of the component, as many as there may be regions, are in all of its regions. -/
def RegionsEarly (scene : Scene) (component : List ℕ) : Prop :=
  ∀ i ∈ component.drop Limits.kMaxRegions, ∃ j ∈ component.take Limits.kMaxRegions,
    scene.regionId j = scene.regionId i

theorem regions_exact_iff_early (scene : Scene) (component : List ℕ) :
    (scene.regions component).toFinset = (component.map scene.regionId).toFinset ↔
      RegionsEarly scene component := by
  rw [toFinset_regions]
  conv_lhs => rhs; rw [← List.take_append_drop Limits.kMaxRegions component, List.map_append,
    List.toFinset_append]
  rw [Finset.left_eq_union]
  constructor
  · intro h i hi
    have hmem := h (List.mem_toFinset.mpr (List.mem_map_of_mem hi))
    exact List.mem_map.mp (List.mem_toFinset.mp hmem)
  · intro h region hregion
    obtain ⟨i, hi, rfl⟩ := List.mem_map.mp (List.mem_toFinset.mp hregion)
    exact List.mem_toFinset.mpr (List.mem_map.mpr (h i hi))

theorem regionsExact_iff_reported (input : DecisionInput) : RegionsExact input ↔
    ∀ ev, admittedEvidence input = some ev →
      ∀ c ∈ reportedComponents (sceneOf input ev (recordBinding input)),
        ((sceneOf input ev (recordBinding input)).regions c).toFinset =
          (c.map (sceneOf input ev (recordBinding input)).regionId).toFinset := by
  rw [RegionsExact, forall_reported_iff (P := fun ev c h ↦ Strict (fun region ↦ region) h.regions ∧
    h.regions.toFinset = regionsIn ev.topology (c.map (sceneOf input ev (recordBinding input)).resourceId))
      (fun _ _ _ _ ↦ Iff.rfl)]
  apply forall₄_congr
  intro ev hadm c hc
  have hbuilt := (gates_of_admitted hadm).built
  rw [regionsIn_component hbuilt (fun i ↦ saturatedAt_of_mem hbuilt (mem_components_of_reported hc))]
  exact and_iff_right (unique_sortBy_strict _)

/-- For every input: the regions of the reports are exact exactly when every reported component has its
regions among its first resources. The list is cut before its repeats are dropped. -/
theorem regions_exact_iff (input : DecisionInput) : RegionsExact input ↔
    ∀ ev, admittedEvidence input = some ev →
      ∀ c ∈ reportedComponents (sceneOf input ev (recordBinding input)),
        RegionsEarly (sceneOf input ev (recordBinding input)) c := by
  rw [regionsExact_iff_reported]
  apply forall₄_congr
  intro ev _ c _
  exact regions_exact_iff_early (sceneOf input ev (recordBinding input)) c

/-- The region of a position in the long row: the last switch is in a region of its own. -/
def lastApart (i : ℕ) : RegionId := if i < Limits.kMaxRegions then ⟨1⟩ else ⟨2⟩

/-- A chain of saturated switches, one more than there may be regions. -/
def longRow : DecisionInput :=
  rowInput (Limits.kMaxRegions + 1) Limits.kMaxRegions lastApart (fun _ ↦ 1) (fun _ ↦ true)

theorem last_region_missed : ¬ RegionsExact longRow := by
  intro hexact
  have hone : (1 : UInt64) ≠ 0 := by decide
  obtain ⟨ev, hadm, hrow⟩ : ∃ ev, admittedEvidence longRow = some ev ∧
      RowEvidence (Limits.kMaxRegions + 1) Limits.kMaxRegions lastApart (fun _ ↦ 1) (fun _ ↦ true) ev :=
    rowEvidence (by decide) (by omega) (fun i _ ↦ by rw [lastApart]; split <;> simp) (fun _ _ ↦ hone)
  have hbuilt := (gates_of_admitted hadm).built
  have hunits : ∀ i < Limits.kMaxRegions + 1, (fun _ ↦ 1 : ℕ → UInt64) i ≠ 0 := fun _ _ ↦ hone
  set scene := sceneOf longRow ev (recordBinding longRow) with hscene
  have hregion : ∀ i < Limits.kMaxRegions + 1, scene.regionId i = lastApart i := by
    intro i hi
    have hget : scene.resources[i]? = some ⟨numbered i, lastApart i, .switch, []⟩ := getElem?_resources hrow hi
    rw [Scene.regionId, hget]
    rfl
  -- the whole row is one component, and it is confirmed
  obtain ⟨c, hc⟩ : ∃ c, c ∈ confirmed scene := by
    have hzero : 0 ∈ scene.components.flatten :=
      ((grouped hbuilt : Grouped longRow ev (recordBinding longRow)).mem_iff 0).mpr
        ((saturatedAt_row hrow hunits).mpr ⟨by omega, rfl⟩)
    obtain ⟨c, hc, -⟩ := List.mem_flatten.mp hzero
    have hkept : c ∈ scene.components.filter (meetsWindow scene) :=
      List.mem_filter.mpr ⟨hc, meetsWindow_row ((grouped hbuilt : Grouped longRow ev _).inhabited c hc)⟩
    obtain ⟨c', rest, heq⟩ := List.exists_cons_of_ne_nil (List.ne_nil_of_mem hkept)
    refine ⟨c', ?_⟩
    rw [confirmed, heq]
    exact List.mem_cons_self
  have hreported : c ∈ reportedComponents scene := List.mem_append_left _ hc
  have hall : c = List.range (Limits.kMaxRegions + 1) :=
    component_chain hrow hunits hbuilt rfl (fun _ _ ↦ rfl) (mem_components_of_reported hreported)
  have hlast : Limits.kMaxRegions ∈ c.drop Limits.kMaxRegions := by
    rw [hall]
    apply List.mem_of_getElem? (i := 0)
    rw [List.getElem?_drop, List.getElem?_range (by omega)]
    rfl
  have hearly := (regions_exact_iff_early scene c).mp
    ((regionsExact_iff_reported longRow).mp hexact ev hadm c hreported)
  obtain ⟨j, hj, hsame⟩ := hearly Limits.kMaxRegions hlast
  rw [hall, List.take_range, List.mem_range] at hj
  rw [hregion j (by omega), hregion _ (by omega), lastApart, lastApart, if_pos (by omega),
    if_neg (lt_irrefl _)] at hsame
  cases hsame

end HotspotGovernor.Classification
