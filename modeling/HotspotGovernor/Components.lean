import HotspotGovernor.Detect

namespace HotspotGovernor.Components

open Foundation Lib Topology TopologyIndex Evidence Detection Sampling Hotspots Detect SortedList
open Relation

/-- A resource whose sample is admissible and saturated: it is in the topology, has usable
capacity, and carries a sample that is fresh, present, trusted, consistent and over a threshold. -/
structure AdmissiblySaturated (ev : BoundEvidence) (t : Thresholds) (now : Millis)
    (id : ResourceId) : Prop where
  known : ∃ r ∈ ev.topology.resources, r.id = id
  evidence : ∃ entry sample, ev.capacity.find id = some entry ∧ ev.signals.find id = some sample ∧
    entry.usable = true ∧ entry.capacityUnits ≠ 0 ∧ tooOld t now sample = false ∧
    sample.quality ≠ .missing ∧ qualityOk sample = true ∧ confidenceOk t sample = true ∧
    contradiction t entry sample = false ∧ pressured t entry sample = true

section Observe

variable {ev : BoundEvidence} {t : Thresholds} {now : Millis}

theorem observe_saturated_iff {r : Resource} (hr : r ∈ ev.topology.resources) :
    ((observe ev t now r).cell t).saturated = true ↔ AdmissiblySaturated ev t now r.id := by
  constructor
  · intro h
    refine ⟨⟨r, hr, rfl⟩, ?_⟩
    unfold observe at h
    split at h
    · cases h
    · next entry hentry =>
      split at h
      · cases h
      · next husable =>
        split at h
        · cases h
        · next sample hsample =>
          split at h
          · cases h
          · next hage =>
            split at h
            · cases h
            · next hquality =>
              simp only [Observation.cell, measureCell, admissible, Bool.and_eq_true,
                Bool.not_eq_true'] at h
              rw [not_or] at husable
              obtain ⟨⟨⟨hq, hc⟩, hcontra⟩, hp⟩ := h
              exact ⟨entry, sample, hentry, hsample, by simpa using husable.1, husable.2,
                by simpa using hage, hquality, hq, hc, hcontra, hp⟩
  · intro h
    obtain ⟨-, entry, sample, hentry, hsample, hu, hcap, hage, hmiss, hq, hc, hcontra, hp⟩ := h
    simp [observe, hentry, hsample, hu, hcap, hage, hmiss, Observation.cell, measureCell, admissible, hq, hc,
      hcontra, hp]

end Observe

section Scene

variable {input : DecisionInput} {ev : BoundEvidence} {binding : EvidenceBinding}

theorem resourceId_of_getElem? {scene : Scene} {i : ℕ} {r : Resource}
    (hi : scene.resources[i]? = some r) : scene.resourceId i = r.id := by
  simp [Scene.resourceId, hi]

theorem saturatedAt_iff {i : ℕ} : (sceneOf input ev binding).saturatedAt i = true ↔
    ∃ r, ev.topology.resources[i]? = some r ∧
      AdmissiblySaturated ev input.thresholds input.now r.id := by
  have hcell : (sceneOf input ev binding).cell i = ((ev.topology.resources[i]?).map (fun r ↦
      (observe ev input.thresholds input.now r).cell input.thresholds)).getD {} := by
    simp [Scene.cell, sceneOf, cellsOf, observations, List.getD_eq_getElem?_getD]
    rfl
  rw [Scene.saturatedAt, hcell]
  cases hi : ev.topology.resources[i]? with
  | none => simp
  | some r =>
    have hr := List.mem_of_getElem? hi
    simp [observe_saturated_iff hr]

variable (hbuilt : ev.topology.built = true)
include hbuilt

theorem mem_neighborIndices {i j : ℕ} {r : Resource} (hi : ev.topology.resources[i]? = some r) :
    j ∈ (sceneOf input ev binding).neighborIndices i ↔
      ∃ r', ev.topology.resources[j]? = some r' ∧ Adjacent ev.topology.links r.id r'.id := by
  have hstrict : Strict Resource.id ev.topology.resources := (built_validated hbuilt).resourcesStrict
  have hid : (sceneOf input ev binding).resourceId i = r.id := resourceId_of_getElem? hi
  simp only [Scene.neighborIndices, List.mem_filterMap, hid]
  constructor
  · intro h
    obtain ⟨id, hn, hj⟩ := h
    obtain ⟨r', hr', rfl, -⟩ := findIndex_eq_some hj
    exact ⟨r', hr', (mem_neighbors hbuilt).mp hn⟩
  · intro h
    obtain ⟨r', hr', hadj⟩ := h
    exact ⟨r'.id, (mem_neighbors hbuilt).mpr hadj, hstrict.findIndex_getElem hr'⟩

end Scene

/-- Two saturated resources joined by a topology link. -/
def SaturatedLink (ev : BoundEvidence) (t : Thresholds) (now : Millis) (a b : ResourceId) : Prop :=
  AdmissiblySaturated ev t now a ∧ AdmissiblySaturated ev t now b ∧ Adjacent ev.topology.links a b

section Chains

variable {input : DecisionInput} {ev : BoundEvidence} {binding : EvidenceBinding}
variable (hbuilt : ev.topology.built = true)
include hbuilt

theorem adj_iff {i j : ℕ} :
    DepthFirst.Adj (sceneOf input ev binding).neighborIndices (sceneOf input ev binding).saturatedAt i j ↔
      ∃ r r', ev.topology.resources[i]? = some r ∧ ev.topology.resources[j]? = some r' ∧
        SaturatedLink ev input.thresholds input.now r.id r'.id := by
  constructor
  · intro h
    obtain ⟨hi, hj, hn⟩ := h
    obtain ⟨r, hr, hs⟩ := saturatedAt_iff.mp hi
    obtain ⟨r', hr', hs'⟩ := saturatedAt_iff.mp hj
    obtain ⟨r'', hr'', hadj⟩ := (mem_neighborIndices hbuilt hr).mp hn
    obtain rfl : r'' = r' := Option.some.inj (hr''.symm.trans hr')
    exact ⟨r, r'', hr, hr', hs, hs', hadj⟩
  · intro h
    obtain ⟨r, r', hr, hr', hs, hs', hadj⟩ := h
    exact ⟨saturatedAt_iff.mpr ⟨r, hr, hs⟩, saturatedAt_iff.mpr ⟨r', hr', hs'⟩,
      (mem_neighborIndices hbuilt hr).mpr ⟨r', hr', hadj⟩⟩

theorem adj_symm (i j : ℕ) (h : DepthFirst.Adj (sceneOf input ev binding).neighborIndices
    (sceneOf input ev binding).saturatedAt i j) :
    DepthFirst.Adj (sceneOf input ev binding).neighborIndices
      (sceneOf input ev binding).saturatedAt j i := by
  obtain ⟨r, r', hr, hr', hs, hs', hadj⟩ := (adj_iff hbuilt).mp h
  exact (adj_iff hbuilt).mpr ⟨r', r, hr', hr, hs', hs, hadj.symm⟩

theorem index_unique {i j : ℕ} {r r' : Resource} (hi : ev.topology.resources[i]? = some r)
    (hj : ev.topology.resources[j]? = some r') (h : r.id = r'.id) : i = j := by
  have hstrict : Strict Resource.id ev.topology.resources := (built_validated hbuilt).resourcesStrict
  have hi' := hstrict.findIndex_getElem hi
  rw [h, hstrict.findIndex_getElem hj] at hi'
  exact (Option.some.inj hi').symm

theorem chain_iff {i j : ℕ} {r r' : Resource} (hi : ev.topology.resources[i]? = some r)
    (hj : ev.topology.resources[j]? = some r') :
    ReflTransGen (DepthFirst.Adj (sceneOf input ev binding).neighborIndices
      (sceneOf input ev binding).saturatedAt) i j ↔
      ReflTransGen (SaturatedLink ev input.thresholds input.now) r.id r'.id := by
  constructor
  · intro h
    induction h generalizing r' with
    | refl =>
      obtain rfl : r = r' := Option.some.inj (hi.symm.trans hj)
      exact .refl
    | tail _ hstep ih =>
      obtain ⟨a, b, ha, hb, hlink⟩ := (adj_iff hbuilt).mp hstep
      obtain rfl : b = r' := Option.some.inj (hb.symm.trans hj)
      exact (ih ha).tail hlink
  · intro h
    obtain ⟨k, r'', hk, hid, hchain⟩ : ∃ k r'', ev.topology.resources[k]? = some r'' ∧ r''.id = r'.id ∧
        ReflTransGen (DepthFirst.Adj (sceneOf input ev binding).neighborIndices
          (sceneOf input ev binding).saturatedAt) i k := by
      generalize r'.id = y at h
      induction h with
      | refl => exact ⟨i, r, hi, rfl, .refl⟩
      | tail _ hlink ih =>
        obtain ⟨k, a, hk, rfl, hchain⟩ := ih
        obtain ⟨b, hb, rfl⟩ := hlink.2.1.known
        obtain ⟨m, hm⟩ := List.mem_iff_getElem?.mp hb
        exact ⟨m, b, hm, rfl, hchain.tail ((adj_iff hbuilt).mpr ⟨a, b, hk, hm, hlink⟩)⟩
    rwa [← index_unique hbuilt hk hj hid]

end Chains

def componentIds (scene : Scene) : List (List ResourceId) :=
  scene.components.map (fun c ↦ c.map scene.resourceId)

theorem perm_flatten_sortBy (comps : List (List ℕ)) :
    (comps.map (sortBy (fun index ↦ index))).flatten.Perm comps.flatten := by
  induction comps with
  | nil => exact .refl _
  | cons c comps ih => exact (sortBy_perm c).append ih

section Classes

variable {input : DecisionInput} {ev : BoundEvidence} {binding : EvidenceBinding}
variable (hbuilt : ev.topology.built = true)
include hbuilt

/-- The collected positions: each saturated position once, grouped by the links. -/
structure Grouped (input : DecisionInput) (ev : BoundEvidence) (binding : EvidenceBinding) : Prop where
  nodup : (sceneOf input ev binding).components.flatten.Nodup
  inhabited : ∀ c ∈ (sceneOf input ev binding).components, c ≠ []
  mem_iff : ∀ i, i ∈ (sceneOf input ev binding).components.flatten ↔
    (sceneOf input ev binding).saturatedAt i = true
  classes : ∀ c ∈ (sceneOf input ev binding).components, ∀ i ∈ c, ∀ j, j ∈ c ↔
    ReflTransGen (DepthFirst.Adj (sceneOf input ev binding).neighborIndices
      (sceneOf input ev binding).saturatedAt) i j

theorem grouped : Grouped input ev binding := by
  have huniv : ∀ i, (sceneOf input ev binding).saturatedAt i = true →
      i ∈ List.range (sceneOf input ev binding).resources.length := by
    intro i hi
    obtain ⟨r, hr, -⟩ := saturatedAt_iff.mp hi
    exact List.mem_range.mpr (List.getElem?_eq_some_iff.mp hr).1
  obtain ⟨marks, h⟩ := DepthFirst.components_spec (adj_symm hbuilt) huniv
  have hperm := perm_flatten_sortBy (DepthFirst.components (sceneOf input ev binding).neighborIndices
    (sceneOf input ev binding).saturatedAt (List.range (sceneOf input ev binding).resources.length))
  refine ⟨hperm.nodup_iff.mpr h.nodup, ?_, ?_, ?_⟩
  · intro c hc
    obtain ⟨c₀, hc₀, rfl⟩ := List.mem_map.mp hc
    intro hnil
    have hlen := congrArg List.length hnil
    rw [length_sortBy] at hlen
    exact h.inhabited c₀ hc₀ (List.length_eq_zero_iff.mp hlen)
  · intro i
    rw [Scene.components, hperm.mem_iff]
    constructor
    · intro hi
      obtain ⟨c, hc, hic⟩ := List.mem_flatten.mp hi
      exact h.kept c hc i hic
    · intro hi
      exact (h.marked i).mp (h.covered i (huniv i hi) hi)
  · intro c hc i hi j
    obtain ⟨c₀, hc₀, rfl⟩ := List.mem_map.mp hc
    rw [mem_sortBy]
    exact h.classes c₀ hc₀ i (mem_sortBy.mp hi) j

theorem resourceId_inj_on {i j : ℕ} (hi : (sceneOf input ev binding).saturatedAt i = true)
    (hj : (sceneOf input ev binding).saturatedAt j = true)
    (h : (sceneOf input ev binding).resourceId i = (sceneOf input ev binding).resourceId j) : i = j := by
  obtain ⟨r, hr, -⟩ := saturatedAt_iff.mp hi
  obtain ⟨r', hr', -⟩ := saturatedAt_iff.mp hj
  have hid : (sceneOf input ev binding).resourceId i = r.id := resourceId_of_getElem? hr
  have hid' : (sceneOf input ev binding).resourceId j = r'.id := resourceId_of_getElem? hr'
  rw [hid, hid'] at h
  exact index_unique hbuilt hr hr' h

theorem componentIds_nodup : (componentIds (sceneOf input ev binding)).flatten.Nodup := by
  have hg : Grouped input ev binding := grouped hbuilt
  rw [componentIds, ← List.map_flatten]
  refine List.Nodup.map_on ?_ hg.nodup
  intro i hi j hj h
  exact resourceId_inj_on hbuilt ((hg.mem_iff i).mp hi) ((hg.mem_iff j).mp hj) h

theorem mem_componentIds {id : ResourceId} :
    (∃ c ∈ componentIds (sceneOf input ev binding), id ∈ c) ↔
      AdmissiblySaturated ev input.thresholds input.now id := by
  have hg : Grouped input ev binding := grouped hbuilt
  rw [← List.mem_flatten, componentIds, ← List.map_flatten, List.mem_map]
  constructor
  · intro h
    obtain ⟨i, hi, rfl⟩ := h
    obtain ⟨r, hr, hs⟩ := saturatedAt_iff.mp ((hg.mem_iff i).mp hi)
    have hid : (sceneOf input ev binding).resourceId i = r.id := resourceId_of_getElem? hr
    rwa [hid]
  · intro hs
    obtain ⟨r, hr, rfl⟩ := hs.known
    obtain ⟨i, hi⟩ := List.mem_iff_getElem?.mp hr
    exact ⟨i, (hg.mem_iff i).mpr (saturatedAt_iff.mpr ⟨r, hi, hs⟩), resourceId_of_getElem? hi⟩

theorem mem_componentIds_iff_chain {c : List ResourceId} (hc : c ∈ componentIds (sceneOf input ev binding))
    {a : ResourceId} (ha : a ∈ c) (b : ResourceId) :
    b ∈ c ↔ ReflTransGen (SaturatedLink ev input.thresholds input.now) a b := by
  have hg : Grouped input ev binding := grouped hbuilt
  obtain ⟨c₀, hc₀, rfl⟩ := List.mem_map.mp hc
  obtain ⟨i, hi, rfl⟩ := List.mem_map.mp ha
  have hsat : ∀ k ∈ c₀, (sceneOf input ev binding).saturatedAt k = true :=
    fun k hk ↦ (hg.mem_iff k).mp (List.mem_flatten.mpr ⟨c₀, hc₀, hk⟩)
  obtain ⟨r, hr, -⟩ := saturatedAt_iff.mp (hsat i hi)
  have hid : (sceneOf input ev binding).resourceId i = r.id := resourceId_of_getElem? hr
  rw [hid, List.mem_map]
  constructor
  · intro h
    obtain ⟨j, hj, rfl⟩ := h
    obtain ⟨r', hr', -⟩ := saturatedAt_iff.mp (hsat j hj)
    have hid' : (sceneOf input ev binding).resourceId j = r'.id := resourceId_of_getElem? hr'
    rw [hid']
    exact (chain_iff hbuilt hr hr').mp ((hg.classes c₀ hc₀ i hi j).mp hj)
  · intro hchain
    have hs : AdmissiblySaturated ev input.thresholds input.now b := by
      cases hchain with
      | refl => rw [← hid]; exact (mem_componentIds hbuilt).mp ⟨_, hc, ha⟩
      | tail _ hlink => exact hlink.2.1
    obtain ⟨r', hr', rfl⟩ := hs.known
    obtain ⟨j, hj⟩ := List.mem_iff_getElem?.mp hr'
    exact ⟨j, (hg.classes c₀ hc₀ i hi j).mpr ((chain_iff hbuilt hr hj).mpr hchain),
      resourceId_of_getElem? hj⟩

end Classes

end HotspotGovernor.Components
