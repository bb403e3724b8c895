import HotspotGovernor.Classification
import HotspotGovernor.Turns

namespace HotspotGovernor.Containment

open Foundation Lib Topology TopologyIndex Evidence Detection Hotspots Detect Admissibility Components
open Classification Intervention Decisions Mitigation Turns SortedList

/-- A draft holds the reported resources of its hotspot. Only a relocation adds some around it. -/
theorem draftOf_resources {p : Planning} {hotspot : Hotspot} {kind : MitigationKind} {draft : IntentDraft}
    (h : p.draftOf hotspot kind = .ok draft) : draft.resources = hotspot.saturatedResources ∨
      (kind = .flowRelocation ∧
        ∃ n, draft.resources = hotspot.saturatedResources ++ hotspot.healthyNeighbors.take n) := by
  simp only [Planning.draftOf] at h
  cases kind with
  | none | escalateGlobalCongestion | admissionReduction =>
    obtain rfl := Except.ok.inj h
    exact .inl rfl
  | flowRelocation =>
    dsimp only at h
    split_ifs at h
    · obtain rfl := Except.ok.inj h
      exact .inr ⟨rfl, _, rfl⟩
    · obtain rfl := Except.ok.inj h
      exact .inr ⟨rfl, _, rfl⟩
  | pathRebalance | ratePacingChange | resourceIsolation =>
    dsimp only at h
    split_ifs at h
    obtain rfl := Except.ok.inj h
    exact .inl rfl

/-- An intent acts on the whole component, and besides it only a relocation acts on anything: on healthy
neighbours. -/
structure Contained (input : DecisionInput) (ev : BoundEvidence) (component : List ResourceId)
    (intent : MitigationIntent) : Prop where
  whole : ∀ id ∈ component, id ∈ intent.affectedResources
  beyond : ∀ id ∈ intent.affectedResources, id ∈ component ∨ (intent.kind = .flowRelocation ∧
    (∃ a ∈ component, Adjacent ev.topology.links a id) ∧
    Unsaturated ev input.thresholds input.now id)

section Component

variable {input : DecisionInput} {ev : BoundEvidence} {binding : EvidenceBinding} {component : List ℕ}
variable (hbuilt : ev.topology.built = true) (hc : component ∈ (sceneOf input ev binding).components)
include hbuilt hc

theorem ids_nodup : (component.map (sceneOf input ev binding).resourceId).Nodup :=
  (List.nodup_flatten.mp (componentIds_nodup hbuilt)).1 _ (List.mem_map_of_mem hc)

theorem not_truncated {affected : List ResourceId}
    (hsub : ((sceneOf input ev binding).hotspotOf component).saturatedResources ⊆ affected)
    (hlen : affected.length ≤ Limits.kMaxIntentAffectedResources) :
    ((sceneOf input ev binding).hotspotOf component).saturatedResources =
      component.map (sceneOf input ev binding).resourceId := by
  set scene := sceneOf input ev binding with hscene
  have hreported : (scene.hotspotOf component).saturatedResources =
      (component.map scene.resourceId).take Limits.kMaxHotspotResources := List.map_take
  rw [hreported] at hsub ⊢
  apply List.take_of_length_le
  have hnodup : ((component.map scene.resourceId).take Limits.kMaxHotspotResources).Nodup :=
    (ids_nodup hbuilt hc).sublist (List.take_sublist _ _)
  have hle := (List.subperm_of_subset hnodup hsub).length_le
  have hcaps : Limits.kMaxIntentAffectedResources = 64 ∧ Limits.kMaxHotspotResources = 256 := ⟨rfl, rfl⟩
  rw [List.length_take] at hle
  omega

theorem contained_of_drafted {p : Planning} {plan : InterventionPlan} {hotspot : Hotspot}
    {kind : MitigationKind} {intent : MitigationIntent}
    (hreports : Reports (sceneOf input ev binding) hotspot component)
    (hdrafted : DraftedAs p plan hotspot kind intent) :
    Contained input ev (component.map (sceneOf input ev binding).resourceId) intent := by
  set scene := sceneOf input ev binding with hscene
  obtain ⟨authority, rfl⟩ := hreports
  obtain ⟨draft, hdraft, hbound, rfl⟩ := hdrafted
  have hfits := (fits_of_boundRefusal hbound).resources
  have hresources := draftOf_resources hdraft
  have hsub : (scene.hotspotOf component).saturatedResources ⊆ (Planning.ordered draft).resources := by
    intro id hid
    apply mem_sortedUnique.mpr
    rcases hresources with hown | ⟨-, n, haround⟩
    · rw [hown]
      exact hid
    · rw [haround]
      exact List.mem_append_left _ hid
  have hwhole := not_truncated hbuilt hc hsub (hfits.trans (min_le_right _ _))
  constructor
  · rw [← hwhole]
    exact hsub
  · intro id hid
    have hid := mem_sortedUnique.mp hid
    rcases hresources with hown | ⟨hkind, n, haround⟩
    · rw [hown] at hid
      exact .inl (hwhole ▸ hid)
    · rw [haround, List.mem_append] at hid
      rcases hid with hid | hid
      · exact .inl (hwhole ▸ hid)
      · have hhealthy : id ∈ scene.healthy component := List.mem_of_mem_take (List.mem_of_mem_take hid)
        exact .inr ⟨hkind, (mem_healthy_iff hbuilt).mp hhealthy⟩

end Component

/-- For every input and every local intent: it acts on all resources of its hotspot's component, as many
as the hotspot counts, and besides them only a relocation acts on healthy neighbours. -/
theorem local_intent_contained (engine : Engine) (input : DecisionInput) (intent : MitigationIntent)
    (hin : intent ∈ (engine.decide input).1.plan.intents) (hlocal : intent.escalation = false) :
    ∃ ev, admittedEvidence input = some ev ∧
      ∃ component ∈ (sceneOf input ev (recordBinding input)).components, ∃ hotspot ∈ (detect input).1.hotspots,
        Reports (sceneOf input ev (recordBinding input)) hotspot component ∧ intent.hotspot = hotspot.id ∧
        (component.map (sceneOf input ev (recordBinding input)).resourceId).Nodup ∧
        (component.map (sceneOf input ev (recordBinding input)).resourceId).length = hotspot.saturatedCount ∧
        Contained input ev (component.map (sceneOf input ev (recordBinding input)).resourceId) intent := by
  have hin : intent ∈
    (planInterventions (detect input).1 input.topology input.capacity input.policy input.now).intents := hin
  obtain ⟨p, hp, hsame⟩ := localPlanning_of_mem hin (.inr hlocal)
  obtain ⟨hotspot, hplanned⟩ := (mem_intents_iff hp).mp hin
  have hmem : hotspot ∈ (detect input).1.hotspots := hsame ▸ hplanned.mem
  obtain ⟨before, after, kind, -, -, hdrafted⟩ := plannedFor_iff.mp hplanned
  have howner : intent.hotspot = hotspot.id := by
    obtain ⟨draft, -, -, rfl⟩ := hdrafted
    rfl
  obtain ⟨ev, hadm, component, hc, authority, rfl⟩ :=
    Persistence.reported_component (List.mem_append_left _ hmem)
  have hbuilt := (gates_of_admitted hadm).built
  exact ⟨ev, hadm, component, hc, _, hmem, ⟨authority, rfl⟩, howner, ids_nodup hbuilt hc,
    List.length_map _, contained_of_drafted hbuilt hc ⟨authority, rfl⟩ hdrafted⟩

theorem pair_contained :
    ∃ intent ∈ (({} : Engine).decide (Justification.pairsInput Justification.bothTracked)).1.plan.intents,
      ∃ ev, admittedEvidence (Justification.pairsInput Justification.bothTracked) = some ev ∧
        ∃ component, Contained (Justification.pairsInput Justification.bothTracked) ev component intent := by
  have hany : (({} : Engine).decide (Justification.pairsInput Justification.bothTracked)).1.plan.intents.any
      (fun i ↦ !i.escalation) = true := by decide +kernel
  obtain ⟨intent, hin, hlocal⟩ := List.any_eq_true.mp hany
  rw [Bool.not_eq_true'] at hlocal
  obtain ⟨ev, hadm, component, -, hotspot, -, -, -, -, -, hcontained⟩ :=
    local_intent_contained {} (Justification.pairsInput Justification.bothTracked) intent hin hlocal
  exact ⟨intent, hin, ev, hadm, _, hcontained⟩

end HotspotGovernor.Containment
