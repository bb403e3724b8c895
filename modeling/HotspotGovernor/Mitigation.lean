import HotspotGovernor.Decisions
import HotspotGovernor.Persistence
import HotspotGovernor.Verdicts

namespace HotspotGovernor.Mitigation

open Foundation Lib Topology Evidence Authority Detection Hotspots Detect Admissibility
open Intervention Decisions Persistence SortedList

/-- The part of a plan that suppressions and rejection counts never touch. -/
def ledger (plan : InterventionPlan) : List MitigationIntent × UInt32 × AuthorityVector :=
  (plan.intents, plan.planScopeSharePpm, plan.authority)

@[simp] theorem ledger_noteSuppression (plan : InterventionPlan) (kind : MitigationKind)
    (hotspot : HotspotId) (reason : String) :
    ledger (plan.noteSuppression kind hotspot reason) = ledger plan := by
  unfold InterventionPlan.noteSuppression
  split_ifs <;> rfl

@[simp] theorem ledger_countRejected (plan : InterventionPlan) :
    ledger plan.countRejected = ledger plan := rfl

theorem ledger_foldl_withheld (hotspots : List Hotspot) (plan : InterventionPlan) :
    ledger (hotspots.foldl Planning.withheldForEscalation plan) = ledger plan := by
  induction hotspots generalizing plan with
  | nil => rfl
  | cons h hotspots ih =>
    rw [List.foldl_cons, ih, Planning.withheldForEscalation]
    split_ifs
    · exact ledger_noteSuppression _ _ _ _
    · rfl

section

variable {tag : IdTag}

theorem mem_sortedUnique {id : StrongId tag} {ids : List (StrongId tag)} :
    id ∈ Planning.sortedUnique ids ↔ id ∈ ids := mem_unique_sortBy_id

theorem nodup_sortedUnique (ids : List (StrongId tag)) : (Planning.sortedUnique ids).Nodup :=
  (unique_sortBy_strict ids).nodup

end

/-- A draft acts on the hotspot's own resources, and reduces rates by no more than the budget. -/
structure Drafted (p : Planning) (hotspot : Hotspot) (draft : IntentDraft) : Prop where
  member : ∀ id ∈ draft.resources, id ∈ hotspot.saturatedResources ∨ id ∈ hotspot.healthyNeighbors
  reduces : draft.rateDeltaPpm ≤ 0
  bounded : -(p.budget.maxRateDeltaPpm.toNat : ℤ) ≤ draft.rateDeltaPpm

theorem Drafted.of_members {p : Planning} {hotspot : Hotspot} {draft : IntentDraft}
    (h : draft.resources = hotspot.saturatedResources) (hr : draft.rateDeltaPpm = 0) :
    Drafted p hotspot draft := by
  refine ⟨fun id hid ↦ Or.inl (h ▸ hid), hr.le, ?_⟩
  rw [hr]
  omega

theorem Drafted.of_relocation {p : Planning} {hotspot : Hotspot} {draft : IntentDraft} {n : ℕ}
    (h : draft.resources = hotspot.saturatedResources ++ hotspot.healthyNeighbors.take n)
    (hr : draft.rateDeltaPpm = 0) : Drafted p hotspot draft := by
  refine ⟨fun id hid ↦ ?_, hr.le, ?_⟩
  · rw [h] at hid
    exact (List.mem_append.mp hid).imp_right List.mem_of_mem_take
  · rw [hr]
    omega

theorem toNat_min_le (a b : UInt32) : (min a b).toNat ≤ b.toNat := by
  rw [show min a b = if a ≤ b then a else b from rfl]
  split_ifs with h
  · exact UInt32.le_iff_toNat_le.mp h
  · exact le_rfl

theorem draftOf_drafted {p : Planning} {hotspot : Hotspot} {kind : MitigationKind} {draft : IntentDraft}
    (h : p.draftOf hotspot kind = .ok draft) : Drafted p hotspot draft := by
  unfold Planning.draftOf at h
  dsimp only at h
  cases kind with
  | none | escalateGlobalCongestion | admissionReduction =>
    obtain rfl := Except.ok.inj h
    exact .of_members rfl rfl
  | flowRelocation =>
    dsimp only at h
    split_ifs at h
    · obtain rfl := Except.ok.inj h
      exact .of_relocation rfl rfl
    · obtain rfl := Except.ok.inj h
      exact .of_relocation rfl rfl
  | pathRebalance | resourceIsolation =>
    dsimp only at h
    split_ifs at h
    obtain rfl := Except.ok.inj h
    exact .of_members rfl rfl
  | ratePacingChange =>
    dsimp only at h
    split_ifs at h
    obtain rfl := Except.ok.inj h
    have hmin := toNat_min_le (p.excess hotspot) p.budget.maxRateDeltaPpm
    exact ⟨fun id hid ↦ Or.inl hid, by dsimp only; omega, by dsimp only; omega⟩

theorem Drafted.ordered {p : Planning} {hotspot : Hotspot} {draft : IntentDraft}
    (h : Drafted p hotspot draft) : Drafted p hotspot (Planning.ordered draft) :=
  ⟨fun id hid ↦ h.member id (mem_sortedUnique.mp hid), h.reduces, h.bounded⟩

structure Emitted (p : Planning) (authority : AuthorityVector) (hotspot : Hotspot)
    (intent : MitigationIntent) : Prop where
  eligible : hotspot.remediation = .eligible
  owner : intent.hotspot = hotspot.id
  scope : intent.hotspotScope = hotspot.scope
  isLocal : intent.escalation = false
  allowed : p.budget.allows intent.kind = true
  resourcesNodup : intent.affectedResources.Nodup
  pathsNodup : intent.affectedPaths.Nodup
  flowsNodup : intent.affectedFlows.Nodup
  resourcesBound : intent.affectedResources.length ≤
    min p.budget.maxAffectedResources.toNat Limits.kMaxIntentAffectedResources
  pathsBound : intent.affectedPaths.length ≤
    min p.budget.maxAffectedPaths.toNat Limits.kMaxIntentAffectedPaths
  flowsBound : intent.affectedFlows.length ≤
    min p.budget.maxAffectedFlows.toNat Limits.kMaxIntentAffectedFlows
  known : ∀ id ∈ intent.affectedResources, p.topology.hasResource id = true
  member : ∀ id ∈ intent.affectedResources,
    id ∈ hotspot.saturatedResources ∨ id ∈ hotspot.healthyNeighbors
  share : intent.scopeSharePpm ≤ p.budget.maxScopeSharePpm
  reduces : intent.rateDeltaPpm ≤ 0
  rateBound : -(p.budget.maxRateDeltaPpm.toNat : ℤ) ≤ intent.rateDeltaPpm
  justified : intent.authority = (authority.grant .mitigationBudget
    "intent within the per-intent and whole-plan budget").sealGrants

structure Fits (p : Planning) (draft : IntentDraft) : Prop where
  resources : draft.resources.length ≤
    min p.budget.maxAffectedResources.toNat Limits.kMaxIntentAffectedResources
  paths : draft.paths.length ≤ min p.budget.maxAffectedPaths.toNat Limits.kMaxIntentAffectedPaths
  flows : draft.flows.length ≤ min p.budget.maxAffectedFlows.toNat Limits.kMaxIntentAffectedFlows
  known : ∀ id ∈ draft.resources, p.topology.hasResource id = true

theorem fits_of_boundRefusal {p : Planning} {draft : IntentDraft} (h : p.boundRefusal draft = none) :
    Fits p draft := by
  unfold Planning.boundRefusal at h
  split_ifs at h with h₁ h₂ h₃ h₄ h₅
  rw [not_or, not_or] at h₄
  refine ⟨?_, ?_, ?_, ?_⟩
  · exact le_min (not_lt.mp h₁) (not_lt.mp h₄.1)
  · exact le_min (not_lt.mp h₂) (not_lt.mp h₄.2.1)
  · exact le_min (not_lt.mp h₃) (not_lt.mp h₄.2.2)
  · rw [Bool.not_eq_true, Bool.not_eq_false', List.all_eq_true] at h₅
    exact h₅

structure Extends (p : Planning) (hotspot : Hotspot) (plan plan' : InterventionPlan) : Prop where
  intents : ∃ intent, Emitted p plan.authority hotspot intent ∧
    plan'.intents = plan.intents ++ [intent] ∧
    plan'.planScopeSharePpm.toNat = plan.planScopeSharePpm.toNat + intent.scopeSharePpm.toNat
  bound : plan'.planScopeSharePpm ≤ p.budget.maxPlanScopeSharePpm
  authority : plan'.authority = plan.authority

/-- Adding two shares in 64 bits does not overflow, and narrowing a sum within the budget is exact. -/
theorem toNat_projected {a b limit : UInt32} (h : ¬ a.toUInt64 + b.toUInt64 > limit.toUInt64) :
    (a.toUInt64 + b.toUInt64).toUInt32.toNat = a.toNat + b.toNat ∧
      (a.toUInt64 + b.toUInt64).toUInt32 ≤ limit := by
  have ha := a.toNat_lt
  have hb := b.toNat_lt
  have hl := limit.toNat_lt
  have hsum : (a.toUInt64 + b.toUInt64).toNat = a.toNat + b.toNat := by
    rw [UInt64.toNat_add, UInt32.toNat_toUInt64, UInt32.toNat_toUInt64]
    omega
  rw [gt_iff_lt, UInt64.lt_iff_toNat_lt, hsum, UInt32.toNat_toUInt64] at h
  have hnat : (a.toUInt64 + b.toUInt64).toUInt32.toNat = a.toNat + b.toNat := by
    rw [UInt64.toNat_toUInt32, hsum]
    omega
  exact ⟨hnat, UInt32.le_iff_toNat_le.mpr (by omega)⟩

theorem emit_cases {p : Planning} {hotspot : Hotspot} (plan : InterventionPlan) {kind : MitigationKind}
    {draft : IntentDraft} (he : hotspot.remediation = .eligible) (hk : p.budget.allows kind = true)
    (hd : Drafted p hotspot (Planning.ordered draft)) :
    let out := p.emit hotspot plan kind (Planning.ordered draft)
    (out.2 = false ∧ ledger out.1 = ledger plan) ∨ (out.2 = true ∧ Extends p hotspot plan out.1) := by
  unfold Planning.emit
  cases hb : p.boundRefusal (Planning.ordered draft) with
  | some reason => exact Or.inl ⟨rfl, ledger_noteSuppression _ _ _ _⟩
  | none =>
    have hf := fits_of_boundRefusal hb
    dsimp only
    split_ifs with hs hp
    · exact Or.inl ⟨rfl, ledger_noteSuppression _ _ _ _⟩
    · exact Or.inl ⟨rfl, ledger_noteSuppression _ _ _ _⟩
    · obtain ⟨hsum, hbound⟩ := toNat_projected hp
      refine Or.inr ⟨rfl, ⟨_, ?_, rfl, hsum⟩, hbound, rfl⟩
      exact
        { eligible := he
          owner := rfl
          scope := rfl
          isLocal := rfl
          allowed := hk
          resourcesNodup := nodup_sortedUnique draft.resources
          pathsNodup := nodup_sortedUnique draft.paths
          flowsNodup := nodup_sortedUnique draft.flows
          resourcesBound := hf.resources
          pathsBound := hf.paths
          flowsBound := hf.flows
          known := hf.known
          member := hd.member
          share := UInt32.not_lt.mp hs
          reduces := hd.reduces
          rateBound := hd.bounded
          justified := rfl }

/-- The state of a hotspot's candidate loop: nothing emitted yet, or exactly one intent. -/
def Considered (p : Planning) (hotspot : Hotspot) (plan : InterventionPlan) (st : InterventionPlan × Bool) :
    Prop :=
  (st.2 = false ∧ ledger st.1 = ledger plan) ∨ (st.2 = true ∧ Extends p hotspot plan st.1)

theorem Extends.congr_left {p : Planning} {hotspot : Hotspot} {plan plan' out : InterventionPlan}
    (h : Extends p hotspot plan' out) (hl : ledger plan' = ledger plan) : Extends p hotspot plan out := by
  simp only [ledger, Prod.mk.injEq] at hl
  obtain ⟨hi, hs, ha⟩ := hl
  obtain ⟨⟨intent, hem, hin, hsum⟩, hb, hauth⟩ := h
  rw [ha] at hem hauth
  rw [hi] at hin
  rw [hs] at hsum
  exact ⟨⟨intent, hem, hin, hsum⟩, hb, hauth⟩

theorem Extends.congr_right {p : Planning} {hotspot : Hotspot} {plan out out' : InterventionPlan}
    (h : Extends p hotspot plan out) (hl : ledger out' = ledger out) : Extends p hotspot plan out' := by
  simp only [ledger, Prod.mk.injEq] at hl
  obtain ⟨hi, hs, ha⟩ := hl
  obtain ⟨⟨intent, hem, hin, hsum⟩, hb, hauth⟩ := h
  rw [← hi] at hin
  rw [← hs] at hsum hb
  rw [← ha] at hauth
  exact ⟨⟨intent, hem, hin, hsum⟩, hb, hauth⟩

theorem Considered.consider {p : Planning} {hotspot : Hotspot} {plan : InterventionPlan}
    {st : InterventionPlan × Bool} (he : hotspot.remediation = .eligible)
    (h : Considered p hotspot plan st) (kind : MitigationKind) :
    Considered p hotspot plan (p.consider hotspot st kind) := by
  unfold Planning.consider
  rcases h with ⟨hst, hl⟩ | ⟨hst, hext⟩
  · rw [if_neg (by simp [hst])]
    split_ifs with hk
    · exact Or.inl ⟨rfl, (ledger_noteSuppression _ _ _ _).trans hl⟩
    · rw [Bool.not_eq_true, Bool.not_eq_false'] at hk
      cases hd : p.draftOf hotspot kind with
      | error reason => exact Or.inl ⟨rfl, (ledger_noteSuppression _ _ _ _).trans hl⟩
      | ok draft =>
        rcases emit_cases st.1 he hk (draftOf_drafted hd).ordered with ⟨hf, hl'⟩ | ⟨ht, hext⟩
        · exact Or.inl ⟨hf, hl'.trans hl⟩
        · exact Or.inr ⟨ht, hext.congr_left hl⟩
  · rw [if_pos hst]
    exact Or.inr ⟨rfl, hext.congr_right (ledger_noteSuppression _ _ _ _)⟩

theorem considered_foldl {p : Planning} {hotspot : Hotspot} {plan : InterventionPlan}
    (he : hotspot.remediation = .eligible) (kinds : List MitigationKind) {st : InterventionPlan × Bool}
    (h : Considered p hotspot plan st) :
    Considered p hotspot plan (kinds.foldl (p.consider hotspot) st) := by
  induction kinds generalizing st with
  | nil => exact h
  | cons kind kinds ih => exact ih (h.consider he kind)

/-- Planning for a hotspot leaves the ledger alone, or appends one intent while the plan is below
its intent budget. -/
theorem planHotspot_cases (p : Planning) (plan : InterventionPlan) (hotspot : Hotspot) :
    ledger (p.planHotspot plan hotspot) = ledger plan ∨
      (plan.intents.length < p.budget.maxIntentsPerPlan.toNat ∧
        Extends p hotspot plan (p.planHotspot plan hotspot)) := by
  unfold Planning.planHotspot
  by_cases he : hotspot.remediation ≠ .eligible
  · rw [if_pos he]
    exact Or.inl (ledger_noteSuppression _ _ _ _)
  rw [if_neg he]
  by_cases hn : plan.intents.length ≥ p.budget.maxIntentsPerPlan.toNat
  · rw [if_pos hn]
    exact Or.inl (ledger_noteSuppression _ _ _ _)
  rw [if_neg hn]
  have hc : Considered p hotspot plan
      ((candidateKinds hotspot.cause).foldl (p.consider hotspot) (plan, false)) :=
    considered_foldl (not_not.mp he) _ (Or.inl ⟨rfl, rfl⟩)
  dsimp only
  rcases hc with ⟨hf, hl⟩ | ⟨ht, hext⟩
  · rw [if_neg (by simp [hf])]
    exact Or.inl ((ledger_noteSuppression _ _ _ _).trans hl)
  · rw [if_pos ht]
    exact Or.inr ⟨not_le.mp hn, hext⟩

/-- The budget invariant of the planning loop over the hotspots seen so far. -/
structure Within (p : Planning) (authority : AuthorityVector) (hotspots : List Hotspot)
    (plan : InterventionPlan) : Prop where
  served : ∃ served : List Hotspot, served.Sublist hotspots ∧
    List.Forall₂ (Emitted p authority) served plan.intents
  count : plan.intents.length ≤ p.budget.maxIntentsPerPlan.toNat
  share : plan.planScopeSharePpm.toNat = (plan.intents.map (fun i ↦ i.scopeSharePpm.toNat)).sum
  bound : plan.planScopeSharePpm ≤ p.budget.maxPlanScopeSharePpm
  authority : plan.authority = authority

theorem Within.planHotspot {p : Planning} {authority : AuthorityVector} {hotspots : List Hotspot}
    {plan : InterventionPlan} (h : Within p authority hotspots plan) (hotspot : Hotspot) :
    Within p authority (hotspots ++ [hotspot]) (p.planHotspot plan hotspot) := by
  obtain ⟨served, hsub, hall⟩ := h.served
  rcases planHotspot_cases p plan hotspot with hl | ⟨hlt, hext⟩
  · simp only [ledger, Prod.mk.injEq] at hl
    obtain ⟨hi, hs, ha⟩ := hl
    refine ⟨⟨served, hsub.trans (List.sublist_append_left _ _), ?_⟩, ?_, ?_, ?_, ?_⟩
    · rw [hi]
      exact hall
    · rw [hi]
      exact h.count
    · rw [hi, hs]
      exact h.share
    · rw [hs]
      exact h.bound
    · rw [ha]
      exact h.authority
  · obtain ⟨⟨intent, hem, hi, hs⟩, hb, ha⟩ := hext
    rw [h.authority] at hem
    refine ⟨⟨served ++ [hotspot], hsub.append_right _, ?_⟩, ?_, ?_, hb, ha.trans h.authority⟩
    · rw [hi]
      exact List.rel_append hall (.cons hem .nil)
    · rw [hi, List.length_append, List.length_singleton]
      exact hlt
    · rw [hi, hs, h.share, List.map_append, List.sum_append]
      rfl

theorem within_foldl {p : Planning} {authority : AuthorityVector} {done : List Hotspot}
    {plan : InterventionPlan} (h : Within p authority done plan) (hotspots : List Hotspot) :
    Within p authority (done ++ hotspots) (hotspots.foldl p.planHotspot plan) := by
  induction hotspots generalizing done plan with
  | nil => simpa using h
  | cons hotspot hotspots ih =>
    have hnext := ih (h.planHotspot hotspot)
    rwa [List.append_assoc] at hnext

theorem exists_of_forall₂ {α β : Type} {R : α → β → Prop} {as : List α} {bs : List β}
    (h : List.Forall₂ R as bs) {b : β} (hb : b ∈ bs) : ∃ a ∈ as, R a b := by
  induction h with
  | nil => cases hb
  | @cons a b' as bs hab _ ih =>
    rcases List.mem_cons.mp hb with rfl | hb
    · exact ⟨a, List.mem_cons_self, hab⟩
    · obtain ⟨a', ha', hr⟩ := ih hb
      exact ⟨a', List.mem_cons_of_mem _ ha', hr⟩

theorem Within.emitted {p : Planning} {authority : AuthorityVector} {hotspots : List Hotspot}
    {plan : InterventionPlan} (h : Within p authority hotspots plan) {intent : MitigationIntent}
    (hi : intent ∈ plan.intents) : ∃ hotspot ∈ hotspots, Emitted p authority hotspot intent := by
  obtain ⟨served, hsub, hserved⟩ := h.served
  obtain ⟨hotspot, hh, hem⟩ := exists_of_forall₂ hserved hi
  exact ⟨hotspot, hsub.subset hh, hem⟩

theorem within_open (p : Planning) (r : FabricAssessment) : Within p r.authority [] (openPlan r) :=
  ⟨⟨[], .refl _, .nil⟩, Nat.zero_le _, rfl, UInt32.le_iff_toNat_le.mpr (Nat.zero_le _), rfl⟩

theorem within_localPlan (p : Planning) :
    Within p p.assessment.authority p.assessment.hotspots
      (p.assessment.hotspots.foldl p.planHotspot (openPlan p.assessment)) :=
  within_foldl (within_open p p.assessment) p.assessment.hotspots

theorem escalationPlan_cases (p : Planning) :
    let plan := p.escalationPlan (openPlan p.assessment)
    plan.planScopeSharePpm = 0 ∧ (plan.intents = [] ∨ ∃ q, plan.intents = [p.escalationIntent q]) := by
  have hw := ledger_foldl_withheld p.assessment.hotspots (openPlan p.assessment)
  simp only [ledger, Prod.mk.injEq] at hw
  unfold Planning.escalationPlan
  dsimp only
  split_ifs
  · refine ⟨hw.2.1, Or.inr ⟨p.assessment.hotspots.foldl Planning.withheldForEscalation
      (openPlan p.assessment), ?_⟩⟩
    simp only [InterventionPlan.sealAuthority, hw.1]
    rfl
  · have hn := ledger_noteSuppression
      (p.assessment.hotspots.foldl Planning.withheldForEscalation (openPlan p.assessment))
      .escalateGlobalCongestion default "global escalation is disabled by policy"
    simp only [ledger, Prod.mk.injEq] at hn
    exact ⟨hn.2.1.trans hw.2.1, Or.inl (hn.1.trans hw.1)⟩

theorem mem_escalationPlan {p : Planning} {intent : MitigationIntent}
    (h : intent ∈ (p.escalationPlan (openPlan p.assessment)).intents) :
    intent.escalation = true ∧ intent.kind = .escalateGlobalCongestion ∧ intent.scopeSharePpm = 0 := by
  obtain ⟨-, hnil | ⟨q, hone⟩⟩ := escalationPlan_cases p
  · rw [hnil] at h
    cases h
  · rw [hone, List.mem_singleton] at h
    rw [h]
    exact ⟨rfl, rfl, rfl⟩

theorem planInterventions_cases (r : FabricAssessment) (topology : Option TopologySnapshot)
    (capacity : Option CapacitySnapshot) (policy : Option PolicySnapshot) (now : Millis) :
    let plan := planInterventions r topology capacity policy now
    (plan.intents = [] ∧ plan.planScopeSharePpm = 0) ∨
    ∃ t pol, topology = some t ∧ policy = some pol ∧ pol.expiredAt now = false ∧
      let p : Planning := ⟨r, t, capacity, pol⟩
      (r.escalationRequired = true ∧ plan = p.escalationPlan (openPlan r)) ∨
      (r.escalationRequired = false ∧ plan = p.localPlan (openPlan r)) := by
  unfold planInterventions
  dsimp only
  cases ht : topology.filter TopologySnapshot.built with
  | none => exact Or.inl ⟨rfl, rfl⟩
  | some t =>
    dsimp only
    by_cases hbound : r.binding.topology.valid = true ∧ r.binding.topology ≠ t.id
    · rw [if_pos hbound]
      exact Or.inl ⟨rfl, rfl⟩
    rw [if_neg hbound]
    cases hp : policy.filter (fun p ↦ !p.expiredAt now) with
    | none => exact Or.inl ⟨rfl, rfl⟩
    | some pol =>
      obtain ⟨hpol, hlive⟩ := Option.filter_eq_some_iff.mp hp
      rw [Bool.not_eq_true'] at hlive
      have htop := (Option.filter_eq_some_iff.mp ht).1
      refine Or.inr ⟨t, pol, htop, hpol, hlive, ?_⟩
      dsimp only
      by_cases hesc : r.escalationRequired = true
      · rw [if_pos hesc]
        exact Or.inl ⟨hesc, rfl⟩
      · rw [if_neg hesc]
        exact Or.inr ⟨by simpa using hesc, rfl⟩

/-- An intent that a confirmed hotspot and a live policy account for. -/
structure Justified (input : DecisionInput) (hotspot : Hotspot) (intent : MitigationIntent) : Prop where
  policyLive : ∃ policy, input.policy = some policy ∧ policy.expiredAt input.now = false
  confirmed : hotspot.persistent = true
  confined : hotspot.scope = .localized ∨ hotspot.scope = .regional
  owner : intent.hotspot = hotspot.id
  isLocal : intent.escalation = false
  allowed : input.budget.allows intent.kind = true
  resourcesNodup : intent.affectedResources.Nodup
  pathsNodup : intent.affectedPaths.Nodup
  flowsNodup : intent.affectedFlows.Nodup
  resourcesBound : intent.affectedResources.length ≤
    min input.budget.maxAffectedResources.toNat Limits.kMaxIntentAffectedResources
  pathsBound : intent.affectedPaths.length ≤
    min input.budget.maxAffectedPaths.toNat Limits.kMaxIntentAffectedPaths
  flowsBound : intent.affectedFlows.length ≤
    min input.budget.maxAffectedFlows.toNat Limits.kMaxIntentAffectedFlows
  known : ∃ topology, input.topology = some topology ∧
    ∀ id ∈ intent.affectedResources, topology.hasResource id = true
  member : ∀ id ∈ intent.affectedResources,
    id ∈ hotspot.saturatedResources ∨ id ∈ hotspot.healthyNeighbors
  share : intent.scopeSharePpm ≤ input.budget.maxScopeSharePpm
  rate : -(input.budget.maxRateDeltaPpm.toNat : ℤ) ≤ intent.rateDeltaPpm ∧ intent.rateDeltaPpm ≤ 0

theorem confined_of_eligible {input : DecisionInput} {h : Hotspot} (hh : h ∈ (detect input).1.hotspots)
    (he : h.remediation = .eligible) :
    h.persistent = true ∧ (h.scope = .localized ∨ h.scope = .regional) := by
  obtain ⟨ev, -, component, -, authority, rfl⟩ := reported_component (List.mem_append_left _ hh)
  set scene := sceneOf input ev (recordBinding input) with hscene
  have hne : (scene.hotspotOf component).scope ≠ .none := Verdicts.classify_ne_none scene _ _ _
  have hrem : (scene.remediationOf (scene.hotspotOf component).persistent
    (scene.hotspotOf component).scope (scene.hotspotOf component).sharePpm).1 = .eligible := he
  unfold Scene.remediationOf at hrem
  split_ifs at hrem with h₁ h₂ h₃ h₄ h₅
  refine ⟨by simpa using h₂, ?_⟩
  dsimp only
  cases hs : (scene.hotspotOf component).scope with
  | unknown => exact absurd hs h₃
  | none => exact absurd hs hne
  | localized => exact Or.inl rfl
  | regional => exact Or.inr rfl
  | global => exact absurd hs h₄

theorem justified_of_emitted {input : DecisionInput} {t : TopologySnapshot} {pol : PolicySnapshot}
    {authority : AuthorityVector} {h : Hotspot} {intent : MitigationIntent}
    (ht : input.topology = some t) (hpol : input.policy = some pol)
    (hlive : pol.expiredAt input.now = false) (hh : h ∈ (detect input).1.hotspots)
    (hem : Emitted ⟨(detect input).1, t, input.capacity, pol⟩ authority h intent) :
    Justified input h intent := by
  have hbudget : input.budget = pol.budget := by
    rw [DecisionInput.budget, hpol]
    rfl
  obtain ⟨hp, hs⟩ := confined_of_eligible hh hem.eligible
  refine
    { policyLive := ⟨pol, hpol, hlive⟩
      confirmed := hp
      confined := hs
      owner := hem.owner
      isLocal := hem.isLocal
      allowed := ?_
      resourcesNodup := hem.resourcesNodup
      pathsNodup := hem.pathsNodup
      flowsNodup := hem.flowsNodup
      resourcesBound := ?_
      pathsBound := ?_
      flowsBound := ?_
      known := ⟨t, ht, hem.known⟩
      member := hem.member
      share := ?_
      rate := ⟨?_, hem.reduces⟩ } <;> rw [hbudget]
  · exact hem.allowed
  · exact hem.resourcesBound
  · exact hem.pathsBound
  · exact hem.flowsBound
  · exact hem.share
  · exact hem.rateBound

/-- The shares of a plan's intents add up, and stay within the whole-plan budget. -/
def SharesWithin (input : DecisionInput) (plan : InterventionPlan) : Prop :=
  plan.planScopeSharePpm.toNat = (plan.intents.map (fun i ↦ i.scopeSharePpm.toNat)).sum ∧
    plan.planScopeSharePpm ≤ input.budget.maxPlanScopeSharePpm

theorem sharesWithin_of_zero {input : DecisionInput} {plan : InterventionPlan}
    (hs : plan.planScopeSharePpm = 0) (hi : ∀ i ∈ plan.intents, i.scopeSharePpm = 0) :
    SharesWithin input plan := by
  refine ⟨?_, ?_⟩
  · rw [hs, eq_comm]
    rw [UInt32.toNat_zero, List.sum_eq_zero_iff_forall_eq_nat, List.forall_mem_map]
    intro i hmem
    rw [hi i hmem]
    rfl
  · rw [hs]
    exact UInt32.le_iff_toNat_le.mpr (Nat.zero_le _)

/-- For every input and tracker: a plan under escalation holds at most the escalation, any other
plan holds at most one intent per hotspot, each within every bound and accounted for by a confirmed
hotspot and a live policy, and the plan's share is the sum of its intents' shares, within budget. -/
theorem plan_bounded (engine : Engine) (input : DecisionInput) :
    let decision := (engine.decide input).1
    (decision.assessment.escalationRequired = true → decision.plan.intents.length ≤ 1 ∧
      ∀ intent ∈ decision.plan.intents, intent.escalation = true ∧
        intent.kind = .escalateGlobalCongestion) ∧
    (decision.assessment.escalationRequired = false →
      decision.plan.intents.length ≤ input.budget.maxIntentsPerPlan.toNat ∧
      ∃ served : List Hotspot, served.Sublist decision.assessment.hotspots ∧
        List.Forall₂ (Justified input) served decision.plan.intents) ∧
    SharesWithin input decision.plan := by
  have hplan : (engine.decide input).1.plan =
      planInterventions (detect input).1 input.topology input.capacity input.policy input.now := rfl
  have hassess : (engine.decide input).1.assessment = (detect input).1 := rfl
  dsimp only
  rw [hplan, hassess]
  rcases planInterventions_cases (detect input).1 input.topology input.capacity input.policy input.now
    with ⟨hnil, hzero⟩ | ⟨t, pol, ht, hpol, hlive, ⟨hesc, heq⟩ | ⟨hesc, heq⟩⟩
  · rw [hnil]
    refine ⟨fun _ ↦ ⟨Nat.zero_le _, by simp⟩, fun _ ↦ ⟨Nat.zero_le _, [], List.nil_sublist _, .nil⟩, ?_⟩
    exact sharesWithin_of_zero hzero (by simp [hnil])
  · obtain ⟨hshare, hintents⟩ := escalationPlan_cases ⟨(detect input).1, t, input.capacity, pol⟩
    rw [heq]
    refine ⟨fun _ ↦ ⟨?_, fun i hi ↦ (mem_escalationPlan hi).imp_right And.left⟩, fun hno ↦ ?_, ?_⟩
    · rcases hintents with h | ⟨q, h⟩ <;> rw [h]
      · exact Nat.zero_le _
      · exact le_rfl
    · rw [hesc] at hno
      cases hno
    · exact sharesWithin_of_zero hshare (fun i hi ↦ (mem_escalationPlan hi).2.2)
  · have hw := within_localPlan ⟨(detect input).1, t, input.capacity, pol⟩
    have hbudget : input.budget = pol.budget := by
      rw [DecisionInput.budget, hpol]
      rfl
    obtain ⟨served, hsub, hserved⟩ := hw.served
    rw [heq]
    refine ⟨fun hyes ↦ ?_, fun _ ↦ ⟨?_, served, hsub, ?_⟩, hw.share, ?_⟩
    · rw [hesc] at hyes
      cases hyes
    · rw [hbudget]
      exact hw.count
    · have hmem : ∀ h ∈ served, h ∈ (detect input).1.hotspots := fun h hh ↦ hsub.subset hh
      refine List.Forall₂.imp ?_ ((List.forall₂_and_left _ _).mpr ⟨hmem, hserved⟩)
      intro h intent hboth
      exact justified_of_emitted ht hpol hlive hboth.1 hboth.2
    · rw [hbudget]
      exact hw.bound

end HotspotGovernor.Mitigation
