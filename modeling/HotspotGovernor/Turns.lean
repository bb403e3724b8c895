import HotspotGovernor.Suppression

namespace HotspotGovernor.Turns

open Foundation Lib Topology Evidence Authority Detection Hotspots Detect Admissibility
open Intervention Decisions Mitigation Suppression

section Chosen

variable (p : Planning) (plan : InterventionPlan) (hotspot : Hotspot)

/-- The kind that is emitted for a hotspot after the plan so far: the first that passes every check. -/
def chosen : Option MitigationKind :=
  if passedOver p plan hotspot then none
  else (candidateKinds hotspot.cause).find? (emits p hotspot plan.planScopeSharePpm)

def DraftedAs (kind : MitigationKind) (intent : MitigationIntent) : Prop :=
  ∃ draft, p.draftOf hotspot kind = .ok draft ∧ p.boundRefusal (Planning.ordered draft) = none ∧
    intent = p.intentOf hotspot plan kind (Planning.ordered draft)

variable {p plan hotspot}

theorem DraftedAs.kind_eq {kind : MitigationKind} {intent : MitigationIntent}
    (h : DraftedAs p plan hotspot kind intent) : intent.kind = kind := by
  obtain ⟨draft, -, -, rfl⟩ := h
  rfl

theorem DraftedAs.congr {plan' : InterventionPlan} (hl : ledger plan' = ledger plan) {kind : MitigationKind}
    {intent : MitigationIntent} (h : DraftedAs p plan' hotspot kind intent) :
    DraftedAs p plan hotspot kind intent := by
  obtain ⟨draft, hdraft, hbound, rfl⟩ := h
  have hauthority : plan'.authority = plan.authority := congrArg (fun l ↦ l.2.2) hl
  refine ⟨draft, hdraft, hbound, ?_⟩
  rw [Planning.intentOf, Planning.intentOf, hauthority]

theorem consider_cases (plan : InterventionPlan) (kind : MitigationKind) :
    if emits p hotspot plan.planScopeSharePpm kind then
      (p.consider hotspot (plan, false) kind).2 = true ∧ ∃ intent, DraftedAs p plan hotspot kind intent ∧
        (p.consider hotspot (plan, false) kind).1.intents = plan.intents ++ [intent]
    else (p.consider hotspot (plan, false) kind).2 = false ∧
      ledger (p.consider hotspot (plan, false) kind).1 = ledger plan := by
  have hweighed := (weighed_consider p hotspot plan kind).emitted
  split
  · next hemits =>
    rw [hemits] at hweighed
    refine ⟨hweighed, ?_⟩
    rw [emits, Bool.and_eq_true] at hemits
    obtain ⟨hallow, hdraft⟩ := hemits
    cases hd : p.draftOf hotspot kind with
    | error reason =>
      rw [hd] at hdraft
      cases hdraft
    | ok draft =>
      rw [hd] at hdraft
      simp only [Bool.and_eq_true, decide_eq_true_eq, Option.isNone_iff_eq_none] at hdraft
      obtain ⟨⟨hbound, hshare⟩, htotal⟩ := hdraft
      refine ⟨_, ⟨draft, hd, hbound, rfl⟩, ?_⟩
      simp only [Planning.consider, Bool.false_eq_true, if_false, hallow, Bool.not_true, hd, Planning.emit,
        hbound, if_neg (UInt32.not_lt.mpr hshare), if_neg (UInt64.not_lt.mpr htotal)]
  · next hemits =>
    rw [Bool.not_eq_true] at hemits
    rw [hemits] at hweighed
    refine ⟨hweighed, ?_⟩
    by_cases hallow : p.budget.allows kind = true
    · cases hd : p.draftOf hotspot kind with
      | error reason =>
        simp only [Planning.consider, Bool.false_eq_true, if_false, hallow, Bool.not_true, hd]
        exact ledger_noteSuppression _ _ _ _
      | ok draft =>
        have hout : p.consider hotspot (plan, false) kind =
            p.emit hotspot plan kind (Planning.ordered draft) := by
          simp only [Planning.consider, Bool.false_eq_true, if_false, hallow, Bool.not_true, hd]
        rw [hout] at hweighed ⊢
        simp only [Planning.emit] at hweighed ⊢
        split
        · exact ledger_noteSuppression _ _ _ _
        · next hbound =>
          rw [hbound] at hweighed
          dsimp only at hweighed ⊢
          split_ifs at hweighed ⊢
          · exact ledger_noteSuppression _ _ _ _
          · exact ledger_noteSuppression _ _ _ _
    · simp only [Planning.consider, Bool.false_eq_true, if_false, hallow, Bool.not_false, if_true]
      exact ledger_noteSuppression _ _ _ _

theorem ledger_foldl_emitted (kinds : List MitigationKind) (plan : InterventionPlan) :
    ledger (kinds.foldl (p.consider hotspot) (plan, true)).1 = ledger plan := by
  induction kinds generalizing plan with
  | nil => rfl
  | cons kind kinds ih =>
    have hstep : p.consider hotspot (plan, true) kind = (plan.noteSuppression kind hotspot.id
        "a higher-priority intent was already emitted for this hotspot", true) := if_pos rfl
    rw [List.foldl_cons, hstep, ih, ledger_noteSuppression]

theorem foldl_consider_cases (kinds : List MitigationKind) (plan : InterventionPlan) :
    match kinds.find? (emits p hotspot plan.planScopeSharePpm) with
    | none => ledger (kinds.foldl (p.consider hotspot) (plan, false)).1 = ledger plan
    | some kind => ∃ intent, DraftedAs p plan hotspot kind intent ∧
        (kinds.foldl (p.consider hotspot) (plan, false)).1.intents = plan.intents ++ [intent] := by
  induction kinds generalizing plan with
  | nil => rfl
  | cons kind kinds ih =>
    have hcases := @consider_cases p hotspot plan kind
    rw [List.foldl_cons]
    generalize p.consider hotspot (plan, false) kind = out at hcases
    obtain ⟨next, emitted⟩ := out
    cases hemits : emits p hotspot plan.planScopeSharePpm kind with
    | true =>
      rw [List.find?_cons_of_pos hemits]
      rw [hemits, if_pos rfl] at hcases
      obtain ⟨rfl, intent, hdraft, hintents⟩ := hcases
      refine ⟨intent, hdraft, ?_⟩
      have hrest := congrArg Prod.fst (@ledger_foldl_emitted p hotspot kinds next)
      exact hrest.trans hintents
    | false =>
      rw [List.find?_cons_of_neg (by simp [hemits])]
      rw [hemits, if_neg Bool.false_ne_true] at hcases
      obtain ⟨rfl, hledger⟩ := hcases
      have hrest := ih next
      have hshare : next.planScopeSharePpm = plan.planScopeSharePpm := congrArg (fun l ↦ l.2.1) hledger
      have hintents : next.intents = plan.intents := congrArg Prod.fst hledger
      rw [hshare] at hrest
      cases hfind : kinds.find? (emits p hotspot plan.planScopeSharePpm) with
      | none =>
        rw [hfind] at hrest
        exact hrest.trans hledger
      | some kind =>
        rw [hfind] at hrest
        obtain ⟨intent, hdraft, happend⟩ := hrest
        rw [hintents] at happend
        exact ⟨intent, hdraft.congr hledger, happend⟩

theorem planHotspot_turn (p : Planning) (plan : InterventionPlan) (hotspot : Hotspot) :
    match chosen p plan hotspot with
    | none => (p.planHotspot plan hotspot).intents = plan.intents
    | some kind => ∃ intent, DraftedAs p plan hotspot kind intent ∧
        (p.planHotspot plan hotspot).intents = plan.intents ++ [intent] := by
  have hnote : ∀ (plan : InterventionPlan) (kind : MitigationKind) (reason : String),
      (plan.noteSuppression kind hotspot.id reason).intents = plan.intents :=
    fun plan kind reason ↦ congrArg Prod.fst (ledger_noteSuppression plan kind hotspot.id reason)
  by_cases hover : passedOver p plan hotspot
  · rw [chosen, if_pos hover]
    simp only [Planning.planHotspot]
    split
    · exact hnote _ _ _
    · next heligible =>
      rw [if_pos (hover.resolve_left heligible)]
      exact hnote _ _ _
  · obtain ⟨heligible, hroom⟩ := not_or.mp hover
    have hcases := @foldl_consider_cases p hotspot (candidateKinds hotspot.cause) plan
    have hserved := (advances_foldl_consider p hotspot (candidateKinds hotspot.cause) plan).1
    rw [chosen, if_neg hover, Planning.planHotspot, if_neg heligible, if_neg hroom]
    cases hfind : (candidateKinds hotspot.cause).find? (emits p hotspot plan.planScopeSharePpm) with
    | none =>
      rw [hfind] at hcases
      have hany : (candidateKinds hotspot.cause).any (emits p hotspot plan.planScopeSharePpm) = false := by
        rw [List.any_eq_false]
        exact List.find?_eq_none.mp hfind
      dsimp only
      rw [hserved, hany, if_neg Bool.false_ne_true, hnote]
      exact congrArg Prod.fst hcases
    | some kind =>
      rw [hfind] at hcases
      have hany : (candidateKinds hotspot.cause).any (emits p hotspot plan.planScopeSharePpm) = true :=
        List.any_eq_true.mpr ⟨kind, List.mem_of_find?_eq_some hfind, List.find?_some hfind⟩
      dsimp only
      rw [hserved, hany, if_pos rfl]
      exact hcases

end Chosen

section Planned

variable (p : Planning)

def PlannedFor (hotspot : Hotspot) (intent : MitigationIntent) : Prop :=
  ∃ before after, p.assessment.hotspots = before ++ hotspot :: after ∧
    (p.planHotspot (before.foldl p.planHotspot (openPlan p.assessment)) hotspot).intents =
      (before.foldl p.planHotspot (openPlan p.assessment)).intents ++ [intent]

variable {p} {hotspot : Hotspot} {intent : MitigationIntent}

theorem PlannedFor.mem (h : PlannedFor p hotspot intent) : hotspot ∈ p.assessment.hotspots := by
  obtain ⟨before, after, hsplit, -⟩ := h
  rw [hsplit]
  exact List.mem_append_right _ List.mem_cons_self

theorem plannedFor_iff : PlannedFor p hotspot intent ↔
    ∃ before after kind, p.assessment.hotspots = before ++ hotspot :: after ∧
      chosen p (before.foldl p.planHotspot (openPlan p.assessment)) hotspot = some kind ∧
      DraftedAs p (before.foldl p.planHotspot (openPlan p.assessment)) hotspot kind intent := by
  constructor
  · rintro ⟨before, after, hsplit, hintents⟩
    have hturn := planHotspot_turn p (before.foldl p.planHotspot (openPlan p.assessment)) hotspot
    cases hchosen : chosen p (before.foldl p.planHotspot (openPlan p.assessment)) hotspot with
    | none =>
      rw [hchosen] at hturn
      dsimp only at hturn
      rw [hintents] at hturn
      simp at hturn
    | some kind =>
      rw [hchosen] at hturn
      obtain ⟨intent', hdraft, happend⟩ := hturn
      obtain rfl : intent = intent' := by
        have hsame := List.append_cancel_left (hintents.symm.trans happend)
        simpa using hsame
      exact ⟨before, after, kind, hsplit, hchosen, hdraft⟩
  · rintro ⟨before, after, kind, hsplit, hchosen, hdraft⟩
    have hturn := planHotspot_turn p (before.foldl p.planHotspot (openPlan p.assessment)) hotspot
    rw [hchosen] at hturn
    obtain ⟨intent', hdraft', happend⟩ := hturn
    obtain rfl : intent = intent' := by
      obtain ⟨draft, hd, -, rfl⟩ := hdraft
      obtain ⟨draft', hd', -, rfl⟩ := hdraft'
      rw [Except.ok.inj (hd.symm.trans hd')]
    exact ⟨before, after, hsplit, happend⟩

theorem mem_foldl_planHotspot (hotspots : List Hotspot) (plan : InterventionPlan) :
    intent ∈ (hotspots.foldl p.planHotspot plan).intents ↔ intent ∈ plan.intents ∨
      ∃ before hotspot after, hotspots = before ++ hotspot :: after ∧
        (p.planHotspot (before.foldl p.planHotspot plan) hotspot).intents =
          (before.foldl p.planHotspot plan).intents ++ [intent] := by
  induction hotspots using List.reverseRecOn with
  | nil => simp
  | append_singleton hotspots last ih =>
    rw [List.foldl_append, List.foldl_cons, List.foldl_nil]
    have hturn := planHotspot_turn p (hotspots.foldl p.planHotspot plan) last
    have hlast : intent ∈ (p.planHotspot (hotspots.foldl p.planHotspot plan) last).intents ↔
        intent ∈ (hotspots.foldl p.planHotspot plan).intents ∨
          (p.planHotspot (hotspots.foldl p.planHotspot plan) last).intents =
            (hotspots.foldl p.planHotspot plan).intents ++ [intent] := by
      cases hchosen : chosen p (hotspots.foldl p.planHotspot plan) last with
      | none =>
        rw [hchosen] at hturn
        dsimp only at hturn
        rw [hturn]
        simp
      | some kind =>
        rw [hchosen] at hturn
        obtain ⟨intent', -, happend⟩ := hturn
        rw [happend, List.mem_append, List.mem_singleton, List.append_cancel_left_eq, List.cons.injEq,
          and_iff_left rfl, eq_comm]
    rw [hlast, ih, or_assoc]
    apply or_congr_right
    constructor
    · rintro (⟨before, h, after, rfl, hintents⟩ | hintents)
      · exact ⟨before, h, after ++ [last], by simp, hintents⟩
      · exact ⟨hotspots, last, [], rfl, hintents⟩
    · rintro ⟨before, h, after, hsplit, hintents⟩
      cases after using List.reverseRecOn with
      | nil =>
        obtain ⟨rfl, hsame⟩ := List.append_inj' hsplit rfl
        obtain rfl : last = h := by simpa using hsame
        exact .inr hintents
      | append_singleton after last' =>
        rw [← List.cons_append, ← List.append_assoc] at hsplit
        obtain ⟨rfl, -⟩ := List.append_inj' hsplit rfl
        exact .inl ⟨before, h, after, rfl, hintents⟩

theorem mem_localPlan : intent ∈ (p.localPlan (openPlan p.assessment)).intents ↔
    ∃ hotspot, PlannedFor p hotspot intent := by
  have hloop := @mem_foldl_planHotspot p intent p.assessment.hotspots
    (openPlan p.assessment)
  have hopen : intent ∉ (openPlan p.assessment).intents := fun h ↦ by cases h
  refine hloop.trans ?_
  rw [or_iff_right hopen]
  constructor
  · rintro ⟨before, hotspot, after, h⟩
    exact ⟨hotspot, before, after, h⟩
  · rintro ⟨hotspot, before, after, h⟩
    exact ⟨before, hotspot, after, h⟩

end Planned

/-- What local planning works on: a built topology that the assessment is about, and a live policy,
while nothing is escalated. -/
def localPlanning (assessment : FabricAssessment) (topology : Option TopologySnapshot)
    (capacity : Option CapacitySnapshot) (policy : Option PolicySnapshot) (now : Millis) : Option Planning :=
  match topology.filter TopologySnapshot.built with
  | none => none
  | some topology =>
    if (assessment.binding.topology.valid ∧ assessment.binding.topology ≠ topology.id) ∨
        assessment.escalationRequired then none
    else (policy.filter (fun p ↦ !p.expiredAt now)).map (fun policy ↦ ⟨assessment, topology, capacity, policy⟩)

theorem planInterventions_localPlanning (assessment : FabricAssessment) (topology : Option TopologySnapshot)
    (capacity : Option CapacitySnapshot) (policy : Option PolicySnapshot) (now : Millis) :
    match localPlanning assessment topology capacity policy now with
    | none => ∀ intent ∈ (planInterventions assessment topology capacity policy now).intents,
        intent.kind = .escalateGlobalCongestion ∧ intent.escalation = true
    | some p => p.assessment = assessment ∧
        planInterventions assessment topology capacity policy now = p.localPlan (openPlan assessment) := by
  have hnone : ∀ domain reason, ∀ intent ∈ ((openPlan assessment).withhold domain reason).intents,
      intent.kind = .escalateGlobalCongestion ∧ intent.escalation = true :=
    fun _ _ intent hin ↦ by cases hin
  rw [localPlanning, planInterventions]
  cases topology.filter TopologySnapshot.built with
  | none => exact hnone _ _
  | some topology =>
    dsimp only
    by_cases hbound : assessment.binding.topology.valid = true ∧ assessment.binding.topology ≠ topology.id
    · rw [if_pos (.inl hbound), if_pos hbound]
      exact hnone _ _
    · rw [if_neg hbound]
      by_cases hesc : assessment.escalationRequired = true
      · rw [if_pos (.inr hesc)]
        cases policy.filter (fun p ↦ !p.expiredAt now) with
        | none => exact hnone _ _
        | some policy =>
          dsimp only
          rw [if_pos hesc]
          intro intent hin
          obtain ⟨hescalation, hkind, -⟩ := mem_escalationPlan hin
          exact ⟨hkind, hescalation⟩
      · rw [if_neg (not_or.mpr ⟨hbound, hesc⟩)]
        cases policy.filter (fun p ↦ !p.expiredAt now) with
        | none => exact hnone _ _
        | some policy =>
          dsimp only [Option.map_some]
          rw [if_neg hesc]
          exact ⟨rfl, rfl⟩

section Local

variable {assessment : FabricAssessment} {topology : Option TopologySnapshot} {capacity : Option CapacitySnapshot}
  {policy : Option PolicySnapshot} {now : Millis} {p : Planning} {intent : MitigationIntent}

theorem policy_of_localPlanning (h : localPlanning assessment topology capacity policy now = some p) :
    policy = some p.policy := by
  simp only [localPlanning] at h
  split at h
  · cases h
  · split at h
    · cases h
    · obtain ⟨policy', hfilter, rfl⟩ := Option.map_eq_some_iff.mp h
      exact (Option.filter_eq_some_iff.mp hfilter).1

theorem mem_intents_iff (h : localPlanning assessment topology capacity policy now = some p) :
    intent ∈ (planInterventions assessment topology capacity policy now).intents ↔
      ∃ hotspot, PlannedFor p hotspot intent := by
  have hplan := planInterventions_localPlanning assessment topology capacity policy now
  rw [h] at hplan
  obtain ⟨hsame, heq⟩ := hplan
  rw [heq, ← hsame, mem_localPlan]

theorem localPlanning_of_mem (hin : intent ∈ (planInterventions assessment topology capacity policy now).intents)
    (hlocal : intent.kind ≠ .escalateGlobalCongestion ∨ intent.escalation = false) :
    ∃ p, localPlanning assessment topology capacity policy now = some p ∧ p.assessment = assessment := by
  have hplan := planInterventions_localPlanning assessment topology capacity policy now
  cases hp : localPlanning assessment topology capacity policy now with
  | none =>
    rw [hp] at hplan
    obtain ⟨hkind, hescalation⟩ := hplan intent hin
    rcases hlocal with hne | hnot
    · exact absurd hkind hne
    · cases hescalation.symm.trans hnot
  | some p =>
    rw [hp] at hplan
    exact ⟨p, rfl, hplan.1⟩

end Local

end HotspotGovernor.Turns
