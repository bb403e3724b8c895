import HotspotGovernor.Turns

namespace HotspotGovernor.Isolation

open Foundation Lib Topology Evidence Detection Detect Verdicts
open Intervention Mitigation Suppression Turns

/-- A saturated resource of the hotspot's own reports drops, in admissible evidence. -/
def OwnDrops (assessment : FabricAssessment) (hotspot : Hotspot) : Prop :=
  ∃ entry ∈ assessment.pressures, entry.resource ∈ hotspot.saturatedResources ∧ entry.admissible = true ∧
    entry.saturated = true ∧ entry.dropUnits > 0

instance (assessment : FabricAssessment) (hotspot : Hotspot) : Decidable (OwnDrops assessment hotspot) :=
  inferInstanceAs (Decidable (∃ entry ∈ assessment.pressures, _))

section Claim

variable (assessment : FabricAssessment) (topology : Option TopologySnapshot)
  (capacity : Option CapacitySnapshot) (policy : Option PolicySnapshot) (now : Millis)

/-- Every isolation in a plan is planned for a hotspot, and only for hotspots with drops of their own. -/
def IsolationGrounded : Prop :=
  ∀ intent ∈ (planInterventions assessment topology capacity policy now).intents,
    intent.kind = .resourceIsolation →
      ∃ p, localPlanning assessment topology capacity policy now = some p ∧
        (∃ hotspot, PlannedFor p hotspot intent) ∧
        ∀ hotspot, PlannedFor p hotspot intent → OwnDrops assessment hotspot

end Claim

def isolationDraft (hotspot : Hotspot) : IntentDraft :=
  { resources := hotspot.saturatedResources
    rationale := "isolate the degraded resource so the fabric can drain it" }

/-- Everything but the drops speaks for isolating the hotspot: no kind before it is emitted, it is allowed,
and the hotspot's resources fit the bounds. -/
structure Isolates (p : Planning) (plan : InterventionPlan) (hotspot : Hotspot) : Prop where
  considered : ¬ passedOver p plan hotspot
  candidate : MitigationKind.resourceIsolation ∈ candidateKinds hotspot.cause
  first : ∀ kind ∈ (candidateKinds hotspot.cause).takeWhile (· ≠ .resourceIsolation),
    emits p hotspot plan.planScopeSharePpm kind = false
  allowed : p.budget.allows .resourceIsolation = true
  fits : p.boundRefusal (Planning.ordered (isolationDraft hotspot)) = none
  share : p.scopeShare (Planning.ordered (isolationDraft hotspot)) ≤ p.budget.maxScopeSharePpm
  total : plan.planScopeSharePpm.toUInt64 +
    (p.scopeShare (Planning.ordered (isolationDraft hotspot))).toUInt64 ≤ p.budget.maxPlanScopeSharePpm.toUInt64

theorem find?_eq_some_iff_first {α : Type} [DecidableEq α] {q : α → Bool} {xs : List α} {b : α} :
    xs.find? q = some b ↔ q b = true ∧ b ∈ xs ∧ ∀ a ∈ xs.takeWhile (· ≠ b), q a = false := by
  induction xs with
  | nil => simp
  | cons x xs ih =>
    by_cases hx : x = b
    · subst hx
      rw [List.takeWhile_cons_of_neg (by simp)]
      cases hq : q x with
      | true => simp [hq]
      | false =>
        rw [List.find?_cons_of_neg (by simp [hq]), ih]
        simp [hq]
    · rw [List.takeWhile_cons_of_pos (by simp [hx]), List.forall_mem_cons, List.mem_cons,
        or_iff_right (Ne.symm hx)]
      cases hq : q x with
      | true => simp [hq, hx]
      | false =>
        rw [List.find?_cons_of_neg (by simp [hq]), ih]
        simp

section Chosen

variable {p : Planning} {plan : InterventionPlan} {hotspot : Hotspot}

theorem draftOf_isolation : p.draftOf hotspot .resourceIsolation =
    if p.hasDrops then .ok (isolationDraft hotspot)
    else .error "no drop evidence on the saturated resources: isolation is not authorised" := by
  rw [Planning.draftOf]
  cases p.hasDrops <;> rfl

theorem emits_isolation_iff {share : UInt32} : emits p hotspot share .resourceIsolation = true ↔
    p.hasDrops = true ∧ p.budget.allows .resourceIsolation = true ∧
      p.boundRefusal (Planning.ordered (isolationDraft hotspot)) = none ∧
      p.scopeShare (Planning.ordered (isolationDraft hotspot)) ≤ p.budget.maxScopeSharePpm ∧
      share.toUInt64 + (p.scopeShare (Planning.ordered (isolationDraft hotspot))).toUInt64 ≤
        p.budget.maxPlanScopeSharePpm.toUInt64 := by
  rw [emits, draftOf_isolation]
  cases p.hasDrops with
  | false => simp
  | true =>
    rw [if_pos rfl]
    simp only [Bool.and_eq_true, Option.isNone_iff_eq_none, decide_eq_true_eq, true_and, and_assoc]

theorem chosen_isolation_iff : chosen p plan hotspot = some .resourceIsolation ↔
    p.hasDrops = true ∧ Isolates p plan hotspot := by
  rw [chosen]
  split
  · next hover =>
    simp only [reduceCtorEq, false_iff, not_and]
    exact fun _ h ↦ h.considered hover
  · next hover =>
    rw [find?_eq_some_iff_first, emits_isolation_iff]
    constructor
    · rintro ⟨⟨hdrops, hallow, hfits, hshare, htotal⟩, hmem, hfirst⟩
      exact ⟨hdrops, hover, hmem, hfirst, hallow, hfits, hshare, htotal⟩
    · rintro ⟨hdrops, h⟩
      exact ⟨⟨hdrops, h.allowed, h.fits, h.share, h.total⟩, h.candidate, h.first⟩

end Chosen

section Theorem

variable (assessment : FabricAssessment) (topology : Option TopologySnapshot)
  (capacity : Option CapacitySnapshot) (policy : Option PolicySnapshot) (now : Millis)

/-- Where drops are reported at all, every hotspot that everything else speaks for isolating has drops of
its own. -/
def DropsAtHome : Prop :=
  ∀ p, localPlanning assessment topology capacity policy now = some p → p.hasDrops = true →
    ∀ before hotspot after, assessment.hotspots = before ++ hotspot :: after →
      Isolates p (before.foldl p.planHotspot (openPlan assessment)) hotspot → OwnDrops assessment hotspot

/-- For every assessment, topology, capacity, policy and time: isolation rests on the hotspot's own drops
exactly when it is never carried by the drops of another one. The search for drops runs over the whole
fabric. -/
theorem isolation_grounded_iff : IsolationGrounded assessment topology capacity policy now ↔
    DropsAtHome assessment topology capacity policy now := by
  have hplan := planInterventions_localPlanning assessment topology capacity policy now
  rw [IsolationGrounded, DropsAtHome]
  cases hlocal : localPlanning assessment topology capacity policy now with
  | none =>
    rw [hlocal] at hplan
    constructor
    · exact fun _ p hp ↦ by cases hp
    · intro _ intent hin hkind
      rw [(hplan intent hin).1] at hkind
      cases hkind
  | some p =>
    rw [hlocal] at hplan
    obtain ⟨rfl, heq⟩ := hplan
    rw [heq]
    constructor
    · intro h p' hp hdrops before hotspot after hsplit hisolates
      obtain rfl := Option.some.inj hp
      have hchosen := chosen_isolation_iff.mpr ⟨hdrops, hisolates⟩
      have hturn := planHotspot_turn p (before.foldl p.planHotspot (openPlan p.assessment)) hotspot
      rw [hchosen] at hturn
      obtain ⟨intent, hdraft, hintents⟩ := hturn
      have hplanned : PlannedFor p hotspot intent := ⟨before, after, hsplit, hintents⟩
      obtain ⟨p', hp', -, hall⟩ := h intent (mem_localPlan.mpr ⟨hotspot, hplanned⟩) hdraft.kind_eq
      obtain rfl := Option.some.inj hp'
      exact hall hotspot hplanned
    · intro h intent hin hkind
      refine ⟨p, rfl, mem_localPlan.mp hin, ?_⟩
      intro hotspot hplanned
      obtain ⟨before, after, kind, hsplit, hchosen, hdraft⟩ := plannedFor_iff.mp hplanned
      rw [← hdraft.kind_eq, hkind] at hchosen
      obtain ⟨hdrops, hisolates⟩ := chosen_isolation_iff.mp hchosen
      exact h p rfl hdrops before hotspot after hsplit hisolates

variable {assessment topology capacity policy now}

theorem IsolationGrounded.affected (h : IsolationGrounded assessment topology capacity policy now)
    {intent : MitigationIntent}
    (hin : intent ∈ (planInterventions assessment topology capacity policy now).intents)
    (hkind : intent.kind = .resourceIsolation) : ∃ hotspot ∈ assessment.hotspots,
      OwnDrops assessment hotspot ∧
        intent.affectedResources = Planning.sortedUnique hotspot.saturatedResources := by
  obtain ⟨p, hp, ⟨hotspot, hplanned⟩, hall⟩ := h intent hin hkind
  have hplan := planInterventions_localPlanning assessment topology capacity policy now
  rw [hp] at hplan
  refine ⟨hotspot, hplan.1 ▸ hplanned.mem, hall hotspot hplanned, ?_⟩
  obtain ⟨before, after, kind, -, hchosen, hdraft⟩ := plannedFor_iff.mp hplanned
  obtain rfl : MitigationKind.resourceIsolation = kind := hkind.symm.trans hdraft.kind_eq
  obtain ⟨draft, hd, -, rfl⟩ := hdraft
  rw [draftOf_isolation, if_pos (chosen_isolation_iff.mp hchosen).1] at hd
  obtain rfl := Except.ok.inj hd
  rfl

end Theorem

def dropSamples : Result SignalSnapshot :=
  let s := ((default : SignalSnapshot).add (islandSample 1 100)).add (islandSample 2 10)
  ((s.add { islandSample 3 100 with dropUnits := 5 }).add (islandSample 4 10)).build

def isolateOnly : PolicySnapshot :=
  { issuedAt := 9000, ttlMs := 60000
    budget :=
      { allowFlowRelocation := false, allowPathRebalance := false, allowAdmissionReduction := false
        allowRateChange := false } }

/-- Two separate pairs of switches, the first of each pair saturated, the second of them with drops. -/
def dropInput : DecisionInput :=
  { Justification.pairsInput Justification.bothTracked with
    signals := dropSamples.toOption
    policy := some isolateOnly }

theorem isolated_without_drops : ¬ IsolationGrounded (detect dropInput).1 dropInput.topology
    dropInput.capacity dropInput.policy dropInput.now := by
  intro h
  have hplan : (planInterventions (detect dropInput).1 dropInput.topology dropInput.capacity dropInput.policy
      dropInput.now).intents.map (fun i ↦ (i.kind, i.affectedResources)) =
        [(.resourceIsolation, [⟨1⟩])] := by decide +kernel
  have hown : ∀ hotspot ∈ (detect dropInput).1.hotspots, OwnDrops (detect dropInput).1 hotspot →
      hotspot.saturatedResources = [⟨3⟩] := by decide +kernel
  obtain ⟨intent, hintents, hintent⟩ := List.map_eq_singleton_iff.mp hplan
  have hin := List.mem_singleton_self intent
  rw [← hintents] at hin
  rw [Prod.mk.injEq] at hintent
  obtain ⟨hotspot, hmem, hdrops, haffected⟩ := h.affected hin hintent.1
  rw [hintent.2, hown hotspot hmem hdrops] at haffected
  revert haffected
  decide

end HotspotGovernor.Isolation
