import HotspotGovernor.Mitigation

namespace HotspotGovernor.Justification

open Foundation Lib Topology Evidence Authority AuthorityVector Detection Sampling Hotspots Detect
open Admissibility Verdicts Intervention Decisions Mitigation

/-- A finding speaks for one domain, and grants it exactly when it admits something. -/
structure SpeaksFor {α : Type} (domain : AuthorityDomain) (f : Finding α) : Prop where
  domain_eq : f.grant.domain = domain
  granted_iff : f.grant.granted = f.admitted.isSome

section Findings

variable (input : DecisionInput) (topology : TopologySnapshot)

theorem policyFinding_speaks : SpeaksFor .policy (policyFinding input) := by
  unfold policyFinding
  split
  · exact ⟨rfl, rfl⟩
  · split_ifs <;> exact ⟨rfl, rfl⟩

theorem capacityFinding_speaks : SpeaksFor .capacity (capacityFinding input topology) := by
  unfold capacityFinding
  split
  · exact ⟨rfl, rfl⟩
  · split_ifs <;> exact ⟨rfl, rfl⟩

theorem signalsFinding_speaks (capacity : Option CapacitySnapshot) :
    SpeaksFor .signals (signalsFinding input topology capacity) := by
  unfold signalsFinding
  split
  · exact ⟨rfl, rfl⟩
  · split
    · exact ⟨rfl, rfl⟩
    · split_ifs <;> exact ⟨rfl, rfl⟩

theorem pathsFinding_speaks : SpeaksFor .paths (pathsFinding input topology) := by
  unfold pathsFinding
  split
  · exact ⟨rfl, rfl⟩
  · split_ifs <;> exact ⟨rfl, rfl⟩

theorem trafficFinding_speaks (paths : Option PathSnapshot) :
    SpeaksFor .traffic (trafficFinding input paths) := by
  unfold trafficFinding
  split
  · exact ⟨rfl, rfl⟩
  · split
    · exact ⟨rfl, rfl⟩
    · split_ifs <;> exact ⟨rfl, rfl⟩

end Findings

/-- Whether a domain is granted by the last finding made for it. -/
def grants (v : AuthorityVector) (domain : AuthorityDomain) : Bool :=
  (v.effective domain).any AuthorityGrant.granted

theorem grants_push (v : AuthorityVector) (grant : AuthorityGrant) (domain : AuthorityDomain) :
    grants (v.push grant) domain = if grant.domain = domain then grant.granted else grants v domain := by
  unfold grants
  rw [effective_push]
  split_ifs <;> rfl

theorem grants_sealGrants (v : AuthorityVector) (domain : AuthorityDomain) :
    grants v.sealGrants domain = grants v domain := by
  unfold grants
  rw [effective, filter_sealGrants]
  cases v.effective domain <;> rfl

theorem authority_diagnose (r : FabricAssessment) (code : ErrorCode) (detail : String) :
    (r.diagnose code detail).authority = r.authority := by
  unfold FabricAssessment.diagnose
  split_ifs <;> rfl

theorem authority_record {α : Type} (r : FabricAssessment) (f : Finding α) :
    (r.record f).authority = r.authority.push f.grant := by
  unfold FabricAssessment.record
  cases f.diagnostic with
  | none => rfl
  | some d => exact authority_diagnose _ _ _

theorem grants_record {α : Type} {f : Finding α} {d : AuthorityDomain} (h : SpeaksFor d f)
    (r : FabricAssessment) (domain : AuthorityDomain) :
    grants (r.record f).authority domain =
      if d = domain then f.admitted.isSome else grants r.authority domain := by
  rw [authority_record, grants_push, h.domain_eq, h.granted_iff]

theorem grants_recordEvidence (input : DecisionInput) (topology : TopologySnapshot) :
    let v := (recordEvidence input topology).authority
    grants v .policy = (policyFinding input).admitted.isSome ∧ grants v .topology = true ∧
      grants v .capacity = (findingsOf input topology).capacity.admitted.isSome ∧
      grants v .signals = (findingsOf input topology).signals.admitted.isSome := by
  have ht : ∀ (r : FabricAssessment) (reason binding : String) (domain : AuthorityDomain),
      grants (r.grant .topology reason binding).authority domain =
        if .topology = domain then true else grants r.authority domain := by
    intro r reason binding domain
    exact grants_push r.authority ⟨.topology, true, reason, binding⟩ domain
  simp only [recordEvidence, findingsOf, opening, grants_record (trafficFinding_speaks input _),
    grants_record (pathsFinding_speaks input topology), grants_record (signalsFinding_speaks input topology _),
    grants_record (capacityFinding_speaks input topology), ht, grants_record (policyFinding_speaks input)]
  simp

theorem grants_collect (scene : Scene) (st : Collection) (component : List ℕ) (domain : AuthorityDomain)
    (hd : domain ≠ .attribution) :
    grants (collect scene st component).authority domain =
      if domain = .persistence then meetsWindow scene component else grants st.authority domain := by
  have hauth : (collect scene st component).authority =
      (st.authority.push (scene.attributionGrant (scene.attribution component))).push
        (Scene.persistenceGrant (scene.hotspotOf component)) := by
    unfold collect
    dsimp only
    split_ifs <;> rfl
  have hdom : (scene.attributionGrant (scene.attribution component)).domain = .attribution := by
    unfold Scene.attributionGrant
    split_ifs <;> rfl
  rw [hauth, grants_push, grants_push, hdom, if_neg (Ne.symm hd)]
  by_cases hp : domain = .persistence
  · subst hp
    rfl
  · rw [if_neg hp]
    exact if_neg (fun h ↦ hp h.symm)

theorem grants_foldl_collect (scene : Scene) (comps : List (List ℕ)) (st : Collection)
    {domain : AuthorityDomain} (ha : domain ≠ .attribution) (hp : domain ≠ .persistence) :
    grants (comps.foldl (collect scene) st).authority domain = grants st.authority domain := by
  induction comps generalizing st with
  | nil => rfl
  | cons c comps ih => rw [List.foldl_cons, ih, grants_collect scene st c domain ha, if_neg hp]

theorem grants_foldl_collect_persistence (scene : Scene) (comps : List (List ℕ)) (st : Collection)
    (c : List ℕ) : grants ((comps ++ [c]).foldl (collect scene) st).authority .persistence =
      meetsWindow scene c := by
  rw [List.foldl_append, List.foldl_cons, List.foldl_nil, grants_collect _ _ _ _ (by simp), if_pos rfl]

theorem authority_historyRecord (input : DecisionInput) (st : Collection) (r : FabricAssessment) :
    (historyRecord input st r).authority = r.authority := by
  unfold historyRecord
  dsimp only
  split_ifs <;> simp only [authority_diagnose]

theorem authority_verdict (r : FabricAssessment) : (verdict r).authority = r.authority := by
  unfold verdict
  split_ifs <;> rfl

theorem grants_escalate (input : DecisionInput) (r : FabricAssessment) {domain : AuthorityDomain}
    (hd : domain ≠ .mitigationBudget) :
    grants (escalate input r).authority domain = grants r.authority domain := by
  unfold escalate
  split
  · refine (grants_push r.authority _ domain).trans ?_
    rw [if_neg (fun h ↦ hd h.symm)]
  · refine (grants_push r.authority _ domain).trans ?_
    rw [if_neg (fun h ↦ hd h.symm)]

theorem grants_trackingRecord (input : DecisionInput) (r : FabricAssessment) {domain : AuthorityDomain}
    (hd : domain ≠ .persistence) :
    grants (trackingRecord input r).authority domain = grants r.authority domain := by
  unfold trackingRecord
  split_ifs
  · rfl
  · rw [authority_diagnose]
    refine (grants_push r.authority _ domain).trans ?_
    rw [if_neg (fun h ↦ hd h.symm)]

section Localized

variable {input : DecisionInput} {ev : BoundEvidence}

/-- The authority of a localized assessment, apart from the domains the seed loop and the budget
decide, is that of its evidence. -/
theorem grants_localize (r : FabricAssessment) {domain : AuthorityDomain} (ha : domain ≠ .attribution)
    (hp : domain ≠ .persistence) (hm : domain ≠ .mitigationBudget) :
    grants (localize input ev r).1.authority domain = grants r.authority domain := by
  unfold localize
  dsimp only [close]
  rw [grants_sealGrants, grants_escalate _ _ hm, authority_verdict, authority_historyRecord]
  unfold collectAll
  rw [grants_foldl_collect _ _ _ ha hp, grants_trackingRecord _ _ hp]

theorem grants_localize_persistence (r : FabricAssessment) {comps : List (List ℕ)} {c : List ℕ}
    (hc : (sceneOf input ev (trackingRecord input r).binding).components = comps ++ [c]) :
    grants (localize input ev r).1.authority .persistence =
      meetsWindow (sceneOf input ev (trackingRecord input r).binding) c := by
  unfold localize
  dsimp only [close]
  rw [grants_sealGrants, grants_escalate _ _ (by simp), authority_verdict, authority_historyRecord]
  unfold collectAll
  rw [hc, grants_foldl_collect_persistence]

theorem grants_detect (h : admittedEvidence input = some ev) :
    let v := (detect input).1.authority
    grants v .policy = (policyFinding input).admitted.isSome ∧ grants v .topology = true ∧
      grants v .capacity = true ∧ grants v .signals = true := by
  have hg := gates_of_admitted h
  obtain ⟨hpol, htop, hcap, hsig⟩ := grants_recordEvidence input ev.topology
  have hc : (findingsOf input ev.topology).capacity.admitted = some ev.capacity := hg.capacity
  have hs : (findingsOf input ev.topology).signals.admitted = some ev.signals := by
    refine Eq.trans ?_ hg.signals
    rw [← hg.capacity]
    rfl
  rw [hc] at hcap
  rw [hs] at hsig
  dsimp only
  rw [detect_eq_localize h]
  refine ⟨?_, ?_, ?_, ?_⟩
  · rw [grants_localize _ (by simp) (by simp) (by simp)]
    exact hpol
  · rw [grants_localize _ (by simp) (by simp) (by simp)]
    exact htop
  · rw [grants_localize _ (by simp) (by simp) (by simp)]
    exact hcap
  · rw [grants_localize _ (by simp) (by simp) (by simp)]
    exact hsig

end Localized

def requiredDomains : List AuthorityDomain :=
  [.policy, .topology, .capacity, .signals, .persistence, .mitigationBudget]

/-- The intent carries a sealed authority vector that grants everything it needs. -/
def Carries (intent : MitigationIntent) : Prop :=
  (∃ v : AuthorityVector, intent.authority = v.sealGrants) ∧
    ∀ domain ∈ requiredDomains, intent.authority.granted domain = true

/-- The last component of the saturated set, in resource order, meets the persistence window. -/
def LastMeetsWindow (input : DecisionInput) : Prop :=
  ∃ ev, admittedEvidence input = some ev ∧ ∃ c,
    (sceneOf input ev (recordBinding input)).components.getLast? = some c ∧
      meetsWindow (sceneOf input ev (recordBinding input)) c = true

theorem authority_of_local {input : DecisionInput} {engine : Engine} {intent : MitigationIntent}
    (hi : intent ∈ (engine.decide input).1.plan.intents) (hl : intent.escalation = false) :
    (∃ pol, input.policy = some pol ∧ pol.expiredAt input.now = false) ∧
      (∃ h, h ∈ (detect input).1.hotspots) ∧
      intent.authority = ((detect input).1.authority.grant .mitigationBudget
        "intent within the per-intent and whole-plan budget").sealGrants := by
  have hplan : (engine.decide input).1.plan =
      planInterventions (detect input).1 input.topology input.capacity input.policy input.now := rfl
  rw [hplan] at hi
  rcases planInterventions_cases (detect input).1 input.topology input.capacity input.policy input.now
    with ⟨hnil, -⟩ | ⟨t, pol, -, hpol, hlive, ⟨-, heq⟩ | ⟨-, heq⟩⟩
  · rw [hnil] at hi
    cases hi
  · rw [heq] at hi
    cases (mem_escalationPlan hi).1.symm.trans hl
  · have hw := within_localPlan ⟨(detect input).1, t, input.capacity, pol⟩
    rw [heq] at hi
    obtain ⟨h, hh, hem⟩ := hw.emitted hi
    exact ⟨⟨pol, hpol, hlive⟩, ⟨h, hh⟩, hem.justified⟩

/-- For every local intent of every plan: its authority vector justifies it exactly when the last
component of the saturated set is persistent, whichever component the intent is for. -/
theorem carries_iff (engine : Engine) (input : DecisionInput) (intent : MitigationIntent)
    (hi : intent ∈ (engine.decide input).1.plan.intents) (hl : intent.escalation = false) :
    Carries intent ↔ LastMeetsWindow input := by
  obtain ⟨⟨pol, hpol, hlive⟩, ⟨h, hh⟩, hauth⟩ := authority_of_local hi hl
  obtain ⟨ev, hadm, component, hcomp, -⟩ := Persistence.reported_component (List.mem_append_left _ hh)
  set scene := sceneOf input ev (recordBinding input) with hscene
  -- every domain but persistence is granted as soon as an intent is emitted at all
  have hgranted : ∀ domain, intent.authority.granted domain =
      if domain = .mitigationBudget then true else grants (detect input).1.authority domain := by
    intro domain
    rw [hauth, granted_sealGrants]
    refine (grants_push (detect input).1.authority _ domain).trans ?_
    by_cases hd : domain = .mitigationBudget
    · rw [if_pos hd, if_pos hd.symm]
    · rw [if_neg hd, if_neg (fun he ↦ hd he.symm)]
  obtain ⟨hp, ht, hc, hs⟩ := grants_detect hadm
  have hpolicy : (policyFinding input).admitted.isSome = true := by
    unfold policyFinding
    simp [hpol, hlive, Finding.allow]
  have hne : scene.components ≠ [] := List.ne_nil_of_mem hcomp
  have hlast : scene.components = scene.components.dropLast ++ [scene.components.getLast hne] :=
    (List.dropLast_append_getLast hne).symm
  have hpersist : grants (detect input).1.authority .persistence =
      meetsWindow scene (scene.components.getLast hne) := by
    rw [detect_eq_localize hadm]
    have hbinding : (trackingRecord input (account (countResources (recordEvidence input ev.topology)
        ev.topology.resources.length) (tallyOf ev input.thresholds input.now))).binding =
          recordBinding input := by
      refine (Reporting.trackingRecord_facts _ _).1.trans ?_
      exact congrArg (fun c ↦ c.2.2.2) (core_recordEvidence input ev.topology)
    rw [grants_localize_persistence _ (by rw [hbinding]; exact hlast), hbinding]
  have hcarries : Carries intent ↔ meetsWindow scene (scene.components.getLast hne) = true := by
    unfold Carries requiredDomains
    simp only [List.forall_mem_cons, hgranted, hp, ht, hc, hs, hpersist, hpolicy]
    simp [hauth]
  rw [hcarries]
  constructor
  · exact fun h ↦ ⟨ev, hadm, _, List.getLast?_eq_some_getLast hne, h⟩
  · rintro ⟨ev', hadm', c, hc', hm⟩
    rw [hadm] at hadm'
    obtain rfl := Option.some.inj hadm'
    rw [List.getLast?_eq_some_getLast hne] at hc'
    obtain rfl := Option.some.inj hc'
    exact hm

def fourSwitches : Result TopologySnapshot :=
  let s := (default : TopologySnapshot).addRegion ⟨1⟩ [] ⟨0⟩
  let s := (s.addResource ⟨1⟩ ⟨1⟩ .switch []).addResource ⟨2⟩ ⟨1⟩ .switch []
  let s := (s.addResource ⟨3⟩ ⟨1⟩ .switch []).addResource ⟨4⟩ ⟨1⟩ .switch []
  ((s.addLink ⟨1⟩ ⟨1⟩ ⟨2⟩).addLink ⟨2⟩ ⟨3⟩ ⟨4⟩).build

def fourCapacities : Result CapacitySnapshot :=
  let s := { (default : CapacitySnapshot) with observedAt := 10000 }
  let s := (s.add { resource := ⟨1⟩, capacityUnits := 100 }).add { resource := ⟨2⟩, capacityUnits := 100 }
  ((s.add { resource := ⟨3⟩, capacityUnits := 100 }).add { resource := ⟨4⟩, capacityUnits := 100 }).build

def fourSamples : Result SignalSnapshot :=
  let s := ((default : SignalSnapshot).add (islandSample 1 95)).add (islandSample 2 10)
  ((s.add (islandSample 3 95)).add (islandSample 4 10)).build

def pairsInput (tracker : SaturationTracker) : DecisionInput :=
  { topology := fourSwitches.toOption, capacity := fourCapacities.toOption
    signals := fourSamples.toOption, now := 10000
    policy := some { issuedAt := 9000, ttlMs := 60000 }
    tracker := some tracker }

def firstTracked : SaturationTracker := SaturationTracker.replace [(⟨1⟩, ⟨1000, 9000, 5⟩)]

def bothTracked : SaturationTracker :=
  SaturationTracker.replace [(⟨1⟩, ⟨1000, 9000, 5⟩), (⟨3⟩, ⟨1000, 9000, 5⟩)]

/-- The second switch is only a candidate, yet it takes the persistence authority away from the
intent for the first one. -/
theorem candidate_unseats_intent :
    ∃ intent ∈ (({} : Engine).decide (pairsInput firstTracked)).1.plan.intents,
      intent.escalation = false ∧ ¬ Carries intent := by
  have hany : (({} : Engine).decide (pairsInput firstTracked)).1.plan.intents.any
      (fun i ↦ !i.escalation && !i.authority.granted .persistence) = true := by decide +kernel
  obtain ⟨intent, hi, h⟩ := List.any_eq_true.mp hany
  rw [Bool.and_eq_true, Bool.not_eq_true', Bool.not_eq_true'] at h
  refine ⟨intent, hi, h.1, fun hc ↦ ?_⟩
  have hp := hc.2 .persistence (by simp [requiredDomains])
  rw [h.2] at hp
  cases hp

theorem both_carry : LastMeetsWindow (pairsInput bothTracked) ∧
    ∃ intent ∈ (({} : Engine).decide (pairsInput bothTracked)).1.plan.intents, Carries intent := by
  have hlast : LastMeetsWindow (pairsInput bothTracked) := by
    have h : (admittedEvidence (pairsInput bothTracked)).any (fun ev ↦
        let scene := sceneOf (pairsInput bothTracked) ev (recordBinding (pairsInput bothTracked))
        scene.components.getLast?.any (meetsWindow scene)) = true := by decide +kernel
    obtain ⟨ev, hev, h⟩ := (Option.any_eq_true _ _).mp h
    obtain ⟨c, hc, h⟩ := (Option.any_eq_true _ _).mp h
    exact ⟨ev, hev, c, hc, h⟩
  have hany : (({} : Engine).decide (pairsInput bothTracked)).1.plan.intents.any
      (fun i ↦ !i.escalation) = true := by decide +kernel
  obtain ⟨intent, hi, h⟩ := List.any_eq_true.mp hany
  exact ⟨hlast, intent, hi, (carries_iff {} _ intent hi (by simpa using h)).mpr hlast⟩

end HotspotGovernor.Justification
