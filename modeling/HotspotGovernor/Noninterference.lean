import HotspotGovernor.Mitigation

namespace HotspotGovernor.Noninterference

open Foundation Lib Topology Evidence Authority Detection Sampling Hotspots Detect
open Admissibility Reporting Verdicts Intervention Decisions

def plainHotspot (h : Hotspot) : Hotspot := { h with id := default, key := "", binding := {}, authority := {} }

theorem persistent_plain (h : Hotspot) : (plainHotspot h).persistent = h.persistent := rfl

def plainIntent (i : MitigationIntent) : MitigationIntent :=
  { i with id := default, hotspot := default, escalationHotspot := default, binding := {}, authority := {} }

/-- An assessment without the identities of its hotspots, the text of its findings and the part of
its binding that names paths and traffic. -/
def plain (r : FabricAssessment) : FabricAssessment :=
  { r with
    hotspots := r.hotspots.map plainHotspot
    candidates := r.candidates.map plainHotspot
    diagnostics := []
    authority := {}
    binding := { r.binding with
      paths := default, pathGeneration := default, traffic := default, trafficGeneration := default } }

@[simp] theorem plain_diagnose (r : FabricAssessment) (code : ErrorCode) (detail : String) :
    plain (r.diagnose code detail) = plain r := by
  unfold FabricAssessment.diagnose
  split_ifs <;> rfl

@[simp] theorem plain_record {α : Type} (r : FabricAssessment) (f : Finding α) :
    plain (r.record f) = plain r := by
  unfold FabricAssessment.record
  cases f.diagnostic with
  | none => rfl
  | some d => exact plain_diagnose _ _ _

@[simp] theorem plain_grant (r : FabricAssessment) (domain : AuthorityDomain) (reason binding : String) :
    plain (r.grant domain reason binding) = plain r := rfl

@[simp] theorem plain_deny (r : FabricAssessment) (domain : AuthorityDomain) (reason binding : String) :
    plain (r.deny domain reason binding) = plain r := rfl

@[simp] theorem plain_trackingRecord (input : DecisionInput) (r : FabricAssessment) :
    plain (trackingRecord input r) = plain r := by
  unfold trackingRecord
  split_ifs
  · rfl
  · rw [plain_diagnose, plain_deny]

@[simp] theorem plain_historyRecord (input : DecisionInput) (st : Collection) (r : FabricAssessment) :
    plain (historyRecord input st r) = plain r := by
  unfold historyRecord
  dsimp only
  split_ifs <;> simp only [plain_diagnose]

@[simp] theorem plain_close (r : FabricAssessment) : plain (close r) = plain r := by
  unfold plain close
  simp only [List.map_map]
  rfl

theorem widest_plain (hotspots : List Hotspot) : widest (hotspots.map plainHotspot) = widest hotspots := by
  rw [widest, List.foldl_map]
  rfl

theorem countP_plain (hotspots : List Hotspot) (scope : CongestionScope) :
    (hotspots.map plainHotspot).countP (fun h ↦ h.scope = scope) =
      hotspots.countP (fun h ↦ h.scope = scope) := by
  rw [List.countP_map]
  rfl

theorem plain_verdict (r : FabricAssessment) : plain (verdict r) = verdict (plain r) := by
  unfold verdict
  have hh : (plain r).hotspots = r.hotspots.map plainHotspot := rfl
  have hc : (plain r).candidates = r.candidates.map plainHotspot := rfl
  simp only [hh, hc, List.map_eq_nil_iff, widest_plain, countP_plain]
  split_ifs <;> rfl

theorem foldl_share_plain (hotspots : List Hotspot) :
    (hotspots.map plainHotspot).foldl (fun total h ↦ satAdd total h.sharePpm.toUInt64) 0 =
      hotspots.foldl (fun total h ↦ satAdd total h.sharePpm.toUInt64) 0 := by
  rw [List.foldl_map]
  rfl

theorem escalation_plain (input : DecisionInput) (r : FabricAssessment) :
    escalation input (plain r) = escalation input r := by
  unfold escalation
  have hh : (plain r).hotspots = r.hotspots.map plainHotspot := rfl
  simp only [hh, foldl_share_plain, ne_eq, List.map_eq_nil_iff, List.length_map]
  rfl

theorem plain_escalate (input : DecisionInput) (r : FabricAssessment) :
    plain (escalate input r) = plain (escalate input (plain r)) := by
  unfold escalate
  rw [escalation_plain]
  have hh : (plain r).hotspots.map plainHotspot = r.hotspots.map plainHotspot := by
    simp only [plain, List.map_map]
    rfl
  have hc : (plain r).candidates.map plainHotspot = r.candidates.map plainHotspot := by
    simp only [plain, List.map_map]
    rfl
  cases escalation input r with
  | none =>
    simp only [plain_grant]
    unfold plain at hh hc ⊢
    rw [hh, hc]
  | some reason =>
    simp only [plain_deny]
    unfold plain at hh hc ⊢
    rw [hh, hc]

def reroute (input : DecisionInput) (paths : Option PathSnapshot) (traffic : Option TrafficSnapshot) :
    DecisionInput := { input with paths, traffic }

section TwoInputs

variable (input : DecisionInput) (paths : Option PathSnapshot) (traffic : Option TrafficSnapshot)
  (ev : BoundEvidence) (b b' : EvidenceBinding)

/-- On the same evidence, the components and what is said about each of them do not depend on the
paths and traffic that were supplied. -/
theorem plain_hotspotOf (component : List ℕ) :
    plainHotspot ((sceneOf input ev b).hotspotOf component) =
      plainHotspot ((sceneOf (reroute input paths traffic) ev b').hotspotOf component) := by
  -- without unfolding, the comparison starts with the identities, which do differ
  unfold plainHotspot Scene.hotspotOf
  rfl

theorem plain_hotspotsOf (persistent : Bool) (comps : List (List ℕ)) :
    (hotspotsOf (sceneOf input ev b) persistent comps).map plainHotspot =
      (hotspotsOf (sceneOf (reroute input paths traffic) ev b') persistent comps).map plainHotspot := by
  induction comps with
  | nil => simp only [hotspotsOf, List.map_nil, List.filter_nil]
  | cons c comps ih =>
    have hplain := plain_hotspotOf input paths traffic ev b b' c
    have hp := congrArg Hotspot.persistent hplain
    rw [persistent_plain, persistent_plain] at hp
    unfold hotspotsOf at ih ⊢
    simp only [List.map_cons, List.filter_cons, hp]
    split_ifs
    · rw [List.map_cons, List.map_cons, ih, hplain]
    · exact ih

theorem components_reroute :
    (sceneOf input ev b).components = (sceneOf (reroute input paths traffic) ev b').components := rfl

theorem escalate_reroute (r : FabricAssessment) :
    escalate (reroute input paths traffic) r = escalate input r := rfl

theorem plain_localize (r : FabricAssessment) :
    let scene := sceneOf input ev r.binding
    plain (localize input ev r).1 = plain (escalate input (verdict { plain r with
      hotspots := ((hotspotsOf scene true scene.components).take Limits.kMaxHotspots).map plainHotspot
      candidates := ((hotspotsOf scene false scene.components).take Limits.kMaxHotspots).map
        plainHotspot })) := by
  have hbinding := (trackingRecord_facts input r).1
  have htrack := plain_trackingRecord input r
  unfold localize
  dsimp only
  rw [plain_close, plain_escalate, plain_verdict, plain_historyRecord, ← htrack, ← hbinding,
    ← collectAll_hotspots (sceneOf input ev (trackingRecord input r).binding)
      (trackingRecord input r).authority,
    ← collectAll_candidates (sceneOf input ev (trackingRecord input r).binding)
      (trackingRecord input r).authority]
  rfl

theorem plain_localize_reroute {r r' : FabricAssessment} (h : plain r = plain r') :
    plain (localize input ev r).1 = plain (localize (reroute input paths traffic) ev r').1 ∧
      (localize input ev r).2 = (localize (reroute input paths traffic) ev r').2 := by
  refine ⟨?_, ?_⟩
  · rw [plain_localize, plain_localize]
    dsimp only
    rw [List.map_take, List.map_take, List.map_take, List.map_take, escalate_reroute, h,
      plain_hotspotsOf input paths traffic ev r.binding r'.binding,
      plain_hotspotsOf input paths traffic ev r.binding r'.binding,
      components_reroute input paths traffic ev r.binding r'.binding]
  · obtain ⟨-, -, -, -, ht⟩ := localize_spec input ev r
    obtain ⟨-, -, -, -, ht'⟩ := localize_spec (reroute input paths traffic) ev r'
    rw [ht, ht', components_reroute input paths traffic ev r.binding r'.binding]
    rfl

end TwoInputs

/-- The path snapshot is missing, unbuilt, bound to another topology generation, or too old. -/
def PathsUnbound (input : DecisionInput) : Prop :=
  ∀ paths, input.paths = some paths → paths.built = false ∨
    (∀ topology, input.topology = some topology → paths.topologyGeneration ≠ topology.generation) ∨
    ageMs paths.observedAt input.now > millis input.thresholds.maxPathAgeMs

/-- The traffic snapshot is missing, unbuilt, or bound to another path generation. -/
def TrafficUnbound (input : DecisionInput) : Prop :=
  ∀ traffic, input.traffic = some traffic → traffic.built = false ∨
    ∀ paths, input.paths = some paths → traffic.pathGeneration ≠ paths.generation

theorem pathsFinding_of_unbound {input : DecisionInput} {topology : TopologySnapshot}
    (h : PathsUnbound input) (ht : input.topology = some topology) :
    (pathsFinding input topology).admitted = none := by
  rw [Option.eq_none_iff_forall_ne_some]
  intro paths hadm
  obtain ⟨hp, hbuilt, hgen, hage⟩ := pathsFinding_admitted.mp hadm
  rcases h paths hp with hb | hg | ha
  · rw [hbuilt] at hb
    cases hb
  · exact hg topology ht hgen
  · exact hage ha

theorem trafficFinding_of_unbound {input : DecisionInput} {topology : TopologySnapshot}
    (h : TrafficUnbound input) :
    (trafficFinding input (pathsFinding input topology).admitted).admitted = none := by
  unfold trafficFinding
  cases hp : (pathsFinding input topology).admitted with
  | none => rfl
  | some paths =>
    obtain ⟨hpaths, -⟩ := pathsFinding_admitted.mp hp
    dsimp only
    cases ht : input.traffic.filter TrafficSnapshot.built with
    | none => rfl
    | some traffic =>
      obtain ⟨htraffic, hbuilt⟩ := Option.filter_eq_some_iff.mp ht
      rcases h traffic htraffic with hb | hg
      · rw [hbuilt] at hb
        cases hb
      · dsimp only
        rw [if_pos (hg paths hpaths)]
        rfl

/-- Either the paths of both inputs are unbound, or the paths are the same and the traffic of both
inputs is unbound. -/
def Unbound (input other : DecisionInput) : Prop :=
  (PathsUnbound input ∧ PathsUnbound other) ∨
    (other.paths = input.paths ∧ TrafficUnbound input ∧ TrafficUnbound other)

section Detection

variable {input : DecisionInput} {paths : Option PathSnapshot} {traffic : Option TrafficSnapshot}

theorem admitted_of_unbound {topology : TopologySnapshot} (ht : input.topology = some topology)
    (h : Unbound input (reroute input paths traffic)) :
    (findingsOf input topology).paths.admitted =
        (findingsOf (reroute input paths traffic) topology).paths.admitted ∧
      (findingsOf input topology).traffic.admitted =
        (findingsOf (reroute input paths traffic) topology).traffic.admitted := by
  unfold findingsOf
  dsimp only
  rcases h with ⟨hp, hp'⟩ | ⟨hsame, hu, hu'⟩
  · rw [pathsFinding_of_unbound hp ht, pathsFinding_of_unbound hp' ht]
    exact ⟨rfl, rfl⟩
  · rw [trafficFinding_of_unbound hu, trafficFinding_of_unbound hu']
    refine ⟨?_, rfl⟩
    obtain rfl : paths = input.paths := hsame
    rfl

theorem evidence_of_unbound {topology : TopologySnapshot} (ht : input.topology = some topology)
    (h : Unbound input (reroute input paths traffic)) : (findingsOf input topology).evidence topology =
      (findingsOf (reroute input paths traffic) topology).evidence topology := by
  obtain ⟨hp, htr⟩ := admitted_of_unbound ht h
  have hc : (findingsOf (reroute input paths traffic) topology).capacity.admitted =
      (findingsOf input topology).capacity.admitted := rfl
  have hs : (findingsOf (reroute input paths traffic) topology).signals.admitted =
      (findingsOf input topology).signals.admitted := rfl
  unfold Findings.evidence
  rw [hc, hs, hp, htr]

theorem plain_opening : plain (opening input) = plain (opening (reroute input paths traffic)) := by
  simp only [opening, plain_record]
  rfl

theorem plain_recordEvidence (topology : TopologySnapshot) : plain (recordEvidence input topology) =
    plain (recordEvidence (reroute input paths traffic) topology) := by
  simp only [recordEvidence, plain_record, plain_grant]
  exact plain_opening

/-- Two outcomes that agree on everything but identities, binding and authority. -/
def Agree (out out' : FabricAssessment × Option SaturationTracker) : Prop :=
  plain out.1 = plain out'.1 ∧ out.2 = out'.2

theorem agree_reject {r r' : FabricAssessment} (h : plain r = plain r') (scope : CongestionScope)
    (reason : String) :
    Agree (reject input r scope reason) (reject (reroute input paths traffic) r' scope reason) := by
  have hplain : ∀ q : FabricAssessment, plain (reject input q scope reason).1 =
      { plain q with scope, scopeReason := reason, localizationProven := false } := fun q ↦ rfl
  refine ⟨?_, rfl⟩
  rw [hplain, h]
  rfl

theorem agree_refuse {r r' : FabricAssessment} (h : plain r = plain r') (f : Refusal) :
    Agree (refuse input r f) (refuse (reroute input paths traffic) r' f) := by
  refine agree_reject ?_ _ _
  rw [plain_diagnose, plain_deny, plain_diagnose, plain_deny, h]

theorem plain_account {r r' : FabricAssessment} (h : plain r = plain r') (tally : Tally) :
    plain (account r tally) = plain (account r' tally) := by
  have hplain : ∀ q : FabricAssessment, plain (account q tally) = account (plain q) tally := fun q ↦ rfl
  rw [hplain, hplain, h]

theorem plain_countResources {r r' : FabricAssessment} (h : plain r = plain r') (n : ℕ) :
    plain (countResources r n) = plain (countResources r' n) := by
  have hplain : ∀ q : FabricAssessment, plain (countResources q n) = countResources (plain q) n :=
    fun q ↦ rfl
  rw [hplain, hplain, h]

theorem agree_detectBound (ev : BoundEvidence) {r r' : FabricAssessment} (h : plain r = plain r') :
    Agree (detectBound input ev r) (detectBound (reroute input paths traffic) ev r') := by
  have href : referenceRefusal (reroute input paths traffic) ev = referenceRefusal input ev := rfl
  have hthr : (reroute input paths traffic).thresholds = input.thresholds := rfl
  have hnow : (reroute input paths traffic).now = input.now := rfl
  have hcount := plain_countResources h ev.topology.resources.length
  unfold detectBound
  dsimp only
  rw [href, hthr, hnow]
  by_cases hn : ev.topology.resources.length = 0
  · rw [if_pos hn, if_pos hn]
    exact agree_reject hcount _ _
  rw [if_neg hn, if_neg hn]
  cases referenceRefusal input ev with
  | some f => exact agree_refuse hcount f
  | none =>
    have haccount := plain_account hcount (tallyOf ev input.thresholds input.now)
    dsimp only
    cases coverageRefusal input.thresholds (tallyOf ev input.thresholds input.now)
        ev.topology.resources.length with
    | some f => exact agree_refuse haccount f
    | none => exact plain_localize_reroute input paths traffic ev haccount

theorem agree_detect (h : Unbound input (reroute input paths traffic)) :
    Agree (detect input) (detect (reroute input paths traffic)) := by
  have htop : (reroute input paths traffic).topology = input.topology := rfl
  have hnow : (reroute input paths traffic).now = input.now := rfl
  unfold detect
  dsimp only
  rw [htop, hnow]
  cases ht : input.topology.filter TopologySnapshot.built with
  | none => exact agree_refuse plain_opening _
  | some topology =>
    dsimp only
    by_cases hf : (!topology.freshAt input.now) = true
    · rw [if_pos hf, if_pos hf]
      exact agree_refuse plain_opening _
    rw [if_neg hf, if_neg hf, ← evidence_of_unbound (Option.filter_eq_some_iff.mp ht).1 h]
    have hrecord : plain (recordEvidence input topology) =
        plain (recordEvidence (reroute input paths traffic) topology) := plain_recordEvidence topology
    cases (findingsOf input topology).evidence topology with
    | some ev => exact agree_detectBound ev hrecord
    | none => exact agree_reject hrecord _ _

end Detection

def outline (plan : InterventionPlan) : List MitigationIntent × UInt32 :=
  (plan.intents.map plainIntent, plan.planScopeSharePpm)

theorem outline_of_ledger {plan plan' : InterventionPlan}
    (h : Mitigation.ledger plan = Mitigation.ledger plan') : outline plan = outline plan' := by
  simp only [Mitigation.ledger, Prod.mk.injEq] at h
  unfold outline
  rw [h.1, h.2.1]

@[simp] theorem outline_noteSuppression (plan : InterventionPlan) (kind : MitigationKind)
    (hotspot : HotspotId) (reason : String) :
    outline (plan.noteSuppression kind hotspot reason) = outline plan :=
  outline_of_ledger (Mitigation.ledger_noteSuppression _ _ _ _)

@[simp] theorem outline_countRejected (plan : InterventionPlan) :
    outline plan.countRejected = outline plan := rfl

theorem length_of_outline {plan plan' : InterventionPlan} (h : outline plan = outline plan') :
    plan.intents.length = plan'.intents.length := by
  have hlen := congrArg (fun o ↦ o.1.length) h
  simpa only [outline, List.length_map] using hlen

def plainPlanning (p : Planning) : Planning := { p with assessment := plain p.assessment }

section Planner

variable (p : Planning) (h : Hotspot) (kind : MitigationKind) {plan plan' : InterventionPlan}

theorem draftOf_plain : (plainPlanning p).draftOf (plainHotspot h) kind = p.draftOf h kind := by
  cases kind <;> rfl

theorem plainIntent_intentOf (plan plan' : InterventionPlan) (draft : IntentDraft) :
    plainIntent ((plainPlanning p).intentOf (plainHotspot h) plan' kind draft) =
      plainIntent (p.intentOf h plan kind draft) := by
  unfold plainIntent Planning.intentOf
  rfl

theorem outline_emit (ho : outline plan' = outline plan) (draft : IntentDraft) :
    outline ((plainPlanning p).emit (plainHotspot h) plan' kind draft).1 =
        outline (p.emit h plan kind draft).1 ∧
      ((plainPlanning p).emit (plainHotspot h) plan' kind draft).2 = (p.emit h plan kind draft).2 := by
  have hs : plan'.planScopeSharePpm = plan.planScopeSharePpm := congrArg Prod.snd ho
  have hi : plan'.intents.map plainIntent = plan.intents.map plainIntent := congrArg Prod.fst ho
  have hbound : (plainPlanning p).boundRefusal draft = p.boundRefusal draft := rfl
  have hshare : (plainPlanning p).scopeShare draft = p.scopeShare draft := rfl
  have hbudget : (plainPlanning p).budget = p.budget := rfl
  unfold Planning.emit
  rw [hbound]
  cases p.boundRefusal draft with
  | some reason => exact ⟨by simp only [outline_noteSuppression, ho], rfl⟩
  | none =>
    dsimp only
    rw [hshare, hbudget, hs]
    split_ifs
    · exact ⟨by simp only [outline_noteSuppression, ho], rfl⟩
    · exact ⟨by simp only [outline_countRejected, outline_noteSuppression, ho], rfl⟩
    · refine ⟨?_, rfl⟩
      simp only [outline, List.map_append, List.map_cons, List.map_nil, hi,
        plainIntent_intentOf p h kind plan plan' draft]

theorem outline_consider {st st' : InterventionPlan × Bool} (ho : outline st'.1 = outline st.1)
    (hf : st'.2 = st.2) :
    outline ((plainPlanning p).consider (plainHotspot h) st' kind).1 = outline (p.consider h st kind).1 ∧
      ((plainPlanning p).consider (plainHotspot h) st' kind).2 = (p.consider h st kind).2 := by
  have hbudget : (plainPlanning p).budget = p.budget := rfl
  unfold Planning.consider
  rw [hbudget, hf, draftOf_plain]
  by_cases hst : st.2 = true
  · rw [if_pos hst, if_pos hst]
    exact ⟨by simp only [outline_noteSuppression, ho], rfl⟩
  rw [if_neg hst, if_neg hst]
  by_cases hk : (!p.budget.allows kind) = true
  · rw [if_pos hk, if_pos hk]
    exact ⟨by simp only [outline_noteSuppression, ho], rfl⟩
  rw [if_neg hk, if_neg hk]
  cases p.draftOf h kind with
  | error reason => exact ⟨by simp only [outline_noteSuppression, ho], rfl⟩
  | ok draft => exact outline_emit p h kind ho (Planning.ordered draft)

theorem outline_foldl_consider (kinds : List MitigationKind) {st st' : InterventionPlan × Bool}
    (ho : outline st'.1 = outline st.1) (hf : st'.2 = st.2) :
    outline (kinds.foldl ((plainPlanning p).consider (plainHotspot h)) st').1 =
        outline (kinds.foldl (p.consider h) st).1 ∧
      (kinds.foldl ((plainPlanning p).consider (plainHotspot h)) st').2 =
        (kinds.foldl (p.consider h) st).2 := by
  induction kinds generalizing st st' with
  | nil => exact ⟨ho, hf⟩
  | cons kind kinds ih =>
    obtain ⟨ho', hf'⟩ := outline_consider p h kind ho hf
    exact ih ho' hf'

theorem outline_planHotspot (ho : outline plan' = outline plan) :
    outline ((plainPlanning p).planHotspot plan' (plainHotspot h)) = outline (p.planHotspot plan h) := by
  have hrem : (plainHotspot h).remediation = h.remediation := rfl
  have hcause : (plainHotspot h).cause = h.cause := rfl
  have hbudget : (plainPlanning p).budget = p.budget := rfl
  unfold Planning.planHotspot
  rw [hrem, hcause, hbudget, length_of_outline ho]
  by_cases he : h.remediation ≠ .eligible
  · rw [if_pos he, if_pos he]
    simp only [outline_noteSuppression, ho]
  rw [if_neg he, if_neg he]
  by_cases hn : plan.intents.length ≥ p.budget.maxIntentsPerPlan.toNat
  · rw [if_pos hn, if_pos hn]
    simp only [outline_countRejected, outline_noteSuppression, ho]
  rw [if_neg hn, if_neg hn]
  have hstart : outline ((plan', false) : InterventionPlan × Bool).1 =
      outline ((plan, false) : InterventionPlan × Bool).1 := ho
  obtain ⟨ho', hf'⟩ := outline_foldl_consider p h (candidateKinds h.cause) hstart rfl
  dsimp only
  rw [hf']
  split_ifs
  · exact ho'
  · simp only [outline_countRejected, outline_noteSuppression, ho']

theorem outline_foldl_planHotspot (hotspots : List Hotspot) (ho : outline plan' = outline plan) :
    outline ((hotspots.map plainHotspot).foldl (plainPlanning p).planHotspot plan') =
      outline (hotspots.foldl p.planHotspot plan) := by
  induction hotspots generalizing plan plan' with
  | nil => exact ho
  | cons h hotspots ih =>
    rw [List.map_cons, List.foldl_cons, List.foldl_cons]
    exact ih (outline_planHotspot p h ho)

theorem plainIntent_escalationIntent (plan plan' : InterventionPlan) :
    plainIntent ((plainPlanning p).escalationIntent plan') = plainIntent (p.escalationIntent plan) := by
  unfold plainIntent Planning.escalationIntent
  rfl

end Planner

theorem outline_localPlan (p : Planning) :
    outline ((plainPlanning p).localPlan (openPlan (plain p.assessment))) =
      outline (p.localPlan (openPlan p.assessment)) :=
  outline_foldl_planHotspot p p.assessment.hotspots rfl

theorem outline_escalationPlan (p : Planning) :
    outline ((plainPlanning p).escalationPlan (openPlan (plain p.assessment))) =
      outline (p.escalationPlan (openPlan p.assessment)) := by
  have hw := outline_of_ledger
    (Mitigation.ledger_foldl_withheld p.assessment.hotspots (openPlan p.assessment))
  have hw' := outline_of_ledger (Mitigation.ledger_foldl_withheld (plain p.assessment).hotspots
    (openPlan (plain p.assessment)))
  have hopen : outline (openPlan (plain p.assessment)) = outline (openPlan p.assessment) := rfl
  have ho := hw'.trans (hopen.trans hw.symm)
  have hbudget : (plainPlanning p).budget = p.budget := rfl
  have hassess : (plainPlanning p).assessment = plain p.assessment := rfl
  unfold Planning.escalationPlan
  rw [hbudget, hassess]
  dsimp only
  split_ifs
  · have hi := congrArg Prod.fst ho
    have hs := congrArg Prod.snd ho
    simp only [outline] at hi hs
    simp only [outline, InterventionPlan.sealAuthority, List.map_append, List.map_cons, List.map_nil, hi, hs]
    rw [plainIntent_escalationIntent p
      (p.assessment.hotspots.foldl Planning.withheldForEscalation (openPlan p.assessment))]
  · refine (outline_noteSuppression _ _ _ _).trans (ho.trans ?_)
    exact (outline_noteSuppression _ _ _ _).symm

/-- The planner does not see the identities, the binding to paths and traffic, or the authority of
the assessment it plans for. -/
theorem outline_planInterventions (r : FabricAssessment) (topology : Option TopologySnapshot)
    (capacity : Option CapacitySnapshot) (policy : Option PolicySnapshot) (now : Millis) :
    outline (planInterventions (plain r) topology capacity policy now) =
      outline (planInterventions r topology capacity policy now) := by
  have htop : (plain r).binding.topology = r.binding.topology := rfl
  have hesc : (plain r).escalationRequired = r.escalationRequired := rfl
  unfold planInterventions
  dsimp only
  rw [htop, hesc]
  cases topology.filter TopologySnapshot.built with
  | none => rfl
  | some t =>
    dsimp only
    by_cases hbound : r.binding.topology.valid = true ∧ r.binding.topology ≠ t.id
    · rw [if_pos hbound, if_pos hbound]
      rfl
    rw [if_neg hbound, if_neg hbound]
    cases policy.filter (fun p ↦ !p.expiredAt now) with
    | none => rfl
    | some pol =>
      dsimp only
      split_ifs
      · exact outline_escalationPlan ⟨r, t, capacity, pol⟩
      · exact outline_localPlan ⟨r, t, capacity, pol⟩

/-- Whatever paths and traffic are supplied: as long as they are unbound they change neither the
verdict, nor what is reported and tracked, nor what is planned. -/
theorem unbound_no_influence (engine : Engine) (input : DecisionInput) (paths : Option PathSnapshot)
    (traffic : Option TrafficSnapshot) (h : Unbound input (reroute input paths traffic)) :
    let a := engine.decide input
    let b := engine.decide (reroute input paths traffic)
    a.1.assessment.scope = b.1.assessment.scope ∧
      a.1.assessment.hotspots.map plainHotspot = b.1.assessment.hotspots.map plainHotspot ∧
      a.1.assessment.candidates.map plainHotspot = b.1.assessment.candidates.map plainHotspot ∧
      a.1.assessment.escalationRequired = b.1.assessment.escalationRequired ∧
      a.2.1 = b.2.1 ∧
      a.1.plan.intents.map plainIntent = b.1.plan.intents.map plainIntent := by
  obtain ⟨hplain, htracker⟩ := agree_detect h
  have hplan : outline (planInterventions (detect input).1 input.topology input.capacity input.policy
        input.now) = outline (planInterventions (detect (reroute input paths traffic)).1 input.topology
          input.capacity input.policy input.now) := by
    rw [← outline_planInterventions, hplain, outline_planInterventions]
  have hscope := congrArg FabricAssessment.scope hplain
  have hesc := congrArg FabricAssessment.escalationRequired hplain
  have hhot := congrArg FabricAssessment.hotspots hplain
  have hcand := congrArg FabricAssessment.candidates hplain
  exact ⟨hscope, hhot, hcand, hesc, htracker, congrArg Prod.fst hplan⟩

/-- A path through the saturated switch, bound to a topology generation that is not installed. -/
def foreignPaths : Result PathSnapshot :=
  ({ (default : PathSnapshot) with topologyGeneration := ⟨9⟩, observedAt := 10000 }.add
    { id := ⟨1⟩, flow := ⟨1⟩, hops := [⟨1⟩] }).build

theorem foreignPaths_no_influence :
    Unbound islandInput (reroute islandInput foreignPaths.toOption none) ∧
      (({} : Engine).decide islandInput).1.plan.intents.map plainIntent =
        (({} : Engine).decide (reroute islandInput foreignPaths.toOption none)).1.plan.intents.map
          plainIntent := by
  have hforeign : foreignPaths.toOption.all (fun p ↦ p.topologyGeneration ≠ ⟨0⟩) = true := by
    decide +kernel
  have hlive : twoIslands.toOption.all (fun t ↦ t.generation = ⟨0⟩) = true := by decide +kernel
  have h : Unbound islandInput (reroute islandInput foreignPaths.toOption none) := by
    refine Or.inl ⟨fun paths hp ↦ (nomatch hp), fun paths hp ↦ Or.inr (Or.inl ?_)⟩
    intro topology ht
    have hp' : foreignPaths.toOption = some paths := hp
    have ht' : twoIslands.toOption = some topology := ht
    rw [hp'] at hforeign
    rw [ht'] at hlive
    rw [of_decide_eq_true hlive]
    exact of_decide_eq_true hforeign
  exact ⟨h, (unbound_no_influence {} islandInput foreignPaths.toOption none h).2.2.2.2.2⟩

end HotspotGovernor.Noninterference
