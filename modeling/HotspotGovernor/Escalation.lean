import HotspotGovernor.Justification
import HotspotGovernor.Ratio

namespace HotspotGovernor.Escalation

open Foundation Lib Topology Evidence Authority Detection Sampling Hotspots Detect
open Admissibility Reporting Verdicts Intervention Decisions Mitigation Ratio

def hotspotShare (hotspots : List Hotspot) : UInt64 :=
  hotspots.foldl (fun total h ↦ satAdd total h.sharePpm.toUInt64) 0

def totalShare (hotspots : List Hotspot) : ℕ := (hotspots.map (fun h ↦ h.sharePpm.toNat)).sum

theorem foldl_share (hotspots : List Hotspot) (total : UInt64) :
    (hotspots.foldl (fun total h ↦ satAdd total h.sharePpm.toUInt64) total).toNat =
      min (total.toNat + totalShare hotspots) (2 ^ 64 - 1) := by
  induction hotspots generalizing total with
  | nil =>
    have htotal := total.toNat_lt
    rw [List.foldl_nil, totalShare, List.map_nil, List.sum_nil]
    omega
  | cons h hotspots ih =>
    rw [List.foldl_cons, ih, satAdd_toNat, UInt32.toNat_toUInt64, totalShare, totalShare, List.map_cons,
      List.sum_cons]
    omega

theorem budget_le_hotspotShare {hotspots : List Hotspot} {budget : UInt32}
    (h : budget.toNat < totalShare hotspots) : budget.toUInt64 ≤ hotspotShare hotspots := by
  have hbudget := budget.toNat_lt
  rw [UInt64.le_iff_toNat_le, UInt32.toNat_toUInt64, hotspotShare, foldl_share, UInt64.toNat_zero]
  omega

theorem escalation_isSome (input : DecisionInput) (r : FabricAssessment) :
    (escalation input r).isSome = true ↔ r.scope = .global ∨
      (input.thresholds.globalSharePpm ≤ r.globalSharePpm ∧ r.hotspots ≠ []) ∨
      (input.budget.maxIntentsPerPlan.toNat < r.hotspots.length ∧
        input.budget.maxPlanScopeSharePpm.toUInt64 ≤ hotspotShare r.hotspots) := by
  simp only [escalation, hotspotShare]
  split_ifs with hscope hshare hmany
  · simp [hscope]
  · simp [hshare]
  · simp [hmany]
  · simp only [Option.isSome_none, Bool.false_eq_true, false_iff, not_or]
    exact ⟨hscope, hshare, hmany⟩

theorem escalationRequired_escalate {input : DecisionInput} {r : FabricAssessment}
    (h : r.escalationRequired = false) :
    (escalate input r).escalationRequired = (escalation input r).isSome := by
  simp only [escalate]
  split
  · next reason hreason =>
    rw [hreason]
    rfl
  · next hnone =>
    rw [hnone]
    exact h

theorem escalation_close (input : DecisionInput) (r : FabricAssessment) :
    escalation input (close (escalate input r)) = escalation input r := by
  have hkept : (escalate input r).scope = r.scope ∧ (escalate input r).globalSharePpm = r.globalSharePpm ∧
      (escalate input r).hotspots = r.hotspots := by
    simp only [escalate]
    split <;> exact ⟨rfl, rfl, rfl⟩
  obtain ⟨hscope, hglobal, hhot⟩ := hkept
  simp only [escalation, close, hscope, hglobal, hhot, List.foldl_map, List.length_map, ne_eq,
    List.map_eq_nil_iff]

def settled (r : FabricAssessment) : Bool × UInt32 := (r.escalationRequired, r.globalSharePpm)

theorem settled_diagnose (r : FabricAssessment) (code : ErrorCode) (detail : String) :
    settled (r.diagnose code detail) = settled r := by
  simp only [FabricAssessment.diagnose]
  split <;> rfl

theorem settled_trackingRecord (input : DecisionInput) (r : FabricAssessment) :
    settled (trackingRecord input r) = settled r := by
  simp only [trackingRecord]
  split
  · rfl
  · rw [settled_diagnose]
    rfl

theorem settled_historyRecord (input : DecisionInput) (st : Collection) (r : FabricAssessment) :
    settled (historyRecord input st r) = settled r := by
  simp only [historyRecord]
  split <;> split <;> simp only [settled_diagnose]

theorem settled_verdict (r : FabricAssessment) : settled (verdict r) = settled r := by
  simp only [verdict]
  split <;> rfl

theorem settled_close (r : FabricAssessment) : settled (close r) = settled r := rfl

theorem globalSharePpm_escalate (input : DecisionInput) (r : FabricAssessment) :
    (escalate input r).globalSharePpm = r.globalSharePpm := by
  simp only [escalate]
  split <;> rfl

theorem localize_escalation {input : DecisionInput} {r : FabricAssessment} (ev : BoundEvidence)
    (h : r.escalationRequired = false) :
    (localize input ev r).1.escalationRequired = (escalation input (localize input ev r).1).isSome ∧
      (localize input ev r).1.globalSharePpm = r.globalSharePpm := by
  set r' := trackingRecord input r with hr'
  set st := collectAll (sceneOf input ev r'.binding) r'.authority with hst
  set q := verdict (historyRecord input st
    { r' with hotspots := st.hotspots, candidates := st.candidates, authority := st.authority }) with hq
  have hout : (localize input ev r).1 = close (escalate input q) := rfl
  have hsettled : settled q = settled r := by
    rw [hq, settled_verdict, settled_historyRecord]
    exact settled_trackingRecord input r
  have hfalse : q.escalationRequired = false := (congrArg Prod.fst hsettled).trans h
  have hclose := settled_close (escalate input q)
  rw [hout, escalation_close]
  -- what follows holds of any assessment that the rules are asked about
  clear_value q
  constructor
  · exact (congrArg Prod.fst hclose).trans (escalationRequired_escalate hfalse)
  · have hkept := globalSharePpm_escalate input q
    exact (congrArg Prod.snd hclose).trans (hkept.trans (congrArg Prod.snd hsettled))

theorem globalSharePpm_account (r : FabricAssessment) (tally : Tally) :
    (account r tally).globalSharePpm = tally.globalSharePpm := rfl

theorem detect_escalation {input : DecisionInput} {ev : BoundEvidence} (h : admittedEvidence input = some ev) :
    (detect input).1.escalationRequired = (escalation input (detect input).1).isSome ∧
      (detect input).1.globalSharePpm = (tallyOf ev input.thresholds input.now).globalSharePpm := by
  obtain ⟨r, hdet, hcore⟩ := detect_localized h
  have hfalse : r.escalationRequired = false := congrArg (fun c ↦ c.2.2.1) hcore
  have hspec := @localize_escalation input (account r (tallyOf ev input.thresholds input.now)) ev hfalse
  rw [globalSharePpm_account] at hspec
  rw [hdet]
  exact hspec

theorem foldl_widest_eq_global (hotspots : List Hotspot) (w : CongestionScope) :
    hotspots.foldl (fun widest h ↦ if h.scope.code > widest.code then h.scope else widest) w = .global ↔
      w = .global ∨ ∃ h ∈ hotspots, h.scope = .global := by
  induction hotspots generalizing w with
  | nil => simp
  | cons h hotspots ih =>
    have hstep : (if h.scope.code > w.code then h.scope else w) = .global ↔ w = .global ∨ h.scope = .global := by
      cases w <;> cases h.scope <;> simp [CongestionScope.code]
    rw [List.foldl_cons, ih, hstep, or_assoc, List.exists_mem_cons_iff]

theorem widest_eq_global (hotspots : List Hotspot) :
    widest hotspots = .global ↔ ∃ h ∈ hotspots, h.scope = .global := by
  rw [widest, foldl_widest_eq_global]
  simp

section

variable (scene : Scene)

def componentShare (component : List ℕ) : UInt32 :=
  (ratioPpm (scene.componentCapacity component) scene.tally.fabricCapacity).getD 0

def Spans (component : List ℕ) : Prop :=
  scene.thresholds.globalSharePpm ≤ componentShare scene component ∨
    scene.thresholds.maxRegionalRegions.toNat < (scene.regions component).length ∨
    scene.allAdmissibleSaturated = true

/-- The confirmed components fit the whole-plan share, or one of the three escalation rules sees that
they do not. -/
def Foreseen : Prop :=
  ((confirmed scene).map (fun c ↦ (componentShare scene c).toNat)).sum ≤
      scene.input.budget.maxPlanScopeSharePpm.toNat ∨
    (∃ c ∈ confirmed scene, Spans scene c) ∨
    scene.thresholds.globalSharePpm ≤ scene.tally.globalSharePpm ∨
    scene.input.budget.maxIntentsPerPlan.toNat < (confirmed scene).length

end

theorem scope_hotspotOf_eq_global {scene : Scene} {component : List ℕ} :
    (scene.hotspotOf component).scope = .global ↔ Spans scene component := by
  have hscope : (scene.hotspotOf component).scope = scene.classify (componentShare scene component)
    (scene.regions component).length (scene.healthy component).length := rfl
  rw [hscope, Scene.classify, Spans]
  split_ifs with hshare hregions hall hlocal hhealthy
  · simp [hshare]
  · simp [hregions]
  · simp [hall]
  · simp [UInt32.not_le.mp hshare, hregions, hall]
  · simp [UInt32.not_le.mp hshare, hregions, hall]
  · simp [UInt32.not_le.mp hshare, hregions, hall]

/-- Scope beyond the whole-plan budget is handed on, and nothing of it is mitigated locally. -/
def EscalatesBeyondBudget (engine : Engine) (input : DecisionInput) : Prop :=
  input.budget.maxPlanScopeSharePpm.toNat < totalShare (detect input).1.hotspots →
    (detect input).1.escalationRequired = true ∧
      ∀ intent ∈ (engine.decide input).1.plan.intents, intent.escalation = true

theorem totalShare_reported (scene : Scene) (authority : AuthorityVector) (components : List (List ℕ)) :
    totalShare (components.map (fun c ↦ { scene.hotspotOf c with authority })) =
      (components.map (fun c ↦ (componentShare scene c).toNat)).sum := by
  rw [totalShare, List.map_map]
  rfl

theorem escalation_of_required {engine : Engine} {input : DecisionInput} {intent : MitigationIntent}
    (h : (detect input).1.escalationRequired = true) (hi : intent ∈ (engine.decide input).1.plan.intents) :
    intent.escalation = true := by
  have hplan : (engine.decide input).1.plan =
      planInterventions (detect input).1 input.topology input.capacity input.policy input.now := rfl
  rw [hplan] at hi
  rcases planInterventions_cases (detect input).1 input.topology input.capacity input.policy input.now
    with ⟨hnil, -⟩ | ⟨t, pol, -, -, -, ⟨-, heq⟩ | ⟨hno, -⟩⟩
  · rw [hnil] at hi
    cases hi
  · rw [heq] at hi
    exact (mem_escalationPlan hi).1
  · rw [hno] at h
    cases h

theorem escalationRequired_iff {input : DecisionInput} {ev : BoundEvidence}
    (h : admittedEvidence input = some ev) :
    let scene := sceneOf input ev (recordBinding input)
    (detect input).1.escalationRequired = true ↔
      (∃ c ∈ confirmed scene, Spans scene c) ∨
      (scene.thresholds.globalSharePpm ≤ scene.tally.globalSharePpm ∧ confirmed scene ≠ []) ∨
      (input.budget.maxIntentsPerPlan.toNat < (confirmed scene).length ∧
        input.budget.maxPlanScopeSharePpm.toUInt64 ≤ hotspotShare (detect input).1.hotspots) := by
  intro scene
  obtain ⟨hrequired, hglobal⟩ := detect_escalation h
  obtain ⟨authority, hhot, -, hscope⟩ := detect_reports h
  have hempty : (detect input).1.hotspots = [] ↔ confirmed scene = [] := by
    rw [hhot, List.map_eq_nil_iff]
  have hspans : (detect input).1.scope = .global ↔ ∃ c ∈ confirmed scene, Spans scene c := by
    rw [hscope]
    split
    · next hnil => simp [hempty.mp hnil]
    · rw [widest_eq_global, hhot]
      simp only [List.mem_map, exists_exists_and_eq_and]
      exact exists_congr (fun c ↦ and_congr_right (fun _ ↦ scope_hotspotOf_eq_global))
  have hlength : (detect input).1.hotspots.length = (confirmed scene).length := by
    rw [hhot, List.length_map]
  rw [hrequired, escalation_isSome, hspans, hglobal, hlength, ne_eq, hempty]
  rfl

theorem hotspots_of_rejected {input : DecisionInput} (h : admittedEvidence input = none) :
    (detect input).1.hotspots = [] := by
  have hcases := detect_cases input
  rw [h] at hcases
  rcases hcases with ⟨r, reason, hd, hcore⟩ | ⟨⟨r, reason, hd, hcore⟩, -⟩ <;>
    · rw [hd]
      exact congrArg Prod.fst hcore

/-- For every input: scope beyond the whole-plan budget escalates exactly when one of the three rules
happens to see it. What they miss are few large components, none of which spans the fabric. -/
theorem escalates_beyond_budget_iff (engine : Engine) (input : DecisionInput) :
    EscalatesBeyondBudget engine input ↔
      ∀ ev, admittedEvidence input = some ev → Foreseen (sceneOf input ev (recordBinding input)) := by
  constructor
  · intro h ev hadm
    set scene := sceneOf input ev (recordBinding input) with hscene
    obtain ⟨authority, hhot, -, -⟩ := detect_reports hadm
    by_cases hfits : ((confirmed scene).map (fun c ↦ (componentShare scene c).toNat)).sum ≤
        scene.input.budget.maxPlanScopeSharePpm.toNat
    · exact .inl hfits
    · rw [← totalShare_reported scene authority, ← hhot, not_le] at hfits
      rcases (escalationRequired_iff hadm).mp (h hfits).1 with hspans | hglobal | hmany
      · exact .inr (.inl hspans)
      · exact .inr (.inr (.inl hglobal.1))
      · exact .inr (.inr (.inr hmany.1))
  · intro h hbeyond
    cases hadm : admittedEvidence input with
    | none =>
      rw [hotspots_of_rejected hadm] at hbeyond
      exact absurd hbeyond (Nat.not_lt_zero _)
    | some ev =>
      set scene := sceneOf input ev (recordBinding input) with hscene
      obtain ⟨authority, hhot, -, -⟩ := detect_reports hadm
      have hsum : input.budget.maxPlanScopeSharePpm.toNat <
          ((confirmed scene).map (fun c ↦ (componentShare scene c).toNat)).sum := by
        rwa [hhot, totalShare_reported] at hbeyond
      have hsome : confirmed scene ≠ [] := by
        intro hnil
        rw [hnil] at hsum
        exact absurd hsum (Nat.not_lt_zero _)
      have hrequired : (detect input).1.escalationRequired = true := by
        apply (escalationRequired_iff hadm).mpr
        rcases h ev hadm with hfits | hspans | hglobal | hmany
        · exact absurd hfits (not_le.mpr hsum)
        · exact .inl hspans
        · exact .inr (.inl ⟨hglobal, hsome⟩)
        · exact .inr (.inr ⟨hmany, budget_le_hotspotShare hbeyond⟩)
      exact ⟨hrequired, fun intent hi ↦ escalation_of_required hrequired hi⟩

/-- Two pairs of switches, one switch of each saturated: half of the fabric where the plan may touch two
fifths of it. Nothing escalates, and one of the two hotspots is mitigated. -/
theorem pairs_partly_mitigated :
    (Justification.pairsInput Justification.bothTracked).policyLive = true ∧
      ¬ EscalatesBeyondBudget {} (Justification.pairsInput Justification.bothTracked) ∧
      (({} : Engine).decide (Justification.pairsInput Justification.bothTracked)).1.plan.intents.any
        (fun i ↦ !i.escalation) = true := by
  refine ⟨by decide +kernel, fun h ↦ ?_, by decide +kernel⟩
  have hno : (detect (Justification.pairsInput Justification.bothTracked)).1.escalationRequired = false := by
    decide +kernel
  have hyes := (h (by decide +kernel)).1
  rw [hno] at hyes
  cases hyes

end HotspotGovernor.Escalation
