import HotspotGovernor.Justification
import HotspotGovernor.Lib.BoundedLog

namespace HotspotGovernor.Suppression

open Foundation Lib Topology Evidence Authority Detection Hotspots Detect Admissibility Verdicts
open Intervention Decisions Mitigation BoundedLog

abbrev RefusalKey := MitigationKind × HotspotId

def keys (plan : InterventionPlan) : List RefusalKey := plan.suppressed.map (fun s ↦ (s.kind, s.hotspot))

def Reasoned (plan : InterventionPlan) : Prop := ∀ s ∈ plan.suppressed, s.reason ≠ ""

/-- From one plan to a later one: the hotspots that are given an intent on the way, and the refusals that
are noted. -/
structure Advances (plan plan' : InterventionPlan) (served : List HotspotId) (refused : List RefusalKey) :
    Prop where
  served : plan'.intents.map MitigationIntent.hotspot = plan.intents.map MitigationIntent.hotspot ++ served
  keys : keys plan' = refused.foldl (note Limits.kMaxSuppressedEntries) (keys plan)
  reasoned : Reasoned plan → Reasoned plan'

namespace Advances

variable {plan plan' plan'' : InterventionPlan} {served served' : List HotspotId}
  {refused refused' : List RefusalKey}

theorem refl (plan : InterventionPlan) : Advances plan plan [] [] := ⟨by simp, rfl, fun h ↦ h⟩

theorem trans (h : Advances plan plan' served refused) (h' : Advances plan' plan'' served' refused') :
    Advances plan plan'' (served ++ served') (refused ++ refused') := by
  refine ⟨?_, ?_, fun hr ↦ h'.reasoned (h.reasoned hr)⟩
  · rw [h'.served, h.served, List.append_assoc]
  · rw [h'.keys, h.keys, List.foldl_append]

theorem countRejected (h : Advances plan plan' served refused) :
    Advances plan plan'.countRejected served refused := ⟨h.served, h.keys, h.reasoned⟩

end Advances

theorem any_suppressed {plan : InterventionPlan} {kind : MitigationKind} {hotspot : HotspotId} :
    plan.suppressed.any (fun s ↦ s.kind = kind && s.hotspot = hotspot) = true ↔ (kind, hotspot) ∈ keys plan := by
  simp [keys, List.any_eq_true]

theorem take_reason_ne {reason : String} (h : reason ≠ "") :
    String.ofList (reason.toList.take Limits.kMaxReasonBytes) ≠ "" := by
  intro hempty
  have hnil : reason.toList.take Limits.kMaxReasonBytes = [] := by
    have := congrArg String.toList hempty
    simpa using this
  rcases List.take_eq_nil_iff.mp hnil with hzero | hlist
  · exact absurd hzero (by decide)
  · exact h (String.toList_eq_nil_iff.mp hlist)

theorem advances_noteSuppression (plan : InterventionPlan) (kind : MitigationKind) (hotspot : HotspotId)
    {reason : String} (h : reason ≠ "") :
    Advances plan (plan.noteSuppression kind hotspot reason) [] [(kind, hotspot)] := by
  have hlength : (keys plan).length = plan.suppressed.length := List.length_map _
  have hlog : [(kind, hotspot)].foldl (note Limits.kMaxSuppressedEntries) (keys plan) =
      note Limits.kMaxSuppressedEntries (keys plan) (kind, hotspot) := rfl
  simp only [InterventionPlan.noteSuppression]
  split_ifs with hfull hseen
  · refine ⟨by simp, ?_, fun hr ↦ hr⟩
    rw [hlog, note, if_pos (by rwa [hlength])]
  · refine ⟨by simp, ?_, fun hr ↦ hr⟩
    rw [hlog, note, if_neg (by rwa [hlength]), if_pos (any_suppressed.mp hseen)]
  · refine ⟨by simp, ?_, fun hr ↦ ?_⟩
    · rw [hlog, note, if_neg (by rwa [hlength]), if_neg (fun hmem ↦ hseen (any_suppressed.mpr hmem))]
      simp [keys]
    · intro s hs
      rcases List.mem_append.mp hs with hs | hs
      · exact hr s hs
      · rw [List.mem_singleton.mp hs]
        exact take_reason_ne h

section

variable (p : Planning) (hotspot : Hotspot)

/-- A kind is emitted for a hotspot when the intents so far cover `share` of the fabric. -/
def emits (share : UInt32) (kind : MitigationKind) : Bool :=
  p.budget.allows kind &&
    match p.draftOf hotspot kind with
    | .error _ => false
    | .ok draft =>
      (p.boundRefusal (Planning.ordered draft)).isNone &&
        p.scopeShare (Planning.ordered draft) ≤ p.budget.maxScopeSharePpm &&
        share.toUInt64 + (p.scopeShare (Planning.ordered draft)).toUInt64 ≤ p.budget.maxPlanScopeSharePpm.toUInt64

variable {p hotspot}

theorem draftOf_reason {kind : MitigationKind} {reason : String} (h : p.draftOf hotspot kind = .error reason) :
    reason ≠ "" := by
  simp only [Planning.draftOf] at h
  cases kind with
  | none | escalateGlobalCongestion | admissionReduction => cases h
  | flowRelocation | pathRebalance | ratePacingChange | resourceIsolation =>
    dsimp only at h
    split_ifs at h
    rw [← Except.error.inj h]
    decide

theorem boundRefusal_reason {draft : IntentDraft} {reason : String} (h : p.boundRefusal draft = some reason) :
    reason ≠ "" := by
  simp only [Planning.boundRefusal] at h
  split_ifs at h <;>
    · rw [← Option.some.inj h]
      decide

/-- What a kind does to a plan in which the hotspot has no intent yet. -/
structure Weighed (p : Planning) (hotspot : Hotspot) (plan : InterventionPlan) (kind : MitigationKind)
    (out : InterventionPlan × Bool) : Prop where
  emitted : out.2 = emits p hotspot plan.planScopeSharePpm kind
  served : out.2 = true → Advances plan out.1 [hotspot.id] []
  refused : out.2 = false → Advances plan out.1 [] [(kind, hotspot.id)] ∧
    out.1.planScopeSharePpm = plan.planScopeSharePpm

theorem Weighed.of_refusal {plan : InterventionPlan} {kind : MitigationKind} {reason : String}
    (h : emits p hotspot plan.planScopeSharePpm kind = false) (hreason : reason ≠ "") :
    Weighed p hotspot plan kind (plan.noteSuppression kind hotspot.id reason, false) := by
  refine ⟨h.symm, fun hc ↦ (by cases hc), fun _ ↦ ?_⟩
  refine ⟨advances_noteSuppression plan kind hotspot.id hreason, ?_⟩
  exact congrArg (fun l ↦ l.2.1) (ledger_noteSuppression plan kind hotspot.id reason)

theorem Weighed.countRejected {plan out : InterventionPlan} {kind : MitigationKind}
    (h : Weighed p hotspot plan kind (out, false)) : Weighed p hotspot plan kind (out.countRejected, false) := by
  refine ⟨h.emitted, fun hc ↦ (by cases hc), fun _ ↦ ?_⟩
  obtain ⟨hadvances, hshare⟩ := h.refused rfl
  exact ⟨hadvances.countRejected, hshare⟩

variable (p hotspot) in
theorem weighed_consider (plan : InterventionPlan) (kind : MitigationKind) :
    Weighed p hotspot plan kind (p.consider hotspot (plan, false) kind) := by
  simp only [Planning.consider, Bool.false_eq_true, if_false]
  split
  · next hallow =>
    rw [Bool.not_eq_true'] at hallow
    exact .of_refusal (by simp [emits, hallow]) (by decide)
  · next hallow =>
    rw [Bool.not_eq_true, Bool.not_eq_false'] at hallow
    cases hdraft : p.draftOf hotspot kind with
    | error reason => exact .of_refusal (by simp [emits, hdraft]) (draftOf_reason hdraft)
    | ok draft =>
      simp only [Planning.emit]
      cases hbound : p.boundRefusal (Planning.ordered draft) with
      | some reason => exact .of_refusal (by simp [emits, hdraft, hbound]) (boundRefusal_reason hbound)
      | none =>
        dsimp only
        split_ifs with hshare hplan
        · refine .of_refusal ?_ (by decide)
          simp [emits, hdraft, hbound, UInt32.not_le.mpr hshare]
        · refine (Weighed.of_refusal ?_ (by decide)).countRejected
          simp [emits, hdraft, hbound, UInt64.not_le.mpr hplan]
        · refine ⟨?_, fun _ ↦ ⟨by simp [Planning.intentOf], rfl, fun hr ↦ hr⟩, fun hc ↦ (by cases hc)⟩
          simp [emits, hdraft, hbound, hallow, UInt32.not_lt.mp hshare, UInt64.not_lt.mp hplan]

end

theorem advances_foldl_emitted (p : Planning) (hotspot : Hotspot) (kinds : List MitigationKind)
    (plan : InterventionPlan) :
    (kinds.foldl (p.consider hotspot) (plan, true)).2 = true ∧
      Advances plan (kinds.foldl (p.consider hotspot) (plan, true)).1 []
        (kinds.map (fun kind ↦ (kind, hotspot.id))) := by
  induction kinds generalizing plan with
  | nil => exact ⟨rfl, .refl plan⟩
  | cons kind kinds ih =>
    have hstep : p.consider hotspot (plan, true) kind = (plan.noteSuppression kind hotspot.id
        "a higher-priority intent was already emitted for this hotspot", true) := if_pos rfl
    rw [List.foldl_cons, hstep, List.map_cons]
    obtain ⟨hemitted, hrest⟩ := ih (plan.noteSuppression kind hotspot.id
      "a higher-priority intent was already emitted for this hotspot")
    exact ⟨hemitted, (advances_noteSuppression plan kind hotspot.id (by decide)).trans hrest⟩

theorem advances_foldl_consider (p : Planning) (hotspot : Hotspot) (kinds : List MitigationKind)
    (plan : InterventionPlan) :
    let share := plan.planScopeSharePpm
    let out := kinds.foldl (p.consider hotspot) (plan, false)
    out.2 = kinds.any (emits p hotspot share) ∧
      Advances plan out.1 (if kinds.any (emits p hotspot share) then [hotspot.id] else [])
        ((kinds.eraseP (emits p hotspot share)).map (fun kind ↦ (kind, hotspot.id))) := by
  induction kinds generalizing plan with
  | nil => exact ⟨rfl, .refl plan⟩
  | cons kind kinds ih =>
    obtain ⟨hemitted, hserved, hrefused⟩ := weighed_consider p hotspot plan kind
    dsimp only
    rw [List.foldl_cons, List.any_cons]
    set out := p.consider hotspot (plan, false) kind with hout
    cases hfirst : emits p hotspot plan.planScopeSharePpm kind with
    | true =>
      rw [hfirst] at hemitted
      have hpair : out = (out.1, true) := by rw [← hemitted]
      obtain ⟨hstill, hrest⟩ := advances_foldl_emitted p hotspot kinds out.1
      rw [hpair, Bool.true_or, if_pos rfl, List.eraseP_cons_of_pos hfirst]
      exact ⟨hstill, (hserved hemitted).trans hrest⟩
    | false =>
      rw [hfirst] at hemitted
      have hpair : out = (out.1, false) := by rw [← hemitted]
      obtain ⟨hadvances, hshare⟩ := hrefused hemitted
      have hrest := ih out.1
      rw [hshare] at hrest
      rw [hpair, Bool.false_or, List.eraseP_cons_of_neg (by simp [hfirst])]
      exact ⟨hrest.1, hadvances.trans hrest.2⟩

section

variable (p : Planning) (plan : InterventionPlan) (hotspot : Hotspot)

def passedOver : Prop :=
  hotspot.remediation ≠ .eligible ∨ p.budget.maxIntentsPerPlan.toNat ≤ plan.intents.length

instance : Decidable (passedOver p plan hotspot) := inferInstanceAs (Decidable (_ ∨ _))

def serves : Bool :=
  !passedOver p plan hotspot && (candidateKinds hotspot.cause).any (emits p hotspot plan.planScopeSharePpm)

/-- The kinds that planning refuses for the hotspot, in the order in which it notes them. -/
def refusedKinds : List MitigationKind :=
  if passedOver p plan hotspot then [.admissionReduction]
  else (candidateKinds hotspot.cause).eraseP (emits p hotspot plan.planScopeSharePpm) ++
    if serves p plan hotspot then [] else [.none]

theorem advances_planHotspot :
    Advances plan (p.planHotspot plan hotspot) (if serves p plan hotspot then [hotspot.id] else [])
      ((refusedKinds p plan hotspot).map (fun kind ↦ (kind, hotspot.id))) := by
  by_cases hover : passedOver p plan hotspot
  · have hserves : serves p plan hotspot = false := by simp [serves, hover]
    rw [hserves, refusedKinds, if_pos hover]
    simp only [Planning.planHotspot]
    split
    · apply advances_noteSuppression
      split
      · decide
      · next hreason => exact fun hempty ↦ hreason (by rw [hempty]; rfl)
    · next heligible =>
      rw [if_pos (hover.resolve_left heligible)]
      exact (advances_noteSuppression plan .admissionReduction hotspot.id (by decide)).countRejected
  · have hserves : serves p plan hotspot =
        (candidateKinds hotspot.cause).any (emits p hotspot plan.planScopeSharePpm) := by simp [serves, hover]
    obtain ⟨heligible, hroom⟩ := not_or.mp hover
    obtain ⟨hemitted, hadvances⟩ := advances_foldl_consider p hotspot (candidateKinds hotspot.cause) plan
    rw [← hserves] at hemitted hadvances
    simp only [Planning.planHotspot]
    rw [if_neg heligible, if_neg hroom, hemitted, refusedKinds, if_neg hover, List.map_append]
    cases hserved : serves p plan hotspot with
    | true =>
      rw [hserved] at hadvances
      simpa using hadvances
    | false =>
      rw [hserved] at hadvances
      apply hadvances.countRejected.trans
      exact advances_noteSuppression _ .none hotspot.id (by decide)

theorem refusedKinds_ne_nil (h : serves p plan hotspot = false) : refusedKinds p plan hotspot ≠ [] := by
  rw [refusedKinds, h]
  split <;> simp

end

section

variable (p : Planning)

def servedIds (plan : InterventionPlan) : List Hotspot → List HotspotId
  | [] => []
  | h :: hotspots => (if serves p plan h then [h.id] else []) ++ servedIds (p.planHotspot plan h) hotspots

/-- Everything that planning refuses, whether or not there is room to record it. -/
def refusals (plan : InterventionPlan) : List Hotspot → List RefusalKey
  | [] => []
  | h :: hotspots =>
    (refusedKinds p plan h).map (fun kind ↦ (kind, h.id)) ++ refusals (p.planHotspot plan h) hotspots

theorem advances_foldl_planHotspot (hotspots : List Hotspot) (plan : InterventionPlan) :
    Advances plan (hotspots.foldl p.planHotspot plan) (servedIds p plan hotspots) (refusals p plan hotspots) := by
  induction hotspots generalizing plan with
  | nil => exact .refl plan
  | cons h hotspots ih => exact (advances_planHotspot p plan h).trans (ih (p.planHotspot plan h))

theorem served_or_refused {hotspots : List Hotspot} {h : Hotspot} (hh : h ∈ hotspots) (plan : InterventionPlan) :
    h.id ∈ servedIds p plan hotspots ∨ ∃ key ∈ refusals p plan hotspots, key.2 = h.id := by
  induction hotspots generalizing plan with
  | nil => cases hh
  | cons first hotspots ih =>
    rw [servedIds, refusals]
    rcases List.mem_cons.mp hh with rfl | hh
    · cases hserved : serves p plan h with
      | true => exact .inl (List.mem_append_left _ (by simp))
      | false =>
        obtain ⟨kind, hkind⟩ := List.exists_mem_of_ne_nil _ (refusedKinds_ne_nil p plan h hserved)
        exact .inr ⟨(kind, h.id), List.mem_append_left _ (List.mem_map_of_mem hkind), rfl⟩
    · rcases ih hh (p.planHotspot plan first) with hserved | ⟨key, hkey, hid⟩
      · exact .inl (List.mem_append_right _ hserved)
      · exact .inr ⟨key, List.mem_append_right _ hkey, hid⟩

end

def Answered (plan : InterventionPlan) (h : Hotspot) : Prop :=
  (∃ intent ∈ plan.intents, intent.hotspot = h.id) ∨
    ∃ s ∈ plan.suppressed, s.hotspot = h.id ∧ s.reason ≠ ""

/-- Fewer distinct refusals than the record can hold come before the first one under this id. -/
def Room (refused : List RefusalKey) (id : HotspotId) : Prop :=
  (refused.takeWhile (fun key ↦ !decide (key.2 = id))).eraseDups.length < Limits.kMaxSuppressedEntries

theorem answered_localPlan_iff (p : Planning) {h : Hotspot} (hh : h ∈ p.assessment.hotspots) :
    Answered (p.localPlan (openPlan p.assessment)) h ↔
      h.id ∈ servedIds p (openPlan p.assessment) p.assessment.hotspots ∨
        Room (refusals p (openPlan p.assessment) p.assessment.hotspots) h.id := by
  have hrun := advances_foldl_planHotspot p p.assessment.hotspots (openPlan p.assessment)
  set plan := p.assessment.hotspots.foldl p.planHotspot (openPlan p.assessment) with hplan
  set served := servedIds p (openPlan p.assessment) p.assessment.hotspots with hserved
  set refused := refusals p (openPlan p.assessment) p.assessment.hotspots with hrefused
  have hintent : (∃ intent ∈ plan.intents, intent.hotspot = h.id) ↔ h.id ∈ served := by
    rw [← List.mem_map, hrun.served]
    exact Iff.rfl
  have hkeys : keys plan = refused.foldl (note Limits.kMaxSuppressedEntries) [] := hrun.keys
  have hreasoned : Reasoned plan := hrun.reasoned (fun s hs ↦ (by cases hs))
  have hentry : (∃ s ∈ plan.suppressed, s.hotspot = h.id ∧ s.reason ≠ "") ↔
      ∃ key ∈ keys plan, decide (key.2 = h.id) = true := by
    simp only [keys, List.mem_map, exists_exists_and_eq_and, decide_eq_true_eq]
    constructor
    · rintro ⟨s, hs, hid, -⟩
      exact ⟨s, hs, hid⟩
    · rintro ⟨s, hs, hid⟩
      exact ⟨s, hs, hid, hreasoned s hs⟩
  change ((∃ intent ∈ plan.intents, intent.hotspot = h.id) ∨
    ∃ s ∈ plan.suppressed, s.hotspot = h.id ∧ s.reason ≠ "") ↔ _
  rw [hintent, hentry, hkeys]
  rcases served_or_refused p hh (openPlan p.assessment) with hin | ⟨key, hkey, hid⟩
  · exact iff_of_true (.inl hin) (.inl hin)
  · have hnoted : ∃ key ∈ refused, decide (key.2 = h.id) = true := ⟨key, hkey, by simpa using hid⟩
    exact or_congr_right (exists_mem_foldl_note hnoted)

def planningOf (input : DecisionInput) : Planning :=
  ⟨(detect input).1, input.topology.getD default, input.capacity, input.policy.getD {}⟩

theorem binding_diagnose (r : FabricAssessment) (code : ErrorCode) (detail : String) :
    (r.diagnose code detail).binding = r.binding :=
  congrArg (fun c ↦ c.2.2.2) (core_diagnose r code detail)

theorem binding_localize (input : DecisionInput) (ev : BoundEvidence) (r : FabricAssessment) :
    (localize input ev r).1.binding = r.binding := by
  have hhistory : ∀ (st : Collection) (q : FabricAssessment), (historyRecord input st q).binding = q.binding := by
    intro st q
    simp only [historyRecord]
    split <;> split <;> simp only [binding_diagnose]
  have hverdict : ∀ q : FabricAssessment, (verdict q).binding = q.binding := by
    intro q
    simp only [verdict]
    split <;> rfl
  have hescalate : ∀ q : FabricAssessment, (escalate input q).binding = q.binding := by
    intro q
    simp only [escalate]
    split <;> rfl
  simp only [localize, close, hescalate, hverdict, hhistory]
  exact (Reporting.trackingRecord_facts input r).1

theorem binding_detect {input : DecisionInput} {ev : BoundEvidence} (h : admittedEvidence input = some ev) :
    (detect input).1.binding = recordBinding input := by
  obtain ⟨r, hdet, hcore⟩ := Reporting.detect_localized h
  rw [hdet, binding_localize]
  exact congrArg (fun c ↦ c.2.2.2) hcore

theorem topology_of_admitted {input : DecisionInput} {ev : BoundEvidence} (h : admittedEvidence input = some ev) :
    input.topology.filter TopologySnapshot.built = some ev.topology ∧
      (detect input).1.binding.topology = ev.topology.id := by
  have hgates := gates_of_admitted h
  refine ⟨Option.filter_eq_some_iff.mpr ⟨hgates.topology, hgates.built⟩, ?_⟩
  rw [binding_detect h, recordBinding, hgates.topology]
  rfl

theorem plan_eq_localPlan {engine : Engine} {input : DecisionInput} {h : Hotspot} (hlive : input.policyLive = true)
    (hesc : (detect input).1.escalationRequired = false) (hh : h ∈ (detect input).1.hotspots) :
    (engine.decide input).1.plan = (planningOf input).localPlan (openPlan (detect input).1) := by
  obtain ⟨ev, hadm, -⟩ := Persistence.reported_component (List.mem_append_left _ hh)
  obtain ⟨policy, hpolicy, hexpired⟩ := (Option.any_eq_true _ _).mp hlive
  have hplan : (engine.decide input).1.plan =
      planInterventions (detect input).1 input.topology input.capacity input.policy input.now := rfl
  obtain ⟨htopology, hsame⟩ := topology_of_admitted hadm
  have hfresh : input.policy.filter (fun p ↦ !p.expiredAt input.now) = some policy :=
    Option.filter_eq_some_iff.mpr ⟨hpolicy, hexpired⟩
  rw [hplan, planInterventions, htopology, hfresh]
  dsimp only
  rw [if_neg (fun hc ↦ hc.2 hsame), hesc, if_neg Bool.false_ne_true, planningOf,
    (gates_of_admitted hadm).topology, hpolicy]
  rfl

theorem length_refusedKinds (p : Planning) (plan : InterventionPlan) (hotspot : Hotspot) :
    (refusedKinds p plan hotspot).length ≤ 5 := by
  have hkinds : (candidateKinds hotspot.cause).length ≤ 4 := by
    cases hotspot.cause <;> simp [candidateKinds]
  rw [refusedKinds]
  split
  · simp
  · have herase := List.length_eraseP_le (p := emits p hotspot plan.planScopeSharePpm)
      (l := candidateKinds hotspot.cause)
    rw [List.length_append]
    split <;> simp only [List.length_nil, List.length_singleton] <;> omega

theorem takeWhile_refusals (p : Planning) {hotspots : List Hotspot} {h : Hotspot} (hh : h ∈ hotspots)
    (plan : InterventionPlan) : h.id ∈ servedIds p plan hotspots ∨
      ((refusals p plan hotspots).takeWhile (fun key ↦ !decide (key.2 = h.id))).length + 5 ≤
        5 * hotspots.length := by
  induction hotspots generalizing plan with
  | nil => cases hh
  | cons first hotspots ih =>
    rw [servedIds, refusals, List.length_cons]
    have hfive := length_refusedKinds p plan first
    rcases List.mem_cons.mp hh with rfl | hh
    · cases hserved : serves p plan h with
      | true => exact .inl (List.mem_append_left _ (by simp))
      | false =>
        obtain ⟨kind, kinds, hkinds⟩ := List.exists_cons_of_ne_nil (refusedKinds_ne_nil p plan h hserved)
        rw [hkinds, List.map_cons, List.cons_append, List.takeWhile_cons_of_neg (by simp)]
        exact .inr (by rw [List.length_nil]; omega)
    · rcases ih hh (p.planHotspot plan first) with hserved | hfew
      · exact .inl (List.mem_append_right _ hserved)
      · refine .inr ?_
        rw [List.takeWhile_append]
        split
        · rw [List.length_append, List.length_map]
          omega
        · have hshort := (List.takeWhile_prefix (fun key : RefusalKey ↦ !decide (key.2 = h.id))
            (l := (refusedKinds p plan first).map (fun kind ↦ (kind, first.id)))).length_le
          rw [List.length_map] at hshort
          have hpos := List.length_pos_of_mem hh
          omega

theorem room_of_few (p : Planning) {hotspots : List Hotspot} {h : Hotspot} (hh : h ∈ hotspots)
    (hfew : hotspots.length ≤ 13) (plan : InterventionPlan) :
    h.id ∈ servedIds p plan hotspots ∨ Room (refusals p plan hotspots) h.id := by
  rcases takeWhile_refusals p hh plan with hserved | hshort
  · exact .inl hserved
  · refine .inr ?_
    have hdistinct := length_eraseDups_le ((refusals p plan hotspots).takeWhile (fun key ↦ !decide (key.2 = h.id)))
    rw [Room, Limits.kMaxSuppressedEntries]
    omega

/-- For every input with a live policy that does not escalate: every confirmed hotspot is answered exactly
when the record of refusals is not full before the first refusal of a hotspot that is not served. With
up to thirteen hotspots it never is. -/
theorem hotspots_answered_iff (engine : Engine) (input : DecisionInput) (hlive : input.policyLive = true)
    (hesc : (detect input).1.escalationRequired = false) :
    let hotspots := (detect input).1.hotspots
    let refused := refusals (planningOf input) (openPlan (detect input).1) hotspots
    ((∀ h ∈ hotspots, Answered (engine.decide input).1.plan h) ↔
      ∀ h ∈ hotspots, h.id ∈ servedIds (planningOf input) (openPlan (detect input).1) hotspots ∨
        Room refused h.id) ∧
    (hotspots.length ≤ 13 → ∀ h ∈ hotspots, Answered (engine.decide input).1.plan h) := by
  intro hotspots refused
  have hanswered : ∀ h ∈ hotspots, Answered (engine.decide input).1.plan h ↔
      h.id ∈ servedIds (planningOf input) (openPlan (detect input).1) hotspots ∨ Room refused h.id := by
    intro h hh
    rw [plan_eq_localPlan hlive hesc hh]
    exact answered_localPlan_iff (planningOf input) hh
  refine ⟨forall₂_congr hanswered, fun hfew h hh ↦ ?_⟩
  exact (hanswered h hh).mpr (room_of_few (planningOf input) hh hfew _)

def leaves : List UInt64 := (List.range 14).map (fun k ↦ UInt64.ofNat (k + 2))

def star : Result TopologySnapshot :=
  let s := ((default : TopologySnapshot).addRegion ⟨1⟩ [] ⟨0⟩).addResource ⟨1⟩ ⟨1⟩ .switch []
  let s := leaves.foldl (fun s id ↦ s.addResource ⟨id⟩ ⟨1⟩ .switch []) s
  (leaves.foldl (fun s id ↦ s.addLink ⟨id⟩ ⟨1⟩ ⟨id⟩) s).build

def starCapacities : Result CapacitySnapshot :=
  let s := { (default : CapacitySnapshot) with observedAt := 10000 }
  let s := s.add { resource := ⟨1⟩, capacityUnits := 10000 }
  (leaves.foldl (fun s id ↦ s.add { resource := ⟨id⟩, capacityUnits := 100 }) s).build

def starSamples : Result SignalSnapshot :=
  let s := (default : SignalSnapshot).add (islandSample 1 10)
  (leaves.foldl (fun s id ↦ s.add (islandSample id 100)) s).build

def standStill : PolicySnapshot :=
  { issuedAt := 9000, ttlMs := 60000
    budget :=
      { allowFlowRelocation := false, allowPathRebalance := false, allowAdmissionReduction := false
        allowRateChange := false, allowResourceIsolation := false } }

def starInput : DecisionInput :=
  { topology := star.toOption, capacity := starCapacities.toOption
    signals := starSamples.toOption, now := 10000
    policy := some standStill
    tracker := some (SaturationTracker.replace (leaves.map (fun id ↦ (⟨id⟩, ⟨1000, 9000, 5⟩)))) }

/-- Each of the first thirteen hotspots takes up to five entries, which leaves none for the last one. -/
theorem last_leaf_unanswered :
    starInput.policyLive = true ∧ (detect starInput).1.escalationRequired = false ∧
      ∃ h ∈ (detect starInput).1.hotspots, ¬ Answered (({} : Engine).decide starInput).1.plan h := by
  have hsilent : (detect starInput).1.escalationRequired = false ∧
      (({} : Engine).decide starInput).1.plan.intents.length = 0 ∧
      (detect starInput).1.hotspots.any (fun h ↦ !(({} : Engine).decide starInput).1.plan.suppressed.any
        (fun s ↦ s.hotspot = h.id)) = true := by decide +kernel
  obtain ⟨hesc, hnone, hany⟩ := hsilent
  obtain ⟨h, hh, hno⟩ := List.any_eq_true.mp hany
  refine ⟨by decide +kernel, hesc, h, hh, ?_⟩
  rintro (⟨intent, hi, -⟩ | ⟨s, hs, hid, -⟩)
  · rw [List.length_eq_zero_iff.mp hnone] at hi
    cases hi
  · rw [Bool.not_eq_true', List.any_eq_false] at hno
    exact hno s hs (by simpa using hid)

/-- Two hotspots are always answered. -/
theorem pairs_answered :
    let input := Justification.pairsInput Justification.bothTracked
    (detect input).1.hotspots.length = 2 ∧
      ∀ h ∈ (detect input).1.hotspots, Answered (({} : Engine).decide input).1.plan h := by
  intro input
  have htwo : (detect input).1.hotspots.length = 2 := by decide +kernel
  refine ⟨htwo, (hotspots_answered_iff {} input (by decide +kernel) (by decide +kernel)).2 ?_⟩
  rw [htwo]
  decide

end HotspotGovernor.Suppression
