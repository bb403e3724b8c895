import HotspotGovernor.Classification

namespace HotspotGovernor.Truncation

open Foundation Lib Topology TopologyIndex Evidence Authority Detection Sampling Hotspots Detect
open Admissibility Components Reporting Verdicts Escalation Classification Rows SortedList

def outcome (r : FabricAssessment) : CongestionScope × Bool × Bool :=
  (r.scope, r.localizationProven, r.escalationRequired)

def Escalates (input : DecisionInput) (fabricShare : UInt32) (hotspots : List Hotspot) : Prop :=
  widest hotspots = .global ∨ (input.thresholds.globalSharePpm ≤ fabricShare ∧ hotspots ≠ []) ∨
    (input.budget.maxIntentsPerPlan.toNat < hotspots.length ∧
      input.budget.maxPlanScopeSharePpm.toUInt64 ≤ hotspotShare hotspots)

/-- An assessment before its verdict: nothing is localized yet and nothing escalated. -/
structure Undecided (r : FabricAssessment) : Prop where
  unproven : r.localizationProven = false
  calm : r.escalationRequired = false

theorem verdict_scope (r : FabricAssessment) : (verdict r).scope = widest r.hotspots := by
  rw [scope_verdict]
  split
  · next hnil =>
    rw [hnil]
    rfl
  · rfl

theorem verdict_proven {r : FabricAssessment} (h : r.localizationProven = false) :
    (verdict r).localizationProven = r.hotspots.any (fun h ↦ h.scope = .localized) := by
  rw [verdict]
  split
  · next hnil =>
    rw [hnil]
    exact h
  · apply Bool.eq_iff_iff.mpr
    simp [List.countP_pos_iff]

theorem escalate_kept (input : DecisionInput) (r : FabricAssessment) :
    (escalate input r).scope = r.scope ∧ (escalate input r).localizationProven = r.localizationProven := by
  rw [escalate]
  split <;> exact ⟨rfl, rfl⟩

theorem outcome_decided {input : DecisionInput} {r : FabricAssessment} (h : Undecided r) :
    let decided := escalate input (verdict r)
    decided.scope = widest r.hotspots ∧
      decided.localizationProven = r.hotspots.any (fun h ↦ h.scope = .localized) ∧
      (decided.escalationRequired = true ↔ Escalates input r.globalSharePpm r.hotspots) := by
  have hsettled := settled_verdict r
  have hhot : (verdict r).hotspots = r.hotspots := congrArg Prod.fst (reported_verdict r)
  have hcalm : (verdict r).escalationRequired = false := (congrArg Prod.fst hsettled).trans h.calm
  have hshare : (verdict r).globalSharePpm = r.globalSharePpm := congrArg Prod.snd hsettled
  obtain ⟨hscope, hproven⟩ := escalate_kept input (verdict r)
  refine ⟨hscope.trans (verdict_scope r), hproven.trans (verdict_proven h.unproven), ?_⟩
  rw [escalationRequired_escalate hcalm, escalation_isSome, verdict_scope, hhot, hshare, Escalates]

theorem proven_diagnose (r : FabricAssessment) (code : ErrorCode) (detail : String) :
    (r.diagnose code detail).localizationProven = r.localizationProven := by
  rw [FabricAssessment.diagnose]
  split <;> rfl

theorem proven_record {α : Type} (r : FabricAssessment) (f : Finding α) :
    (r.record f).localizationProven = r.localizationProven := by
  rw [FabricAssessment.record]
  cases f.diagnostic with
  | none => rfl
  | some d => exact proven_diagnose _ _ _

theorem proven_recordEvidence (input : DecisionInput) (topology : TopologySnapshot) :
    (recordEvidence input topology).localizationProven = false := by
  have hgrant : ∀ (r : FabricAssessment) (domain : AuthorityDomain) (reason binding : String),
      (r.grant domain reason binding).localizationProven = r.localizationProven := fun _ _ _ _ ↦ rfl
  simp only [recordEvidence, opening, proven_record, hgrant]

theorem proven_trackingRecord (input : DecisionInput) (r : FabricAssessment) :
    (trackingRecord input r).localizationProven = r.localizationProven := by
  rw [trackingRecord]
  split
  · rfl
  · exact proven_diagnose _ _ _

theorem proven_historyRecord (input : DecisionInput) (st : Collection) (r : FabricAssessment) :
    (historyRecord input st r).localizationProven = r.localizationProven := by
  rw [historyRecord]
  split <;> split <;> simp only [proven_diagnose]

section Decided

variable {input : DecisionInput} {ev : BoundEvidence}

def persistents (scene : Scene) : List (List ℕ) := scene.components.filter (meetsWindow scene)

theorem hotspotsOf_persistents (scene : Scene) :
    hotspotsOf scene true scene.components = (persistents scene).map scene.hotspotOf := by
  rw [hotspotsOf, List.filter_map, persistents]
  congr 1
  apply List.filter_congr
  intro c _
  have hpersistent : (scene.hotspotOf c).persistent = meetsWindow scene c := rfl
  simp [hpersistent]

theorem detect_decided (h : admittedEvidence input = some ev) :
    let scene := sceneOf input ev (recordBinding input)
    ∃ q, (detect input).1 = close (escalate input (verdict q)) ∧ Undecided q ∧
      q.hotspots = (confirmed scene).map scene.hotspotOf ∧ q.globalSharePpm = scene.tally.globalSharePpm := by
  intro scene
  set r := account (countResources (recordEvidence input ev.topology) ev.topology.resources.length)
    (tallyOf ev input.thresholds input.now) with hr
  have hcore : core r = ([], [], false, recordBinding input) := core_recordEvidence input ev.topology
  have hbinding : (trackingRecord input r).binding = recordBinding input :=
    (trackingRecord_facts input r).1.trans (congrArg (fun c ↦ c.2.2.2) hcore)
  set r' := trackingRecord input r with hr'
  set st := collectAll (sceneOf input ev r'.binding) r'.authority with hst
  set q := historyRecord input st
    { r' with hotspots := st.hotspots, candidates := st.candidates, authority := st.authority } with hq
  have hsettled : settled q = settled r := by
    rw [hq, settled_historyRecord]
    exact settled_trackingRecord input r
  refine ⟨q, ?_, ⟨?_, ?_⟩, ?_, ?_⟩
  · rw [detect_eq_localize h]
    rfl
  · rw [hq, proven_historyRecord]
    exact (proven_trackingRecord input r).trans (proven_recordEvidence input ev.topology)
  · exact (congrArg Prod.fst hsettled).trans (congrArg (fun c ↦ c.2.2.1) hcore)
  · have hreported : q.hotspots = st.hotspots := congrArg Prod.fst (reported_historyRecord input st _)
    rw [hreported, hst, collectAll_hotspots, hbinding]
    exact hotspotsOf_confirmed scene
  · exact congrArg Prod.snd hsettled

end Decided

/-- An assessment before its verdict, with every hotspot and candidate there is. -/
def lifted (scene : Scene) (r : FabricAssessment) : FabricAssessment :=
  { r with
    hotspots := hotspotsOf scene true scene.components
    candidates := hotspotsOf scene false scene.components
    localizationProven := false
    escalationRequired := false }

/-- The assessment of an input with the reporting bound lifted: the same verdict and the same escalation
over all that is persistent. -/
def unbounded (input : DecisionInput) : FabricAssessment :=
  match admittedEvidence input with
  | none => (detect input).1
  | some ev =>
    escalate input (verdict (lifted (sceneOf input ev (recordBinding input)) (detect input).1))

def BoundHarmless (input : DecisionInput) : Prop := outcome (detect input).1 = outcome (unbounded input)

def scopeOf (scene : Scene) (component : List ℕ) : CongestionScope :=
  scene.classify (componentShare scene component) (scene.regions component).length
    (scene.healthy component).length

def totalOf (scene : Scene) (components : List (List ℕ)) : ℕ :=
  (components.map (fun c ↦ (componentShare scene c).toNat)).sum

def Seen (scene : Scene) (components : List (List ℕ)) : Prop :=
  (∃ c ∈ components, Spans scene c) ∨
    (scene.thresholds.globalSharePpm ≤ scene.tally.globalSharePpm ∧ components ≠ []) ∨
    (scene.input.budget.maxIntentsPerPlan.toNat < components.length ∧
      scene.input.budget.maxPlanScopeSharePpm.toNat ≤ totalOf scene components)

def hidden (scene : Scene) : List (List ℕ) := (persistents scene).drop Limits.kMaxHotspots

/-- The confirmed components speak for the hidden ones: those are no wider, are not the only localized
ones, and do not take the hotspots beyond the budget of a plan by themselves. -/
structure Represented (scene : Scene) : Prop where
  scope : ∀ c ∈ hidden scene, scopeOf scene c = .unknown ∨
    ∃ shown ∈ confirmed scene, (scopeOf scene c).code ≤ (scopeOf scene shown).code
  localized : ∀ c ∈ hidden scene, scopeOf scene c = .localized →
    ∃ shown ∈ confirmed scene, scopeOf scene shown = .localized
  budget : scene.input.budget.maxIntentsPerPlan.toNat < (persistents scene).length →
    scene.input.budget.maxPlanScopeSharePpm.toNat ≤ totalOf scene (persistents scene) →
      Seen scene (confirmed scene)

section Lists

variable {scene : Scene}

theorem le_widest_iff (hotspots : List Hotspot) (n : ℕ) :
    n ≤ (widest hotspots).code ↔ n ≤ 1 ∨ ∃ h ∈ hotspots, n ≤ h.scope.code := by
  have hfold : ∀ w : CongestionScope, n ≤ (hotspots.foldl
      (fun widest h ↦ if h.scope.code > widest.code then h.scope else widest) w).code ↔
        n ≤ w.code ∨ ∃ h ∈ hotspots, n ≤ h.scope.code := by
    induction hotspots with
    | nil => simp
    | cons h hotspots ih =>
      intro w
      rw [List.foldl_cons, ih, List.exists_mem_cons_iff, ← or_assoc]
      apply or_congr_left
      split <;> omega
  exact hfold .none

theorem code_inj {s s' : CongestionScope} (h : s.code = s'.code) : s = s' := by
  cases s <;> cases s' <;> first | rfl | cases h

theorem scopeOf_ne_none (c : List ℕ) : scopeOf scene c ≠ .none := classify_ne_none scene _ _ _

/-- Some components are as wide as they are together with others exactly when each of the others is
unknown or no wider than one of them. -/
theorem widest_append_iff (shown others : List (List ℕ)) :
    widest (shown.map scene.hotspotOf) = widest ((shown ++ others).map scene.hotspotOf) ↔
      ∀ c ∈ others, scopeOf scene c = .unknown ∨
        ∃ s ∈ shown, (scopeOf scene c).code ≤ (scopeOf scene s).code := by
  have hle : ∀ (cs : List (List ℕ)) (n : ℕ), n ≤ (widest (cs.map scene.hotspotOf)).code ↔
      n ≤ 1 ∨ ∃ c ∈ cs, n ≤ (scopeOf scene c).code := by
    intro cs n
    rw [le_widest_iff]
    simp only [List.mem_map, exists_exists_and_eq_and]
    rfl
  constructor
  · intro h c hc
    have hcode : (scopeOf scene c).code ≤ (widest (shown.map scene.hotspotOf)).code := by
      rw [h]
      exact (hle _ _).mpr (.inr ⟨c, List.mem_append_right _ hc, le_refl _⟩)
    rcases (hle _ _).mp hcode with hlow | hs
    · have hne : scopeOf scene c ≠ .none := scopeOf_ne_none c
      revert hlow hne
      cases scopeOf scene c <;> simp [CongestionScope.code]
    · exact .inr hs
  · intro h
    apply code_inj
    apply le_antisymm
    · rcases (hle _ _).mp (le_refl (widest (shown.map scene.hotspotOf)).code) with hlow | ⟨s, hs, hcode⟩
      · exact (hle _ _).mpr (.inl hlow)
      · exact (hle _ _).mpr (.inr ⟨s, List.mem_append_left _ hs, hcode⟩)
    · rcases (hle _ _).mp (le_refl (widest ((shown ++ others).map scene.hotspotOf)).code)
        with hlow | ⟨c, hc, hcode⟩
      · exact (hle _ _).mpr (.inl hlow)
      · rcases List.mem_append.mp hc with hc | hc
        · exact (hle _ _).mpr (.inr ⟨c, hc, hcode⟩)
        · rcases h c hc with hunknown | ⟨s, hs, hwider⟩
          · rw [hunknown] at hcode
            exact (hle _ _).mpr (.inl (hcode.trans (Nat.zero_le _)))
          · exact (hle _ _).mpr (.inr ⟨s, hs, hcode.trans hwider⟩)

theorem localized_append_iff (shown others : List (List ℕ)) :
    (shown.map scene.hotspotOf).any (fun h ↦ h.scope = .localized) =
        ((shown ++ others).map scene.hotspotOf).any (fun h ↦ h.scope = .localized) ↔
      ∀ c ∈ others, scopeOf scene c = .localized → ∃ s ∈ shown, scopeOf scene s = .localized := by
  have hany : ∀ cs : List (List ℕ), (cs.map scene.hotspotOf).any (fun h ↦ h.scope = .localized) = true ↔
      ∃ c ∈ cs, scopeOf scene c = .localized := by
    intro cs
    rw [List.any_map, List.any_eq_true]
    simp only [Function.comp_apply, decide_eq_true_eq]
    rfl
  rw [Bool.eq_iff_iff, hany, hany]
  constructor
  · exact fun h c hc hlocal ↦ h.mpr ⟨c, List.mem_append_right _ hc, hlocal⟩
  · intro h
    constructor
    · rintro ⟨s, hs, hlocal⟩
      exact ⟨s, List.mem_append_left _ hs, hlocal⟩
    · rintro ⟨c, hc, hlocal⟩
      rcases List.mem_append.mp hc with hc | hc
      · exact ⟨c, hc, hlocal⟩
      · exact h c hc hlocal

theorem escalates_iff_seen (components : List (List ℕ)) :
    Escalates scene.input scene.tally.globalSharePpm (components.map scene.hotspotOf) ↔
      Seen scene components := by
  have hspans : widest (components.map scene.hotspotOf) = .global ↔ ∃ c ∈ components, Spans scene c := by
    rw [widest_eq_global]
    simp only [List.mem_map, exists_exists_and_eq_and]
    exact exists_congr (fun c ↦ and_congr_right (fun _ ↦ scope_hotspotOf_eq_global))
  have hshare : ∀ budget : UInt32, budget.toUInt64 ≤ hotspotShare (components.map scene.hotspotOf) ↔
      budget.toNat ≤ totalOf scene components := by
    intro budget
    have hbudget := budget.toNat_lt
    have htotal : totalShare (components.map scene.hotspotOf) = totalOf scene components := by
      rw [totalShare, List.map_map]
      rfl
    rw [UInt64.le_iff_toNat_le, UInt32.toNat_toUInt64, hotspotShare, foldl_share, htotal, UInt64.toNat_zero]
    omega
  rw [Escalates, Seen, hspans, hshare, List.length_map, ne_eq, List.map_eq_nil_iff]
  rfl

theorem seen_append_iff {shown others : List (List ℕ)} (hshown : shown = [] → others = [])
    (hscope : ∀ c ∈ others, scopeOf scene c = .unknown ∨
      ∃ s ∈ shown, (scopeOf scene c).code ≤ (scopeOf scene s).code) :
    (Seen scene shown ↔ Seen scene (shown ++ others)) ↔
      (scene.input.budget.maxIntentsPerPlan.toNat < (shown ++ others).length →
        scene.input.budget.maxPlanScopeSharePpm.toNat ≤ totalOf scene (shown ++ others) →
          Seen scene shown) := by
  have hmore : Seen scene shown → Seen scene (shown ++ others) := by
    rintro (⟨c, hc, hspans⟩ | ⟨hshare, hne⟩ | ⟨hmany, htotal⟩)
    · exact .inl ⟨c, List.mem_append_left _ hc, hspans⟩
    · exact .inr (.inl ⟨hshare, by simp [hne]⟩)
    · refine .inr (.inr ⟨?_, ?_⟩)
      · rw [List.length_append]
        omega
      · rw [totalOf, List.map_append, List.sum_append]
        exact htotal.trans (Nat.le_add_right _ _)
  constructor
  · exact fun h hmany htotal ↦ h.mpr (.inr (.inr ⟨hmany, htotal⟩))
  · intro h
    refine ⟨hmore, ?_⟩
    rintro (⟨c, hc, hspans⟩ | ⟨hshare, hne⟩ | ⟨hmany, htotal⟩)
    · -- a hidden component that spans the fabric is no wider than a shown one, which spans it as well
      rcases List.mem_append.mp hc with hc | hc
      · exact .inl ⟨c, hc, hspans⟩
      · have hglobal : scopeOf scene c = .global := scope_hotspotOf_eq_global.mpr hspans
        rcases hscope c hc with hunknown | ⟨s, hs, hcode⟩
        · rw [hglobal] at hunknown
          cases hunknown
        · refine .inl ⟨s, hs, scope_hotspotOf_eq_global.mp (show scopeOf scene s = .global from ?_)⟩
          rw [hglobal] at hcode
          revert hcode
          cases scopeOf scene s <;> simp [CongestionScope.code]
    · refine .inr (.inl ⟨hshare, fun hnil ↦ hne ?_⟩)
      rw [hnil, hshown hnil, List.nil_append]
    · exact h hmany htotal

theorem decided_over {r : FabricAssessment} {components : List (List ℕ)} (h : Undecided r)
    (hhot : r.hotspots = components.map scene.hotspotOf)
    (hshare : r.globalSharePpm = scene.tally.globalSharePpm) :
    let decided := escalate scene.input (verdict r)
    decided.scope = widest (components.map scene.hotspotOf) ∧
      decided.localizationProven =
        (components.map scene.hotspotOf).any (fun h ↦ h.scope = .localized) ∧
      (decided.escalationRequired = true ↔ Seen scene components) := by
  have hdecided := @outcome_decided scene.input r h
  rw [hhot, hshare, escalates_iff_seen] at hdecided
  exact hdecided

end Lists

theorem boundHarmless_iff_lists {input : DecisionInput} {ev : BoundEvidence}
    (hadm : admittedEvidence input = some ev) :
    let scene := sceneOf input ev (recordBinding input)
    BoundHarmless input ↔
      widest ((confirmed scene).map scene.hotspotOf) =
          widest ((confirmed scene ++ hidden scene).map scene.hotspotOf) ∧
        ((confirmed scene).map scene.hotspotOf).any (fun h ↦ h.scope = .localized) =
          ((confirmed scene ++ hidden scene).map scene.hotspotOf).any (fun h ↦ h.scope = .localized) ∧
        (Seen scene (confirmed scene) ↔ Seen scene (confirmed scene ++ hidden scene)) := by
  intro scene
  obtain ⟨q, hdet, hq, hhot, hshare⟩ := detect_decided hadm
  have hall : (lifted scene (detect input).1).hotspots =
      (confirmed scene ++ hidden scene).map scene.hotspotOf := by
    rw [confirmed, hidden, ← persistents, List.take_append_drop]
    exact hotspotsOf_persistents scene
  obtain ⟨hscope, hproven, hrequired⟩ := decided_over hq hhot hshare
  obtain ⟨hscope', hproven', hrequired'⟩ := @decided_over scene (lifted scene (detect input).1)
    (confirmed scene ++ hidden scene) ⟨rfl, rfl⟩ hall (detect_escalation hadm).2
  have hsame : BoundHarmless input ↔ outcome (escalate scene.input (verdict q)) =
      outcome (escalate scene.input (verdict (lifted scene (detect input).1))) := by
    rw [BoundHarmless, unbounded, hadm, hdet]
    rfl
  have hescalation := Bool.eq_iff_iff (a := (escalate scene.input (verdict q)).escalationRequired)
    (b := (escalate scene.input (verdict (lifted scene (detect input).1))).escalationRequired)
  rw [hrequired, hrequired'] at hescalation
  rw [hsame, outcome, outcome, Prod.mk.injEq, Prod.mk.injEq, hscope, hproven, hscope', hproven', hescalation]

/-- For every input: the reporting bound changes nothing that is decided exactly when the confirmed
components speak for the hidden ones. -/
theorem bound_harmless_iff (input : DecisionInput) : BoundHarmless input ↔
    ∀ ev, admittedEvidence input = some ev → Represented (sceneOf input ev (recordBinding input)) := by
  cases hadm : admittedEvidence input with
  | none =>
    rw [BoundHarmless, unbounded, hadm]
    simp
  | some ev =>
    set scene := sceneOf input ev (recordBinding input) with hscene
    have hsplit : confirmed scene ++ hidden scene = persistents scene := List.take_append_drop _ _
    have hshown : confirmed scene = [] → hidden scene = [] := by
      intro hnil
      rcases List.take_eq_nil_iff.mp hnil with hzero | hnone
      · exact absurd hzero (by decide)
      · rw [hidden, persistents, hnone, List.drop_nil]
    refine (boundHarmless_iff_lists hadm).trans ?_
    rw [widest_append_iff, localized_append_iff]
    constructor
    · rintro ⟨hw, hl, hs⟩ ev' hev'
      obtain rfl := Option.some.inj hev'
      exact ⟨hw, hl, hsplit ▸ (seen_append_iff hshown hw).mp hs⟩
    · intro h
      have hr := h ev rfl
      exact ⟨hr.scope, hr.localized, (seen_append_iff hshown hr.scope).mpr (hsplit ▸ hr.budget)⟩

section Elsewhere

theorem tally_admissibleCount (t : Thresholds) (obs : List (Resource × Observation)) (tally : Tally) :
    (obs.foldl (Tally.step t) tally).admissibleCount =
      tally.admissibleCount + obs.countP (fun o ↦ (o.2.cell t).admissible) := by
  induction obs generalizing tally with
  | nil => rfl
  | cons o obs ih =>
    have hstep : (tally.step t o).admissibleCount =
        tally.admissibleCount + ((o.2.cell t).admissible).toNat := by
      obtain ⟨r, o⟩ := o
      cases o <;> rfl
    rw [List.foldl_cons, ih, hstep, List.countP_cons]
    cases (o.2.cell t).admissible
    · rfl
    · simp only [Bool.toNat_true, if_true]
      omega

/-- Where a resource is not saturated in admissible evidence, not all of that evidence is saturated. -/
theorem not_allAdmissibleSaturated {input : DecisionInput} {ev : BoundEvidence} {binding : EvidenceBinding}
    {id : ResourceId} (h : Unsaturated ev input.thresholds input.now id) :
    (sceneOf input ev binding).allAdmissibleSaturated = false := by
  obtain ⟨r, hr, -, hadm, hsat⟩ := h
  set t := input.thresholds with ht
  have hmem : (r, observe ev t input.now r) ∈ observations ev t input.now := List.mem_map_of_mem hr
  have hle : ∀ obs : List (Resource × Observation), obs.countP (fun o ↦ (o.2.cell t).saturated) ≤
      obs.countP (fun o ↦ (o.2.cell t).admissible) := by
    intro obs
    apply List.countP_mono_left
    rintro ⟨r, o⟩ - hsat
    cases o with
    | measured entry sample =>
      exact (Bool.and_eq_true_iff.mp hsat).1
    | _ => cases hsat
  have hlt : (observations ev t input.now).countP (fun o ↦ (o.2.cell t).saturated) <
      (observations ev t input.now).countP (fun o ↦ (o.2.cell t).admissible) := by
    obtain ⟨before, after, hsplit⟩ := List.append_of_mem hmem
    have hbefore := hle before
    have hafter := hle after
    rw [hsplit, List.countP_append, List.countP_append, List.countP_cons_of_neg (by simp [hsat]),
      List.countP_cons_of_pos (by exact hadm)]
    omega
  have hne : (tallyOf ev t input.now).saturatedCount ≠ (tallyOf ev t input.now).admissibleCount := by
    rw [tallyOf, tally_saturatedCount, tally_admissibleCount]
    exact (Nat.add_lt_add_left hlt 0).ne
  rw [Scene.allAdmissibleSaturated, Bool.and_eq_false_imp]
  exact fun _ ↦ decide_eq_false hne

end Elsewhere

def lastLarge (i : ℕ) : UInt64 := if i = Limits.kMaxHotspots then kUInt64Max else 1

/-- Unlinked switches: as many small saturated ones as may be reported, one that holds almost all of the
capacity, and one that is healthy. -/
def crowdedRow : DecisionInput :=
  rowInput (Limits.kMaxHotspots + 2) 0 (fun _ ↦ ⟨1⟩) lastLarge (fun i ↦ i != Limits.kMaxHotspots + 1)

section Crowded

theorem lastLarge_ne_zero (i : ℕ) : lastLarge i ≠ 0 := by
  rw [lastLarge]
  split <;> decide

variable {ev : BoundEvidence} (hrow : RowEvidence (Limits.kMaxHotspots + 2) 0 (fun _ ↦ ⟨1⟩) lastLarge
  (fun i ↦ i != Limits.kMaxHotspots + 1) ev)
include hrow

theorem persistents_crowded (hadm : admittedEvidence crowdedRow = some ev) :
    persistents (sceneOf crowdedRow ev (recordBinding crowdedRow)) =
      (List.range (Limits.kMaxHotspots + 1)).map (fun i ↦ [i]) := by
  have hbuilt := (gates_of_admitted hadm).built
  have hislands : (sceneOf crowdedRow ev (recordBinding crowdedRow)).components =
      ((List.range (Limits.kMaxHotspots + 2)).filter (fun i ↦ i != Limits.kMaxHotspots + 1)).map
        (fun i ↦ [i]) := components_islands hrow (fun i _ ↦ lastLarge_ne_zero i) hbuilt rfl
  have hhot : (List.range (Limits.kMaxHotspots + 2)).filter (fun i ↦ i != Limits.kMaxHotspots + 1) =
      List.range (Limits.kMaxHotspots + 1) := by
    have hkept : (List.range (Limits.kMaxHotspots + 1)).filter (fun i ↦ i != Limits.kMaxHotspots + 1) =
        List.range (Limits.kMaxHotspots + 1) := by
      apply List.filter_eq_self.mpr
      intro i hi
      have hlt := List.mem_range.mp hi
      exact bne_iff_ne.mpr (by omega)
    rw [List.range_succ, List.filter_append, hkept]
    simp
  rw [hhot] at hislands
  rw [persistents, hislands]
  apply List.filter_eq_self.mpr
  intro c hc
  obtain ⟨i, -, rfl⟩ := List.mem_map.mp hc
  exact meetsWindow_row (List.cons_ne_nil _ _)

theorem componentShare_crowded {i : ℕ} (hi : i < Limits.kMaxHotspots + 2) :
    componentShare (sceneOf crowdedRow ev (recordBinding crowdedRow)) [i] =
      (ratioPpm (lastLarge i) kUInt64Max).getD 0 := by
  set scene := sceneOf crowdedRow ev (recordBinding crowdedRow) with hscene
  have hfabric : scene.tally.fabricCapacity = kUInt64Max := by
    have hcap := Coverage.tallyOf_fabricCapacity rowPolicy.thresholds ev 10000
    have hlarge := hrow.units_le (fun i _ ↦ lastLarge_ne_zero i)
      (show Limits.kMaxHotspots < Limits.kMaxHotspots + 2 by omega)
    rw [lastLarge, if_pos rfl] at hlarge
    have hmax : kUInt64Max.toNat = 2 ^ 64 - 1 := rfl
    apply UInt64.toNat_inj.mp
    change (tallyOf ev rowPolicy.thresholds 10000).fabricCapacity.toNat = _
    rw [hcap]
    omega
  have hget : scene.resources[i]? = some ⟨numbered i, ⟨1⟩, .switch, []⟩ := getElem?_resources hrow hi
  have hid : scene.resourceId i = numbered i := resourceId_of_getElem? hget
  have hfound : scene.evidence.capacity.find (scene.resourceId i) =
      some { resource := numbered i, capacityUnits := lastLarge i } := by
    rw [hid]
    exact hrow.capacity i hi
  have hunits : scene.componentCapacity [i] = lastLarge i := by
    apply UInt64.toNat_inj.mp
    have hlt := (lastLarge i).toNat_lt
    rw [Scene.componentCapacity, List.foldl_cons, List.foldl_nil, hfound]
    simp only [Ratio.satAdd_toNat, UInt64.toNat_zero]
    omega
  rw [componentShare, hunits, hfabric]

theorem scopeOf_crowded_large :
    scopeOf (sceneOf crowdedRow ev (recordBinding crowdedRow)) [Limits.kMaxHotspots] = .global := by
  apply scope_hotspotOf_eq_global.mpr
  left
  rw [componentShare_crowded hrow (by omega), lastLarge, if_pos rfl]
  change rowPolicy.thresholds.globalSharePpm ≤ _
  decide

theorem scopeOf_crowded_small (hadm : admittedEvidence crowdedRow = some ev) {i : ℕ}
    (hi : i < Limits.kMaxHotspots) :
    scopeOf (sceneOf crowdedRow ev (recordBinding crowdedRow)) [i] = .unknown := by
  set scene := sceneOf crowdedRow ev (recordBinding crowdedRow) with hscene
  have hbuilt := (gates_of_admitted hadm).built
  have hshare := componentShare_crowded hrow (show i < Limits.kMaxHotspots + 2 by omega)
  rw [lastLarge, if_neg hi.ne] at hshare
  have hregions : (scene.regions [i]).length ≤ 1 := by
    have hmap : (scene.regions [i]).toFinset = {scene.regionId i} := toFinset_regions scene [i]
    have hnodup : (scene.regions [i]).Nodup := (unique_sortBy_strict _).nodup
    rw [← List.toFinset_card_of_nodup hnodup, hmap, Finset.card_singleton]
  have hcool : Unsaturated ev crowdedRow.thresholds crowdedRow.now (numbered (Limits.kMaxHotspots + 1)) := by
    have hlast := getElem?_resources hrow (show Limits.kMaxHotspots + 1 < Limits.kMaxHotspots + 2 by omega)
    refine ⟨_, List.mem_of_getElem? hlast, rfl, ?_⟩
    have hobserve := hrow.observe (fun i _ ↦ lastLarge_ne_zero i)
      (show Limits.kMaxHotspots + 1 < Limits.kMaxHotspots + 2 by omega)
    have hmeasure := @measure_row lastLarge (fun i ↦ i != Limits.kMaxHotspots + 1) _
      (lastLarge_ne_zero (Limits.kMaxHotspots + 1))
    rw [bne_self_eq_false] at hmeasure
    change ((observe ev rowPolicy.thresholds 10000 _).cell rowPolicy.thresholds).admissible = true ∧
      ((observe ev rowPolicy.thresholds 10000 _).cell rowPolicy.thresholds).saturated = false
    rw [hobserve]
    exact hmeasure
  refine scope_hotspotOf_eq_unknown.mpr ⟨?_, ?_, not_allAdmissibleSaturated hcool, ?_, ?_⟩
  · change componentShare scene [i] < rowPolicy.thresholds.globalSharePpm
    rw [hshare]
    decide
  · exact hregions.trans (show 1 ≤ rowPolicy.thresholds.maxRegionalRegions.toNat by decide)
  · exact hregions.trans (show 1 ≤ rowPolicy.thresholds.maxLocalRegions.toNat by decide)
  · apply List.eq_nil_iff_forall_not_mem.mpr
    intro id hid
    obtain ⟨⟨a, -, l, hl, -⟩, -⟩ := (mem_healthy_iff hbuilt).mp hid
    rw [hrow.links] at hl
    cases hl

end Crowded

theorem wide_hotspot_hidden : ¬ BoundHarmless crowdedRow := by
  intro hharmless
  obtain ⟨ev, hadm, hrow⟩ : ∃ ev, admittedEvidence crowdedRow = some ev ∧
      RowEvidence (Limits.kMaxHotspots + 2) 0 (fun _ ↦ ⟨1⟩) lastLarge
        (fun i ↦ i != Limits.kMaxHotspots + 1) ev :=
    rowEvidence (by decide) (by omega) (fun _ _ ↦ .inl rfl) (fun i _ ↦ lastLarge_ne_zero i)
  set scene := sceneOf crowdedRow ev (recordBinding crowdedRow) with hscene
  have hpersistents : persistents scene = (List.range (Limits.kMaxHotspots + 1)).map (fun i ↦ [i]) :=
    persistents_crowded hrow hadm
  have hlarge : [Limits.kMaxHotspots] ∈ hidden scene := by
    apply List.mem_of_getElem? (i := 0)
    rw [hidden, hpersistents, List.getElem?_drop, List.getElem?_map, List.getElem?_range (by omega)]
    rfl
  have hscopes : widest ((confirmed scene).map scene.hotspotOf) =
      widest ((confirmed scene ++ hidden scene).map scene.hotspotOf) :=
    ((boundHarmless_iff_lists hadm).mp hharmless).1
  have hglobal : scopeOf scene [Limits.kMaxHotspots] = .global := scopeOf_crowded_large hrow
  rcases (widest_append_iff _ _).mp hscopes _ hlarge with h | ⟨s, hs, hcode⟩
  · rw [hglobal] at h
    cases h
  · have hshown : s ∈ (persistents scene).take Limits.kMaxHotspots := hs
    rw [hpersistents, ← List.map_take, List.take_range] at hshown
    obtain ⟨i, hi, rfl⟩ := List.mem_map.mp hshown
    have hsmall : scopeOf scene [i] = .unknown :=
      scopeOf_crowded_small hrow hadm ((List.mem_range.mp hi).trans_le (min_le_left _ _))
    rw [hglobal, hsmall] at hcode
    exact absurd hcode (by decide)

end HotspotGovernor.Truncation
