import HotspotGovernor.Reporting

namespace HotspotGovernor.Verdicts

open Foundation Lib Topology Evidence Authority Detection Sampling Hotspots Detect
open Admissibility Reporting

theorem classify_ne_none (scene : Scene) (share : UInt32) (regionCount healthyCount : ℕ) :
    scene.classify share regionCount healthyCount ≠ .none := by
  unfold Scene.classify
  split_ifs <;> simp

theorem widest_step_eq_none {w : CongestionScope} {h : Hotspot} (hw : w ≠ .unknown) (hh : h.scope ≠ .none) :
    (if h.scope.code > w.code then h.scope else w) ≠ .unknown ∧
      ((if h.scope.code > w.code then h.scope else w) = .none ↔ w = .none ∧ h.scope = .unknown) := by
  revert hw hh
  cases w <;> cases h.scope <;> simp [CongestionScope.code]

theorem foldl_widest_eq_none {hotspots : List Hotspot} (hne : ∀ h ∈ hotspots, h.scope ≠ .none)
    {w : CongestionScope} (hw : w ≠ .unknown) :
    hotspots.foldl (fun widest h ↦ if h.scope.code > widest.code then h.scope else widest) w = .none ↔
      w = .none ∧ ∀ h ∈ hotspots, h.scope = .unknown := by
  induction hotspots generalizing w with
  | nil => simp
  | cons h hotspots ih =>
    obtain ⟨hstep, hiff⟩ := widest_step_eq_none hw (hne h List.mem_cons_self)
    rw [List.foldl_cons, ih (fun x hx ↦ hne x (List.mem_cons_of_mem _ hx)) hstep, hiff, and_assoc,
      List.forall_mem_cons]

/-- The widest of some scopes, none of which is None, is None exactly when all of them are Unknown:
the search starts at None, which ranks above Unknown. -/
theorem widest_eq_none {hotspots : List Hotspot} (hne : ∀ h ∈ hotspots, h.scope ≠ .none) :
    widest hotspots = .none ↔ ∀ h ∈ hotspots, h.scope = .unknown := by
  rw [widest, foldl_widest_eq_none hne (by simp)]
  simp

theorem widest_ne_unknown {hotspots : List Hotspot} (hne : ∀ h ∈ hotspots, h.scope ≠ .none) :
    widest hotspots ≠ .unknown := by
  have hfold : ∀ w : CongestionScope, w ≠ .unknown → hotspots.foldl
      (fun widest h ↦ if h.scope.code > widest.code then h.scope else widest) w ≠ .unknown := by
    induction hotspots with
    | nil => exact fun w hw ↦ hw
    | cons h hotspots ih =>
      intro w hw
      exact ih (fun x hx ↦ hne x (List.mem_cons_of_mem _ hx)) _
        (widest_step_eq_none hw (hne h List.mem_cons_self)).1
  exact hfold .none (by simp)

theorem scope_escalate (input : DecisionInput) (r : FabricAssessment) :
    (escalate input r).scope = r.scope := by
  unfold escalate
  split <;> rfl

theorem scope_verdict (r : FabricAssessment) :
    (verdict r).scope = if r.hotspots = [] then .none else widest r.hotspots := by
  unfold verdict
  split <;> rfl

theorem widest_map_authority (hotspots : List Hotspot) (authority : AuthorityVector) :
    widest (hotspots.map (fun h ↦ { h with authority })) = widest hotspots := by
  rw [widest, List.foldl_map]
  rfl

theorem localize_scope (input : DecisionInput) (ev : BoundEvidence) (r : FabricAssessment) :
    (localize input ev r).1.scope =
      if (localize input ev r).1.hotspots = [] then .none else widest (localize input ev r).1.hotspots := by
  set r' := trackingRecord input r with hr'
  set st := collectAll (sceneOf input ev r'.binding) r'.authority with hst
  set q := historyRecord input st
    { r' with hotspots := st.hotspots, candidates := st.candidates, authority := st.authority } with hq
  have hout : (localize input ev r).1 = close (escalate input (verdict q)) := rfl
  have hhot : (escalate input (verdict q)).hotspots = q.hotspots := by
    have h := (reported_escalate input (verdict q)).trans (reported_verdict q)
    exact congrArg Prod.fst h
  rw [hout]
  simp only [close, widest_map_authority, List.map_eq_nil_iff, hhot]
  rw [scope_escalate, scope_verdict]

/-- No hotspot is confirmed: none is reported, and no candidate is persistent. -/
def Unconfirmed (r : FabricAssessment) : Prop :=
  r.hotspots = [] ∧ ∀ h ∈ r.candidates, h.persistent = false

def meetsWindow (scene : Scene) (component : List ℕ) : Bool :=
  scene.persistentOf (elapsedMs (scene.span component).1 scene.now) (scene.span component).2

/-- The components that are reported as confirmed hotspots, up to the reporting bound. -/
def confirmed (scene : Scene) : List (List ℕ) :=
  (scene.components.filter (meetsWindow scene)).take Limits.kMaxHotspots

/-- A component that is confined, but has no healthy neighbour to compare against. -/
structure Incomparable (scene : Scene) (component : List ℕ) : Prop where
  share : (ratioPpm (scene.componentCapacity component) scene.tally.fabricCapacity).getD 0 <
    scene.thresholds.globalSharePpm
  regional : (scene.regions component).length ≤ scene.thresholds.maxRegionalRegions.toNat
  healthyElsewhere : scene.allAdmissibleSaturated = false
  confined : (scene.regions component).length ≤ scene.thresholds.maxLocalRegions.toNat
  alone : scene.healthy component = []

/-- Saturation is confirmed, but every confirmed component is without comparison. -/
def OnlyIncomparable (input : DecisionInput) : Prop :=
  ∃ ev, admittedEvidence input = some ev ∧
    let scene := sceneOf input ev (recordBinding input)
    confirmed scene ≠ [] ∧ ∀ component ∈ confirmed scene, Incomparable scene component

theorem scope_hotspotOf_eq_unknown {scene : Scene} {component : List ℕ} :
    (scene.hotspotOf component).scope = .unknown ↔ Incomparable scene component := by
  have hscope : (scene.hotspotOf component).scope = scene.classify
    ((ratioPpm (scene.componentCapacity component) scene.tally.fabricCapacity).getD 0)
    (scene.regions component).length (scene.healthy component).length := rfl
  rw [hscope]
  unfold Scene.classify
  constructor
  · intro h
    split_ifs at h with h₁ h₂ h₃ h₄ h₅
    exact ⟨UInt32.not_le.mp h₁, not_lt.mp h₂, Bool.not_eq_true _ ▸ h₃, not_lt.mp h₄,
      List.length_eq_zero_iff.mp h₅⟩
  · intro h
    rw [if_neg (UInt32.not_le.mpr h.share), if_neg (not_lt.mpr h.regional),
      if_neg (by simp [h.healthyElsewhere]), if_neg (not_lt.mpr h.confined),
      if_pos (List.length_eq_zero_iff.mpr h.alone)]

theorem hotspotsOf_confirmed (scene : Scene) :
    (hotspotsOf scene true scene.components).take Limits.kMaxHotspots =
      (confirmed scene).map scene.hotspotOf := by
  rw [hotspotsOf, List.filter_map, confirmed, List.map_take]
  congr 2
  refine List.filter_congr (fun c _ ↦ ?_)
  simp only [Function.comp_apply, Bool.decide_eq_true]
  rfl

theorem detect_reports {input : DecisionInput} {ev : BoundEvidence} (h : admittedEvidence input = some ev) :
    let scene := sceneOf input ev (recordBinding input)
    ∃ authority, (detect input).1.hotspots =
        (confirmed scene).map (fun c ↦ { scene.hotspotOf c with authority }) ∧
      (detect input).1.candidates = ((hotspotsOf scene false scene.components).take
        Limits.kMaxHotspots).map (fun h ↦ { h with authority }) ∧
      (detect input).1.scope = if (detect input).1.hotspots = [] then .none
        else widest (detect input).1.hotspots := by
  obtain ⟨r, hdet, hcore⟩ := detect_localized h
  set r' := account r (tallyOf ev input.thresholds input.now) with hr'
  have hbinding : r'.binding = recordBinding input := congrArg (fun c ↦ c.2.2.2) hcore
  obtain ⟨authority, hh, hc, -, -⟩ := localize_spec input ev r'
  rw [hbinding, hotspotsOf_confirmed, List.map_map, ← hdet] at hh
  rw [hbinding, ← hdet] at hc
  refine ⟨authority, hh, hc, ?_⟩
  rw [hdet]
  exact localize_scope input ev r'

theorem not_persistent_of_candidate {scene : Scene} {h : Hotspot}
    (hh : h ∈ (hotspotsOf scene false scene.components).take Limits.kMaxHotspots) :
    h.persistent = false := by
  have hmem := List.mem_of_mem_take hh
  simpa using (List.mem_filter.mp hmem).2

/-- For every input, None means that nothing is confirmed, unless everything confirmed is a
component without a healthy neighbour to compare against: those have scope Unknown, which the
search for the widest scope passes over. -/
theorem unconfirmed_of_none_iff (input : DecisionInput) :
    ((detect input).1.scope = .none → Unconfirmed (detect input).1) ↔ ¬ OnlyIncomparable input := by
  have hcases := detect_cases input
  cases hadm : admittedEvidence input with
  | none =>
    rw [hadm] at hcases
    have hnot : ¬ OnlyIncomparable input := by
      rintro ⟨ev, hev, -⟩
      rw [hadm] at hev
      cases hev
    refine iff_of_true (fun _ ↦ ?_) hnot
    rcases hcases with ⟨r, reason, hd, hcore⟩ | ⟨⟨r, reason, hd, hcore⟩, -⟩ <;>
      · have hhot : r.hotspots = [] := congrArg Prod.fst hcore
        have hcand : r.candidates = [] := congrArg (fun c ↦ c.2.1) hcore
        rw [hd]
        exact ⟨hhot, by simp [reject, hcand]⟩
  | some ev =>
    obtain ⟨authority, hh, hc, hs⟩ := detect_reports hadm
    set scene := sceneOf input ev (recordBinding input) with hscene
    have honly : OnlyIncomparable input ↔
        confirmed scene ≠ [] ∧ ∀ c ∈ confirmed scene, Incomparable scene c := by
      constructor
      · rintro ⟨ev', hev', h⟩
        rw [hadm] at hev'
        obtain rfl := Option.some.inj hev'
        exact h
      · exact fun h ↦ ⟨ev, hadm, h⟩
    have hne : ∀ h ∈ (detect input).1.hotspots, h.scope ≠ .none := by
      rw [hh, List.forall_mem_map]
      exact fun c _ ↦ classify_ne_none scene _ _ _
    have hunknown : (∀ h ∈ (detect input).1.hotspots, h.scope = .unknown) ↔
        ∀ c ∈ confirmed scene, Incomparable scene c := by
      rw [hh, List.forall_mem_map]
      exact forall₂_congr (fun c _ ↦ scope_hotspotOf_eq_unknown)
    have hempty : (detect input).1.hotspots = [] ↔ confirmed scene = [] := by
      rw [hh, List.map_eq_nil_iff]
    have hcand : ∀ h ∈ (detect input).1.candidates, h.persistent = false := by
      rw [hc, List.forall_mem_map]
      exact fun h hmem ↦ not_persistent_of_candidate (h := h) hmem
    rw [honly]
    constructor
    · rintro h ⟨hsome, hall⟩
      refine hsome (hempty.mp (h ?_).1)
      rw [hs, if_neg (fun he ↦ hsome (hempty.mp he))]
      exact (widest_eq_none hne).mpr (hunknown.mpr hall)
    · intro h hnone
      by_contra hconf
      have hsome : (detect input).1.hotspots ≠ [] := fun he ↦ hconf ⟨he, hcand⟩
      rw [hs, if_neg hsome] at hnone
      exact h ⟨fun he ↦ hsome (hempty.mpr he), hunknown.mp ((widest_eq_none hne).mp hnone)⟩

def twoIslands : Result TopologySnapshot :=
  let s := (default : TopologySnapshot).addRegion ⟨1⟩ [] ⟨0⟩
  ((s.addResource ⟨1⟩ ⟨1⟩ .switch []).addResource ⟨2⟩ ⟨1⟩ .switch []).build

def twoCapacities : Result CapacitySnapshot :=
  let s := { (default : CapacitySnapshot) with observedAt := 10000 }
  ((s.add { resource := ⟨1⟩, capacityUnits := 100 }).add { resource := ⟨2⟩, capacityUnits := 100 }).build

def islandSample (id utilizedUnits : UInt64) : ResourceSignals :=
  { resource := ⟨id⟩, utilizedUnits, confidencePpm := 1000000, quality := .healthy, observedAt := 10000 }

def twoSamples : Result SignalSnapshot :=
  (((default : SignalSnapshot).add (islandSample 1 95)).add (islandSample 2 10)).build

def islandInput : DecisionInput :=
  { topology := twoIslands.toOption, capacity := twoCapacities.toOption
    signals := twoSamples.toOption, now := 10000
    tracker := some (SaturationTracker.replace [(⟨1⟩, ⟨1000, 9000, 5⟩)]) }

theorem island_confirmed_under_none :
    (detect islandInput).1.scope = .none ∧ ¬ Unconfirmed (detect islandInput).1 := by
  refine ⟨by decide +kernel, fun h ↦ ?_⟩
  have hsome : (detect islandInput).1.hotspots.length ≠ 0 := by decide +kernel
  exact hsome (List.length_eq_zero_iff.mpr h.1)

end HotspotGovernor.Verdicts
