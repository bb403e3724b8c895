import HotspotGovernor.Reporting
import Mathlib.Data.List.TakeWhile

namespace HotspotGovernor.Persistence

open Foundation Lib Topology TopologyIndex Evidence Detection Sampling Hotspots Detect
open Admissibility Components Reporting SortedList

theorem find_replace {next : List (ResourceId × Entry)} (h : (next.map Prod.fst).Nodup)
    {id : ResourceId} {entry : Entry} :
    (SaturationTracker.replace next).find id = some entry ↔ (id, entry) ∈ next := by
  have hstrict : Strict Prod.fst (sortBy Prod.fst next) := sortBy_strict h
  have hentries : (SaturationTracker.replace next).entries = sortBy Prod.fst next :=
    hstrict.unique_eq_self
  rw [SaturationTracker.find, hentries, Option.map_eq_some_iff]
  constructor
  · intro h
    obtain ⟨⟨id', entry'⟩, hfind, rfl⟩ := h
    obtain ⟨hmem, rfl⟩ := hstrict.find_eq_some_iff.mp hfind
    exact mem_sortBy.mp hmem
  · intro hmem
    exact ⟨(id, entry), hstrict.find_eq_some_iff.mpr ⟨mem_sortBy.mpr hmem, rfl⟩, rfl⟩

theorem history_eq (scene : Scene) : scene.components.flatMap scene.history =
    (componentIds scene).flatten.map (fun id ↦ (id, scene.entryState id)) := by
  have hmap : ∀ c, (c.map scene.resourceId).map (fun id ↦ (id, scene.entryState id)) = scene.history c :=
    fun c ↦ List.map_map
  rw [componentIds, List.map_flatten, List.map_map, List.flatMap_def]
  exact congrArg List.flatten (List.map_congr_left (fun c _ ↦ (hmap c).symm))

section OneCall

variable {input : DecisionInput} {ev : BoundEvidence}

theorem history_length_le (hbuilt : ev.topology.built = true) (binding : EvidenceBinding) :
    ((sceneOf input ev binding).components.flatMap (sceneOf input ev binding).history).length ≤
      Limits.kMaxHistoryResources := by
  have hlen : ((sceneOf input ev binding).components.flatMap (sceneOf input ev binding).history).length =
      (sceneOf input ev binding).components.flatten.length := by
    rw [history_eq, List.length_map, componentIds, ← List.map_flatten, List.length_map]
  have hcount : (tallyOf ev input.thresholds input.now).saturatedCount ≤ ev.topology.resources.length := by
    rw [tallyOf, tally_saturatedCount]
    refine (Nat.zero_add _).le.trans (List.countP_le_length.trans ?_)
    simp [observations]
  rw [hlen, length_components hbuilt]
  exact hcount.trans (built_validated hbuilt).resourceCount

theorem detect_tracker_of_admitted (h : admittedEvidence input = some ev) :
    (detect input).2 = input.tracker.map (fun _ ↦ SaturationTracker.replace
      ((componentIds (sceneOf input ev (recordBinding input))).flatten.map
        (fun id ↦ (id, (sceneOf input ev (recordBinding input)).entryState id)))) := by
  obtain ⟨r, hdet, hcore⟩ := detect_localized h
  have hbinding : (account r (tallyOf ev input.thresholds input.now)).binding = recordBinding input :=
    congrArg (fun c ↦ c.2.2.2) hcore
  obtain ⟨_, -, -, -, htracker⟩ :=
    localize_spec input ev (account r (tallyOf ev input.thresholds input.now))
  rw [hdet, htracker, hbinding,
    List.take_of_length_le (history_length_le (gates_of_admitted h).built (recordBinding input)), history_eq]

theorem detect_tracker_of_rejected (h : admittedEvidence input = none) :
    (detect input).2 = input.tracker.map (fun _ ↦ SaturationTracker.replace []) := by
  have hcases := detect_cases input
  rw [h] at hcases
  rcases hcases with ⟨r, reason, hd, -⟩ | ⟨⟨r, reason, hd, -⟩, -⟩
  · rw [hd]; rfl
  · rw [hd]; rfl

end OneCall

/-- The resource was admissible and saturated in this call, and the call was not rejected. -/
def SaturatedIn (input : DecisionInput) (id : ResourceId) : Prop :=
  ∃ ev, admittedEvidence input = some ev ∧ AdmissiblySaturated ev input.thresholds input.now id

def withTracker (input : DecisionInput) (tracker : SaturationTracker) : DecisionInput :=
  { input with tracker := some tracker }

def trackerAfter (calls : List DecisionInput) : SaturationTracker :=
  calls.foldl (fun tracker input ↦ (detect (withTracker input tracker)).2.getD tracker) default

theorem admitted_withTracker (input : DecisionInput) (tracker : SaturationTracker) :
    admittedEvidence (withTracker input tracker) = admittedEvidence input := rfl

theorem find_after_call {tracker : SaturationTracker} {input : DecisionInput} {id : ResourceId}
    {entry : Entry} :
    ((detect (withTracker input tracker)).2.getD tracker).find id = some entry ↔
      SaturatedIn input id ∧ entry = nextEntry (some tracker) input.now id := by
  cases hadm : admittedEvidence input with
  | none =>
    rw [detect_tracker_of_rejected ((admitted_withTracker input tracker).trans hadm)]
    have hempty : ((Option.map (fun _ ↦ SaturationTracker.replace [])
        (withTracker input tracker).tracker).getD tracker).find id = none := rfl
    simp [hempty, SaturatedIn, hadm]
  | some ev =>
    have hadm' := (admitted_withTracker input tracker).trans hadm
    have hbuilt := (gates_of_admitted hadm).built
    have hnodup : (componentIds (sceneOf (withTracker input tracker) ev
        (recordBinding (withTracker input tracker)))).flatten.Nodup := componentIds_nodup hbuilt
    have hmem : id ∈ (componentIds (sceneOf (withTracker input tracker) ev
        (recordBinding (withTracker input tracker)))).flatten ↔ SaturatedIn input id := by
      rw [List.mem_flatten, mem_componentIds hbuilt]
      constructor
      · exact fun hsat ↦ ⟨ev, hadm, hsat⟩
      · intro h
        obtain ⟨ev', hev', hsat⟩ := h
        obtain rfl : ev = ev' := Option.some.inj (hadm.symm.trans hev')
        exact hsat
    rw [detect_tracker_of_admitted hadm', ← hmem]
    change (SaturationTracker.replace _).find id = some entry ↔ _
    rw [find_replace (by simpa [List.map_map, Function.comp_def] using hnodup), List.mem_map]
    constructor
    · intro h
      obtain ⟨id', hid, he⟩ := h
      obtain ⟨rfl, rfl⟩ := Prod.mk.inj he
      exact ⟨hid, rfl⟩
    · intro h
      obtain ⟨hid, rfl⟩ := h
      exact ⟨id, hid, rfl⟩

open Classical in
/-- The maximal run of consecutive calls, newest first, that ends with the last one and in each of
which the resource was saturated. -/
noncomputable def streak (id : ResourceId) (calls : List DecisionInput) : List DecisionInput :=
  calls.reverse.takeWhile (fun call ↦ SaturatedIn call id)

theorem streak_concat_of_saturated {id : ResourceId} {call : DecisionInput} (h : SaturatedIn call id)
    (calls : List DecisionInput) : streak id (calls ++ [call]) = call :: streak id calls := by
  simp [streak, h]

theorem streak_concat_of_not {id : ResourceId} {call : DecisionInput} (h : ¬ SaturatedIn call id)
    (calls : List DecisionInput) : streak id (calls ++ [call]) = [] := by
  simp [streak, h]

theorem saturatedIn_of_mem_streak {id : ResourceId} {calls : List DecisionInput} {call : DecisionInput}
    (h : call ∈ streak id calls) : SaturatedIn call id := by
  simpa using List.mem_takeWhile_imp h

theorem SaturatedIn.now_ne {id : ResourceId} {call : DecisionInput} (h : SaturatedIn call id) :
    call.now ≠ kNoTime := by
  obtain ⟨ev, hev, -⟩ := h
  exact (gates_of_admitted hev).now_ne

def streakEntry : List DecisionInput → Option Entry
  | [] => none
  | call :: calls => some ⟨((call :: calls).getLast (List.cons_ne_nil _ _)).now, call.now,
      UInt32.ofNat (min (calls.length + 1) (2 ^ 32 - 1))⟩

theorem samples_succ {n : ℕ} (hn : 1 ≤ n) :
    UInt32.ofNat (min n (2 ^ 32 - 1)) ≠ 0 ∧
      (if UInt32.ofNat (min n (2 ^ 32 - 1)) = kUInt32Max then kUInt32Max
        else UInt32.ofNat (min n (2 ^ 32 - 1)) + 1) = UInt32.ofNat (min (n + 1) (2 ^ 32 - 1)) := by
  have hmax : kUInt32Max.toNat = 2 ^ 32 - 1 := rfl
  have hs : (UInt32.ofNat (min n (2 ^ 32 - 1))).toNat = min n (2 ^ 32 - 1) := by
    rw [UInt32.toNat_ofNat']
    omega
  constructor
  · intro h0
    have h := congrArg UInt32.toNat h0
    rw [hs, UInt32.toNat_zero] at h
    omega
  · apply UInt32.toNat_inj.mp
    rw [UInt32.toNat_ofNat']
    by_cases he : UInt32.ofNat (min n (2 ^ 32 - 1)) = kUInt32Max
    · have h := congrArg UInt32.toNat he
      rw [hs, hmax] at h
      rw [if_pos he, hmax]
      omega
    · have h : min n (2 ^ 32 - 1) ≠ 2 ^ 32 - 1 :=
        fun h ↦ he (UInt32.toNat_inj.mp (by rw [hs, h, hmax]))
      rw [if_neg he, UInt32.toNat_add, hs, UInt32.toNat_one]
      omega

theorem nextEntry_of_carry {tracker : SaturationTracker} {id : ResourceId} {entry : Entry}
    (h : tracker.carry id = entry) (hs : entry.samples ≠ 0) (now : Millis) :
    nextEntry (some tracker) now id = ⟨entry.firstSaturated, now,
      if entry.samples = kUInt32Max then kUInt32Max else entry.samples + 1⟩ := by
  subst h
  exact if_neg hs

theorem nextEntry_of_streak {tracker : SaturationTracker} {id : ResourceId} {calls : List DecisionInput}
    (hsat : ∀ call ∈ calls, call.now ≠ kNoTime) (h : tracker.find id = streakEntry calls)
    (call : DecisionInput) :
    some (nextEntry (some tracker) call.now id) = streakEntry (call :: calls) := by
  cases calls with
  | nil =>
    have hcarry : tracker.carry id = {} := by
      unfold SaturationTracker.carry
      rw [h]
      rfl
    unfold nextEntry
    dsimp only
    rw [hcarry]
    rfl
  | cons c calls =>
    obtain ⟨h0, hsucc⟩ := samples_succ (Nat.succ_le_succ (Nat.zero_le calls.length))
    have hcarry : tracker.carry id = ⟨((c :: calls).getLast (List.cons_ne_nil _ _)).now, c.now,
        UInt32.ofNat (min (calls.length + 1) (2 ^ 32 - 1))⟩ := by
      unfold SaturationTracker.carry
      rw [h]
      exact if_neg (hsat c List.mem_cons_self)
    rw [nextEntry_of_carry hcarry h0, streakEntry, List.getLast_cons_cons, List.length_cons, ← hsucc]

theorem find_trackerAfter (calls : List DecisionInput) (id : ResourceId) :
    (trackerAfter calls).find id = streakEntry (streak id calls) := by
  induction calls using List.reverseRecOn with
  | nil => rfl
  | append_singleton calls call ih =>
    have hrun : trackerAfter (calls ++ [call]) =
        (detect (withTracker call (trackerAfter calls))).2.getD (trackerAfter calls) := by
      simp [trackerAfter]
    rw [hrun]
    by_cases hsat : SaturatedIn call id
    · rw [streak_concat_of_saturated hsat, ← nextEntry_of_streak
        (fun c hc ↦ (saturatedIn_of_mem_streak hc).now_ne) ih call]
      exact find_after_call.mpr ⟨hsat, rfl⟩
    · rw [streak_concat_of_not hsat]
      cases hfind : ((detect (withTracker call (trackerAfter calls))).2.getD (trackerAfter calls)).find id
        with
      | none => rfl
      | some entry => exact absurd (find_after_call.mp hfind).1 hsat

theorem foldl_spanStep_ne_none {entries : List Entry} {entry : Entry} (h : entry ∈ entries) :
    entries.foldl Scene.spanStep none ≠ none := by
  induction entries using List.reverseRecOn with
  | nil => cases h
  | append_singleton entries last _ =>
    rw [List.foldl_append, List.foldl_cons, List.foldl_nil]
    unfold Scene.spanStep
    split <;> simp

theorem foldl_spanStep_le {entries : List Entry} {entry : Entry} (h : entry ∈ entries) :
    entry.firstSaturated ≤ ((entries.foldl Scene.spanStep none).getD (kNoTime, 0)).1 ∧
      ((entries.foldl Scene.spanStep none).getD (kNoTime, 0)).2 ≤ entry.samples := by
  induction entries using List.reverseRecOn with
  | nil => cases h
  | append_singleton entries last ih =>
    rw [List.foldl_append, List.foldl_cons, List.foldl_nil]
    cases hf : entries.foldl Scene.spanStep none with
    | none =>
      have hnil : entry = last := by
        rcases List.mem_append.mp h with hm | hm
        · exact absurd hf (foldl_spanStep_ne_none hm)
        · exact List.mem_singleton.mp hm
      subst hnil
      exact ⟨Int64.le_refl _, UInt32.le_refl _⟩
    | some span =>
      rw [hf] at ih
      simp only [Scene.spanStep, Option.getD_some] at ih ⊢
      rcases List.mem_append.mp h with hm | hm
      · obtain ⟨h₁, h₂⟩ := ih hm
        constructor
        · split <;> grind
        · split <;> grind
      · obtain rfl := List.mem_singleton.mp hm
        constructor
        · split <;> grind
        · split <;> grind

theorem span_le {scene : Scene} {component : List ℕ} {i : ℕ} (hi : i ∈ component) :
    (scene.entryState (scene.resourceId i)).firstSaturated ≤ (scene.span component).1 ∧
      (scene.span component).2 ≤ (scene.entryState (scene.resourceId i)).samples := by
  refine foldl_spanStep_le ?_
  simp only [Scene.history, List.map_map, List.mem_map]
  exact ⟨i, hi, rfl⟩

theorem reported_component {input : DecisionInput} {h : Hotspot}
    (hh : h ∈ (detect input).1.hotspots ++ (detect input).1.candidates) :
    ∃ ev, admittedEvidence input = some ev ∧ ∃ component ∈
      (sceneOf input ev (recordBinding input)).components,
        ∃ authority, h = { (sceneOf input ev (recordBinding input)).hotspotOf component with authority } := by
  have hcases := detect_cases input
  cases hadm : admittedEvidence input with
  | none =>
    rw [hadm] at hcases
    rcases hcases with ⟨r, reason, hd, hcore⟩ | ⟨⟨r, reason, hd, hcore⟩, -⟩ <;>
      · have h₁ : r.hotspots = [] := congrArg Prod.fst hcore
        have h₂ : r.candidates = [] := congrArg (fun c ↦ c.2.1) hcore
        simp [hd, reject, h₁, h₂] at hh
  | some ev =>
    obtain ⟨r, hdet, hcore⟩ := detect_localized hadm
    have hbinding : (account r (tallyOf ev input.thresholds input.now)).binding = recordBinding input :=
      congrArg (fun c ↦ c.2.2.2) hcore
    obtain ⟨authority, hhot, hcand, -, -⟩ :=
      localize_spec input ev (account r (tallyOf ev input.thresholds input.now))
    rw [hbinding] at hhot hcand
    rw [hdet, hhot, hcand, ← List.map_append] at hh
    obtain ⟨h', hmem, rfl⟩ := List.mem_map.mp hh
    refine ⟨ev, rfl, ?_⟩
    rcases List.mem_append.mp hmem with hm | hm <;>
      · obtain ⟨component, hc, rfl⟩ := List.mem_map.mp (List.mem_filter.mp (List.mem_of_mem_take hm)).1
        exact ⟨component, hc, authority, rfl⟩

/-- A resource of a saturated component, in the last call of a sequence: its entry is its streak. -/
theorem entryState_eq_streak {calls : List DecisionInput} {call : DecisionInput} {id : ResourceId}
    (hsat : SaturatedIn call id) (ev : BoundEvidence) (binding : EvidenceBinding) :
    some ((sceneOf (withTracker call (trackerAfter calls)) ev binding).entryState id) =
      streakEntry (streak id (calls ++ [call])) := by
  rw [streak_concat_of_saturated hsat]
  exact nextEntry_of_streak (fun c hc ↦ (saturatedIn_of_mem_streak hc).now_ne)
    (find_trackerAfter calls id) call

theorem streak_isPrefix (id : ResourceId) (calls : List DecisionInput) :
    streak id calls <+: calls.reverse := List.takeWhile_prefix _

theorem saturated_in_last {id : ResourceId} {calls : List DecisionInput} {k : ℕ}
    (h : k ≤ (streak id calls).length) :
    k ≤ calls.length ∧ ∀ c ∈ calls.reverse.take k, SaturatedIn c id := by
  have hpre := streak_isPrefix id calls
  constructor
  · have := hpre.length_le
    rw [List.length_reverse] at this
    omega
  · intro c hc
    have hle : (calls.reverse.take k).length ≤ (streak id calls).length :=
      (List.length_take_le _ _).trans h
    have hsub := List.prefix_of_prefix_length_le (List.take_prefix _ _) hpre hle
    exact saturatedIn_of_mem_streak (hsub.subset hc)

theorem streak_of_persistent {calls : List DecisionInput} {call : DecisionInput} {ev : BoundEvidence}
    {binding : EvidenceBinding} {component : List ℕ} {i : ℕ}
    (hsat : SaturatedIn call
      ((sceneOf (withTracker call (trackerAfter calls)) ev binding).resourceId i))
    (hi : i ∈ component)
    (hp : ((sceneOf (withTracker call (trackerAfter calls)) ev binding).hotspotOf component).persistent =
      true) :
    let id := (sceneOf (withTracker call (trackerAfter calls)) ev binding).resourceId i
    call.thresholds.minPersistenceSamples.toNat ≤ (streak id (calls ++ [call])).length ∧
      ∃ first, (streak id (calls ++ [call])).getLast? = some first ∧
        millis call.thresholds.persistenceWindowMs ≤ elapsedMs first.now call.now := by
  intro id
  obtain ⟨hstart, hcount⟩ := @span_le (sceneOf (withTracker call (trackerAfter calls)) ev binding) _ i hi
  have hentry : some _ = streakEntry (streak id (calls ++ [call])) := entryState_eq_streak hsat ev binding
  have hmem : ∀ c ∈ streak id (calls ++ [call]), c.now ≠ kNoTime :=
    fun c hc ↦ (saturatedIn_of_mem_streak hc).now_ne
  have hfloor : call.thresholds.minPersistenceSamples ≤
        ((sceneOf (withTracker call (trackerAfter calls)) ev binding).span component).2 ∧
      millis call.thresholds.persistenceWindowMs ≤ elapsedMs
        ((sceneOf (withTracker call (trackerAfter calls)) ev binding).span component).1 call.now := by
    simp only [Scene.hotspotOf, Scene.persistentOf, Bool.and_eq_true, decide_eq_true_eq, ge_iff_le] at hp
    exact ⟨hp.1.2, hp.2⟩
  cases hs : streak id (calls ++ [call]) with
  | nil =>
    rw [hs] at hentry
    cases hentry
  | cons c cs =>
    rw [hs] at hentry hmem
    obtain hentry := Option.some.inj hentry
    rw [hentry] at hstart hcount
    refine ⟨?_, _, List.getLast?_eq_some_getLast (List.cons_ne_nil _ _), ?_⟩
    · have h := UInt32.le_iff_toNat_le.mp (UInt32.le_trans hfloor.1 hcount)
      rw [UInt32.toNat_ofNat'] at h
      rw [List.length_cons]
      omega
    · exact Int64.le_trans hfloor.2
        (elapsedMs_anti call.now (hmem _ (List.getLast_mem _)) hstart)

/-- For every sequence of detection calls over one tracker that starts empty, after each call: the
tracker has an entry for a resource exactly when the call was not rejected and the resource was
admissible and saturated in it; the entry counts the streak that ends with this call and starts
when it started; and a persistent hotspot is one whose every resource has a long enough streak. -/
theorem tracker_measures_continuous_saturation (calls : List DecisionInput) (call : DecisionInput) :
    (∀ id, ((trackerAfter (calls ++ [call])).find id).isSome = true ↔ SaturatedIn call id) ∧
    (∀ id entry, (trackerAfter (calls ++ [call])).find id = some entry →
      entry.samples.toNat = min (streak id (calls ++ [call])).length (2 ^ 32 - 1) ∧
      ∃ first, (streak id (calls ++ [call])).getLast? = some first ∧ entry.firstSaturated = first.now) ∧
    let input := withTracker call (trackerAfter calls)
    ∀ h ∈ (detect input).1.hotspots ++ (detect input).1.candidates, h.persistent = true →
      ∃ ev, admittedEvidence call = some ev ∧
        ∃ c ∈ componentIds (sceneOf input ev (recordBinding input)),
          h.saturatedCount = c.length ∧ h.saturatedResources = c.take Limits.kMaxHotspotResources ∧
          ∀ id ∈ c, call.thresholds.minPersistenceSamples.toNat ≤ (calls ++ [call]).length ∧
            (∀ past ∈ (calls ++ [call]).reverse.take call.thresholds.minPersistenceSamples.toNat,
              SaturatedIn past id) ∧
            ∃ first, (streak id (calls ++ [call])).getLast? = some first ∧
              millis call.thresholds.persistenceWindowMs ≤ elapsedMs first.now call.now := by
  refine ⟨?_, ?_, ?_⟩
  · intro id
    rw [find_trackerAfter]
    by_cases hsat : SaturatedIn call id
    · simp [streak_concat_of_saturated hsat, streakEntry, hsat]
    · simp [streak_concat_of_not hsat, streakEntry, hsat]
  · intro id entry hentry
    rw [find_trackerAfter] at hentry
    cases hs : streak id (calls ++ [call]) with
    | nil =>
      rw [hs] at hentry
      cases hentry
    | cons c cs =>
      rw [hs] at hentry
      obtain rfl := Option.some.inj hentry
      refine ⟨?_, _, List.getLast?_eq_some_getLast (List.cons_ne_nil _ _), rfl⟩
      rw [UInt32.toNat_ofNat', List.length_cons]
      omega
  · intro input h hh hp
    obtain ⟨ev, hadm, component, hc, authority, rfl⟩ := reported_component hh
    have hadm' : admittedEvidence call = some ev := hadm
    refine ⟨ev, hadm', component.map (sceneOf input ev (recordBinding input)).resourceId,
      List.mem_map_of_mem hc, ?_, ?_, ?_⟩
    · exact (List.length_map _).symm
    · exact List.map_take
    · intro id hid
      obtain ⟨i, hi, rfl⟩ := List.mem_map.mp hid
      have hmem : AdmissiblySaturated ev input.thresholds input.now
          ((sceneOf input ev (recordBinding input)).resourceId i) :=
        (mem_componentIds (gates_of_admitted hadm).built).mp
          ⟨_, List.mem_map_of_mem hc, List.mem_map_of_mem hi⟩
      have hsat : SaturatedIn call ((sceneOf input ev (recordBinding input)).resourceId i) :=
        ⟨ev, hadm', hmem⟩
      obtain ⟨hsamples, first, hfirst, hwindow⟩ := streak_of_persistent hsat hi hp
      obtain ⟨hlen, hpast⟩ := saturated_in_last hsamples
      exact ⟨hlen, hpast, first, hfirst, hwindow⟩

end HotspotGovernor.Persistence
