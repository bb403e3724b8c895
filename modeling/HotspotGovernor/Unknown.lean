import HotspotGovernor.Admissibility
import HotspotGovernor.Decisions

namespace HotspotGovernor.Unknown

open Foundation Lib Topology TopologyIndex Evidence Detection Sampling Detect Admissibility
open Intervention Decisions SortedList

section

variable (input : DecisionInput) (topology : TopologySnapshot) (capacity : CapacitySnapshot)
  (signals : SignalSnapshot)

/-- Topology, capacity and signals are there, fresh, and bound to each other's generations. -/
structure Supplied : Prop where
  topologySupplied : input.topology = some topology
  topologyBuilt : topology.built = true
  topologyFresh : topology.freshAt input.now = true
  capacitySupplied : input.capacity = some capacity
  capacityBuilt : capacity.built = true
  capacityBound : capacity.topologyGeneration = topology.generation
  capacityFresh : ageMs capacity.observedAt input.now ≤ millis input.thresholds.maxCapacityAgeMs
  signalsSupplied : input.signals = some signals
  signalsBuilt : signals.built = true
  signalsBound : signals.topologyGeneration = topology.generation
  signalsBoundCapacity : signals.capacityGeneration = capacity.generation

def Defines (id : ResourceId) : Prop := ∃ r ∈ topology.resources, r.id = id

/-- Every resource the evidence names is one the topology defines. -/
structure Referenced : Prop where
  byCapacity : ∀ entry ∈ capacity.entries, Defines topology entry.resource
  bySignals : ∀ record ∈ signals.records, Defines topology record.resource
  byPaths : ∀ paths, input.paths = some paths → paths.built = true →
    paths.topologyGeneration = topology.generation →
    ageMs paths.observedAt input.now ≤ millis input.thresholds.maxPathAgeMs →
    ∀ path ∈ paths.paths, ∀ hop ∈ path.hops, Defines topology hop

def sampled : Tally := tallyOf ⟨topology, capacity, signals, none, none⟩ input.thresholds input.now

/-- Some capacity is usable, and enough of the fabric is covered. -/
structure Covered : Prop where
  usable : ∃ r ∈ topology.resources, ∃ entry, capacity.find r.id = some entry ∧
    entry.usable = true ∧ entry.capacityUnits ≠ 0
  capacityFloor : input.thresholds.minCoveragePpm ≤
    (sampled input topology capacity signals).capacityCoveragePpm topology.resources.length
  admissibleFloor : input.thresholds.minCoveragePpm ≤
    (sampled input topology capacity signals).admissibleCoveragePpm

end

def Evidenced (input : DecisionInput) : Prop :=
  ∃ topology capacity signals, Supplied input topology capacity signals ∧
    (topology.resources ≠ [] →
      (input.referencesPreverified = false → Referenced input topology capacity signals) ∧
      Covered input topology capacity signals)

theorem mem_of_referencesResolve {resources : List Resource} {names : List ResourceId}
    (h : referencesResolve resources names = true) {name : ResourceId} (hn : name ∈ names) :
    ∃ r ∈ resources, r.id = name := by
  induction names generalizing resources with
  | nil => cases hn
  | cons first names ih =>
    have hsub : ∀ r ∈ resources.dropWhile (fun r ↦ r.id < first), r ∈ resources :=
      fun r hr ↦ (List.dropWhile_sublist _).subset hr
    unfold referencesResolve at h
    cases hd : resources.dropWhile (fun r ↦ r.id < first) with
    | nil =>
      rw [hd] at h
      cases h
    | cons r rest =>
      rw [hd] at h hsub
      rw [Bool.and_eq_true, decide_eq_true_eq] at h
      rcases List.mem_cons.mp hn with rfl | hn
      · exact ⟨r, hsub r List.mem_cons_self, h.1⟩
      · obtain ⟨r', hr', he⟩ := ih h.2 hn
        exact ⟨r', hsub r' hr', he⟩

theorem mem_dropWhile_of_le {resources : List Resource} {name : ResourceId} {r : Resource}
    (hr : r ∈ resources) (hle : name ≤ r.id) : r ∈ resources.dropWhile (fun r ↦ r.id < name) := by
  rw [← List.takeWhile_append_dropWhile (p := fun r ↦ r.id < name) (l := resources), List.mem_append] at hr
  refine hr.resolve_left (fun hpassed ↦ ?_)
  have hbelow : decide (r.id < name) = true := List.all_eq_true.mp List.all_takeWhile r hpassed
  exact absurd (of_decide_eq_true hbelow) (not_lt.mpr hle)

theorem referencesResolve_of_mem {resources : List Resource} {names : List ResourceId}
    (hresources : Strict Resource.id resources) (hnames : Strict id names)
    (hall : ∀ name ∈ names, ∃ r ∈ resources, r.id = name) : referencesResolve resources names = true := by
  induction names generalizing resources with
  | nil => rfl
  | cons first names ih =>
    obtain ⟨hfirst, hrest⟩ := List.pairwise_cons.mp hnames
    have hdropped : Strict Resource.id (resources.dropWhile (fun r ↦ r.id < first)) :=
      List.Pairwise.sublist (List.dropWhile_sublist _) hresources
    obtain ⟨found, hfound, hid⟩ := hall first List.mem_cons_self
    have hreached := mem_dropWhile_of_le hfound hid.ge
    have hlater : ∀ name ∈ names, ∃ r ∈ resources.dropWhile (fun r ↦ r.id < first), r.id = name := by
      intro name hname
      obtain ⟨r, hr, rfl⟩ := hall name (List.mem_cons_of_mem _ hname)
      exact ⟨r, mem_dropWhile_of_le hr (hfirst _ hname).le, rfl⟩
    unfold referencesResolve
    cases hd : resources.dropWhile (fun r ↦ r.id < first) with
    | nil =>
      rw [hd] at hreached
      cases hreached
    | cons r rest =>
      rw [hd] at hreached hdropped hlater
      have hstop : first ≤ r.id := by
        have hne : resources.dropWhile (fun r ↦ r.id < first) ≠ [] := by simp [hd]
        have hhead := List.head_dropWhile_not (fun r : Resource ↦ decide (r.id < first)) hne
        simp only [hd, List.head_cons, decide_eq_false_iff_not, not_lt] at hhead
        exact hhead
      have hleast : r.id ≤ found.id := by
        rcases List.mem_cons.mp hreached with rfl | hin
        · exact le_rfl
        · exact ((List.pairwise_cons.mp hdropped).1 _ hin).le
      dsimp only
      rw [Bool.and_eq_true, decide_eq_true_eq]
      exact ⟨le_antisymm (hleast.trans_eq hid) hstop, ih hdropped hrest hlater⟩

theorem referencesResolve_iff {resources : List Resource} {names : List ResourceId}
    (hresources : Strict Resource.id resources) (hnames : Strict id names) :
    referencesResolve resources names = true ↔ ∀ name ∈ names, ∃ r ∈ resources, r.id = name :=
  ⟨fun h _ hname ↦ mem_of_referencesResolve h hname, referencesResolve_of_mem hresources hnames⟩

/-- For every built topology and every built snapshot: the merge accepts the snapshot exactly when the
topology defines each resource that the snapshot names. -/
theorem references_resolve_iff_defined {topology : TopologySnapshot} (ht : topology.built = true)
    (capacity : CapacitySnapshot) (signals : SignalSnapshot) :
    (capacity.built = true → (capacityResolves topology capacity = true ↔
      ∀ entry ∈ capacity.entries, Defines topology entry.resource)) ∧
    (signals.built = true → (signalsResolve topology signals = true ↔
      ∀ record ∈ signals.records, Defines topology record.resource)) := by
  have hresources : Strict Resource.id topology.resources := (built_validated ht).resourcesStrict
  constructor
  · intro hc
    have hnames : Strict id (capacity.entries.map ResourceCapacity.resource) :=
      List.pairwise_map.mpr (CapacitySnapshot.strict hc)
    rw [capacityResolves, referencesResolve_iff hresources hnames, List.forall_mem_map]
    rfl
  · intro hs
    have hnames : Strict id (signals.records.map ResourceSignals.resource) :=
      List.pairwise_map.mpr (SignalSnapshot.strict hs)
    rw [signalsResolve, referencesResolve_iff hresources hnames, List.forall_mem_map]
    rfl

def switchPair : TopologySnapshot :=
  let s := (default : TopologySnapshot).addRegion ⟨1⟩ [] ⟨0⟩
  let s := (s.addResource ⟨2⟩ ⟨1⟩ .switch []).addResource ⟨4⟩ ⟨1⟩ .switch []
  s.build.toOption.get (by decide +kernel)

/-- The second entry names a resource between the two switches. -/
def strayCapacity : CapacitySnapshot :=
  ((default : CapacitySnapshot).add { resource := ⟨4⟩, capacityUnits := 100 }
    |>.add { resource := ⟨3⟩, capacityUnits := 100 }).build.toOption.get (by decide +kernel)

theorem references_resolve_switchPair : ¬∀ entry ∈ strayCapacity.entries, Defines switchPair entry.resource := by
  have hiff := (references_resolve_iff_defined (show switchPair.built = true by decide +kernel) strayCapacity
    default).1 (by decide +kernel)
  rw [← hiff]
  decide +kernel

variable {input : DecisionInput} {ev : BoundEvidence}

theorem referenced_of_gates (h : Gates input ev) (hpre : input.referencesPreverified = false) :
    Referenced input ev.topology ev.capacity ev.signals := by
  have href := h.references
  unfold referenceRefusal at href
  rw [if_neg (by simp [hpre])] at href
  split at href
  · cases href
  · next hc =>
    split at href
    · cases href
    · next hs =>
      split at href
      · cases href
      · next hp =>
        rw [Bool.not_eq_true, Bool.not_eq_false'] at hc hs
        refine ⟨?_, ?_, ?_⟩
        · exact fun entry he ↦ mem_of_referencesResolve hc (List.mem_map_of_mem he)
        · exact fun record hr ↦ mem_of_referencesResolve hs (List.mem_map_of_mem hr)
        · intro paths hpaths hbuilt hbound hage path hpath hop hhop
          have hev : ev.paths = some paths := h.paths.symm.trans
            (pathsFinding_admitted.mpr ⟨hpaths, hbuilt, hbound, Int64.not_lt.mpr hage⟩)
          rw [hev] at hp
          have hall : pathsResolve ev.topology paths = true := by simpa using hp
          unfold pathsResolve at hall
          rw [List.all_eq_true] at hall
          exact (hasResource_iff h.built).mp (List.all_eq_true.mp (hall path hpath) hop hhop)

theorem fabricCapacity_of_unusable (t : Thresholds) {obs : List (Resource × Observation)}
    (h : ∀ o ∈ obs, o.2 = .unusable) (tally : Tally) :
    (obs.foldl (Tally.step t) tally).fabricCapacity = tally.fabricCapacity := by
  induction obs generalizing tally with
  | nil => rfl
  | cons o obs ih =>
    rw [List.foldl_cons, ih (fun o' ho' ↦ h o' (List.mem_cons_of_mem _ ho')), Tally.step,
      h o List.mem_cons_self]

theorem usable_of_fabricCapacity {t : Thresholds} {now : Millis}
    (h : (tallyOf ev t now).fabricCapacity ≠ 0) :
    ∃ r ∈ ev.topology.resources, ∃ entry, ev.capacity.find r.id = some entry ∧
      entry.usable = true ∧ entry.capacityUnits ≠ 0 := by
  by_contra hnone
  apply h
  refine fabricCapacity_of_unusable t ?_ {}
  intro o ho
  obtain ⟨r, hr, rfl⟩ := List.mem_map.mp ho
  unfold observe
  dsimp only
  cases hfind : ev.capacity.find r.id with
  | none => rfl
  | some entry =>
    dsimp only
    rw [if_pos]
    by_contra hgood
    rw [not_or, Bool.not_eq_true, Bool.not_eq_false'] at hgood
    exact hnone ⟨r, hr, entry, hfind, hgood⟩

theorem covered_of_gates (h : Gates input ev) : Covered input ev.topology ev.capacity ev.signals := by
  have hcov := h.coverage
  have hsampled : sampled input ev.topology ev.capacity ev.signals =
      tallyOf ev input.thresholds input.now := rfl
  unfold coverageRefusal at hcov
  split at hcov
  · cases hcov
  · next hfabric =>
    split at hcov
    · cases hcov
    · next hcap =>
      split at hcov
      · cases hcov
      · next hadm =>
        refine ⟨usable_of_fabricCapacity hfabric, ?_, ?_⟩
        · rw [hsampled]
          exact UInt32.not_lt.mp hcap
        · rw [hsampled]
          exact UInt32.not_lt.mp hadm

theorem supplied_of_findings (htop : input.topology.filter TopologySnapshot.built = some ev.topology)
    (hfresh : ev.topology.freshAt input.now = true)
    (hc : (capacityFinding input ev.topology).admitted = some ev.capacity)
    (hs : (signalsFinding input ev.topology (some ev.capacity)).admitted = some ev.signals) :
    Supplied input ev.topology ev.capacity ev.signals := by
  obtain ⟨ht, hbuilt⟩ := Option.filter_eq_some_iff.mp htop
  obtain ⟨hcap, hcapBuilt, hcapBound, hcapAge⟩ := capacityFinding_admitted.mp hc
  obtain ⟨c, he, hsig, hsigBuilt, hsigTop, hsigCap⟩ := signalsFinding_admitted.mp hs
  obtain rfl := Option.some.inj he
  exact ⟨ht, hbuilt, hfresh, hcap, hcapBuilt, hcapBound, Int64.not_lt.mp hcapAge, hsig, hsigBuilt, hsigTop,
    hsigCap⟩

theorem evidenced_of_admitted (h : admittedEvidence input = some ev) : Evidenced input := by
  have hg := gates_of_admitted h
  refine ⟨ev.topology, ev.capacity, ev.signals, ?_, fun _ ↦ ⟨referenced_of_gates hg, covered_of_gates hg⟩⟩
  exact supplied_of_findings (Option.filter_eq_some_iff.mpr ⟨hg.topology, hg.built⟩) hg.fresh hg.capacity
    hg.signals

theorem evidenced_of_empty (htop : input.topology.filter TopologySnapshot.built = some ev.topology)
    (hfresh : ev.topology.freshAt input.now = true)
    (hev : (findingsOf input ev.topology).evidence ev.topology = some ev)
    (hempty : ev.topology.resources = []) : Evidenced input := by
  obtain ⟨hc, hs, -⟩ := evidence_eq_some hev
  have hs' : (signalsFinding input ev.topology (some ev.capacity)).admitted = some ev.signals := by
    rw [← hc]
    exact hs
  exact ⟨ev.topology, ev.capacity, ev.signals, supplied_of_findings htop hfresh hc hs',
    fun hne ↦ absurd hempty hne⟩

theorem rejected_of_not_evidenced (h : ¬ Evidenced input) : Rejected input .unknown (detect input) := by
  have hcases := detect_cases input
  cases hadm : admittedEvidence input with
  | some ev => exact absurd (evidenced_of_admitted hadm) h
  | none =>
    rw [hadm] at hcases
    rcases hcases with hr | ⟨-, ev, htop, hfresh, hev, hempty⟩
    · exact hr
    · exact absurd (evidenced_of_empty htop hfresh hev hempty) h

/-- Whichever gate fails, the outcome is the same: scope Unknown, nothing reported, the saturation
series broken, and no mitigation. -/
theorem unknown_of_not_evidenced (input : DecisionInput) (h : ¬ Evidenced input) :
    (detect input).1.scope = .unknown ∧ (detect input).1.hotspots = [] ∧
      (detect input).1.candidates = [] ∧
      (detect input).2.isSome = input.tracker.isSome ∧
      (∀ tracker, (detect input).2 = some tracker → tracker.entries = []) ∧
      ∀ engine : Engine, (engine.decide input).1.plan.intents = [] := by
  obtain ⟨r, reason, hd, hcore⟩ := rejected_of_not_evidenced h
  have hhot : r.hotspots = [] := congrArg Prod.fst hcore
  have hcand : r.candidates = [] := congrArg (fun c ↦ c.2.1) hcore
  have hesc : r.escalationRequired = false := congrArg (fun c ↦ c.2.2.1) hcore
  refine ⟨?_, ?_, ?_, ?_, ?_, ?_⟩
  · rw [hd, reject]
  · rw [hd]
    exact hhot
  · rw [hd]
    exact hcand
  · rw [hd, reject]
    exact Option.isSome_map
  · intro tracker htracker
    rw [hd, reject] at htracker
    obtain ⟨_, -, rfl⟩ := Option.map_eq_some_iff.mp htracker
    rfl
  · intro engine
    refine planInterventions_intents_eq_nil ?_ ?_ _ _ _ _
    · rw [hd]
      exact hhot
    · rw [hd]
      exact hesc

def pairTopology : Result TopologySnapshot :=
  let s : TopologySnapshot := default
  let s := ((s.addRegion ⟨1⟩ [] ⟨0⟩).addResource ⟨1⟩ ⟨1⟩ .switch []).addResource
    ⟨2⟩ ⟨1⟩ .switch []
  (s.addLink ⟨1⟩ ⟨1⟩ ⟨2⟩).build

def pairCapacities : Result CapacitySnapshot :=
  let s := { (default : CapacitySnapshot) with observedAt := 9000 }
  ((s.add { resource := ⟨1⟩, capacityUnits := 100 }).add { resource := ⟨2⟩, capacityUnits := 100 }).build

def firstSample : Result SignalSnapshot :=
  ((default : SignalSnapshot).add { resource := ⟨1⟩, utilizedUnits := 95, confidencePpm := 1000000
                                    quality := .healthy, observedAt := 10000 }).build

/-- The first switch has been saturated for nine seconds; of the second one there is no sample. -/
def halfObservedInput : DecisionInput :=
  { topology := pairTopology.toOption, capacity := pairCapacities.toOption, signals := firstSample.toOption
    now := 10000
    tracker := some (SaturationTracker.replace [(⟨1⟩, ⟨1000, 9000, 5⟩)]) }

/-- All that is there is fresh and bound, and half of the fabric is not enough. -/
theorem unknown_of_halfObserved : ¬ Evidenced halfObservedInput ∧ (detect halfObservedInput).1.scope = .unknown ∧
    (detect halfObservedInput).2.map SaturationTracker.entries = some [] := by
  have h : ¬ Evidenced halfObservedInput := by
    rintro ⟨topology, capacity, signals, hs, hcovered⟩
    obtain rfl := Option.get_of_eq_some (by decide +kernel) hs.topologySupplied
    obtain rfl := Option.get_of_eq_some (by decide +kernel) hs.capacitySupplied
    obtain rfl := Option.get_of_eq_some (by decide +kernel) hs.signalsSupplied
    obtain ⟨-, hfloor⟩ := hcovered (by decide +kernel)
    have hmissed : ¬ halfObservedInput.thresholds.minCoveragePpm ≤ (sampled halfObservedInput
        (halfObservedInput.topology.get (by decide +kernel)) (halfObservedInput.capacity.get (by decide +kernel))
        (halfObservedInput.signals.get (by decide +kernel))).admissibleCoveragePpm := by
      decide +kernel
    exact hmissed hfloor.admissibleFloor
  obtain ⟨hscope, -, -, hsome, htracker, -⟩ := unknown_of_not_evidenced halfObservedInput h
  refine ⟨h, hscope, ?_⟩
  obtain ⟨tracker, hafter⟩ := Option.isSome_iff_exists.mp hsome
  rw [hafter, Option.map_some, htracker tracker hafter]

end HotspotGovernor.Unknown
