import HotspotGovernor.Demand

namespace HotspotGovernor.Rows

open Foundation Lib Topology TopologyIndex Evidence Detection Sampling Hotspots Detect
open Admissibility Components Coverage SortedList

-- Fabrics of any size, whose switches are numbered: evidence that runs into the bounds of detection
-- is too large to be evaluated, so it is built and admitted by proof.

/-- The identity at a position. Positions count from zero, and zero names nothing. -/
def numbered {tag : IdTag} (i : ℕ) : StrongId tag := ⟨UInt64.ofNat (i + 1)⟩

section Numbered

variable {tag : IdTag} {α κ : Type}

theorem toNat_numbered {i : ℕ} (hi : i < 2 ^ 32) : (numbered i : StrongId tag).value.toNat = i + 1 := by
  rw [numbered, UInt64.toNat_ofNat']
  omega

theorem numbered_valid {i : ℕ} (hi : i < 2 ^ 32) : (numbered i : StrongId tag).valid = true := by
  have h : (numbered i : StrongId tag).value.toNat = i + 1 := toNat_numbered hi
  rw [StrongId.valid, bne_iff_ne]
  intro hzero
  rw [hzero, UInt64.toNat_zero] at h
  omega

theorem numbered_lt {i j : ℕ} (hij : i < j) (hj : j < 2 ^ 32) :
    (numbered i : StrongId tag) < numbered j := by
  rw [StrongId.lt_iff, toNat_numbered (hij.trans hj), toNat_numbered hj]
  omega

theorem strict_range [LinearOrder κ] {key : α → κ} {f : ℕ → α} {n : ℕ}
    (h : ∀ i j, i < j → j < n → key (f i) < key (f j)) : Strict key ((List.range n).map f) := by
  apply List.pairwise_map.mpr
  refine List.Pairwise.imp_of_mem ?_ List.pairwise_lt_range
  intro i j _ hj hij
  exact h i j hij (List.mem_range.mp hj)

theorem checkAll_of_strict [LinearOrder κ] {key : α → κ} {check : Option α → α → Status} {xs : List α}
    (hs : Strict key xs) {prev : Option α} (hprev : ∀ p ∈ prev, ∀ x ∈ xs, key p < key x)
    (hcheck : ∀ x ∈ xs, ∀ prev, (∀ p ∈ prev, key p < key x) → check prev x = .ok ()) :
    checkAll check prev xs = .ok () := by
  induction xs generalizing prev with
  | nil => rfl
  | cons x xs ih =>
    obtain ⟨hx, hs⟩ := List.pairwise_cons.mp hs
    refine checkAll_cons.mpr ⟨hcheck x List.mem_cons_self prev (fun p hp ↦ hprev p hp x List.mem_cons_self), ?_⟩
    apply ih hs
    · intro p hp y hy
      obtain rfl := Option.mem_some_iff.mp hp
      exact hx y hy
    · exact fun y hy ↦ hcheck y (List.mem_cons_of_mem _ hy)

theorem sortChecked_of_strict [LinearOrder κ] {key : α → κ} {limit : ℕ} {overflow : String}
    {check : Option α → α → Status} {xs : List α} (hs : Strict key xs) (hlen : xs.length ≤ limit)
    (hcheck : ∀ x ∈ xs, ∀ prev, (∀ p ∈ prev, key p < key x) → check prev x = .ok ()) :
    sortChecked key limit overflow check xs = .ok xs := by
  have hsorted : sortBy key xs = xs := sortBy_eq_self (hs.imp le_of_lt)
  have hall : checkAll check none xs = .ok () :=
    checkAll_of_strict hs (fun p hp ↦ absurd hp (by simp)) hcheck
  simp only [sortChecked, if_neg (not_lt.mpr hlen), hsorted, hall]
  rfl

end Numbered

def switches (n : ℕ) (region : ℕ → RegionId) : List Resource :=
  (List.range n).map (fun i ↦ ⟨numbered i, region i, .switch, []⟩)

def chain (m : ℕ) : List Link :=
  (List.range m).map (fun i ↦ ⟨numbered i, numbered i, numbered (i + 1)⟩)

def twoRegions : List Region := [⟨⟨1⟩, [], ⟨0⟩⟩, ⟨⟨2⟩, [], ⟨0⟩⟩]

section Tables

variable {n m : ℕ} {region : ℕ → RegionId}

theorem switches_strict (hn : n ≤ Limits.kMaxResources) : Strict Resource.id (switches n region) := by
  apply strict_range
  intro i j hij hj
  have hmax : Limits.kMaxResources = 2 ^ 20 := rfl
  exact numbered_lt hij (by omega)

theorem getElem?_switches {i : ℕ} (hi : i < n) :
    (switches n region)[i]? = some ⟨numbered i, region i, .switch, []⟩ := by
  simp [switches, hi]

theorem findResource_switches (hn : n ≤ Limits.kMaxResources) {i : ℕ} (hi : i < n) :
    findResource (switches n region) (numbered i) = some ⟨numbered i, region i, .switch, []⟩ := by
  have hmax : Limits.kMaxResources = 2 ^ 20 := rfl
  rw [findResource, if_pos (numbered_valid (by omega))]
  exact (switches_strict hn).find_eq_some (List.mem_of_getElem? (getElem?_switches hi))

theorem checkResource_switches (hn : n ≤ Limits.kMaxResources)
    (hregion : ∀ i < n, region i = ⟨1⟩ ∨ region i = ⟨2⟩) :
    checkAll (checkResource twoRegions) none (switches n region) = .ok () := by
  have hmax : Limits.kMaxResources = 2 ^ 20 := rfl
  apply checkAll_of_strict (switches_strict hn)
  · exact fun p hp ↦ absurd hp (by simp)
  · intro r hr prev hprev
    obtain ⟨i, hi, rfl⟩ := List.mem_map.mp hr
    have hi' := List.mem_range.mp hi
    have hvalid : (numbered i : ResourceId).valid = true := numbered_valid (by omega)
    have hfresh : prev.any (fun p ↦ numbered i = p.id) = false := by
      rw [Option.any_eq_false]
      intro p hp
      simpa using (hprev p hp).ne'
    have hknown : ¬((!(region i).valid) = true ∨ findRegion twoRegions (region i) = none) := by
      rcases hregion i hi' with h | h <;>
        · rw [h]
          decide
    simp only [checkResource, hvalid, hfresh, Bool.not_true, Bool.false_eq_true, if_false, if_neg hknown]
    rfl

theorem ends_chain {i : ℕ} (hi : i + 1 < 2 ^ 32) :
    (⟨numbered i, numbered i, numbered (i + 1)⟩ : Link).ends = toLex (numbered i, numbered (i + 1)) :=
  if_pos (numbered_lt (Nat.lt_succ_self i) hi)

theorem chain_strict (hm : m < Limits.kMaxResources) : Strict Link.ends (chain m) := by
  have hmax : Limits.kMaxResources = 2 ^ 20 := rfl
  apply strict_range
  intro i j hij hj
  rw [ends_chain (by omega), ends_chain (by omega)]
  exact Prod.Lex.toLex_lt_toLex.mpr (.inl (numbered_lt hij (by omega)))

theorem checkLink_chain (hn : n ≤ Limits.kMaxResources) (hm : m < n) :
    checkAll (checkLink (switches n region)) none (chain m) = .ok () := by
  have hmax : Limits.kMaxResources = 2 ^ 20 := rfl
  apply checkAll_of_strict (chain_strict (by omega))
  · exact fun p hp ↦ absurd hp (by simp)
  · intro l hl prev hprev
    obtain ⟨i, hi, rfl⟩ := List.mem_map.mp hl
    have hi' := List.mem_range.mp hi
    have hne : (numbered i : ResourceId) ≠ numbered (i + 1) := (numbered_lt (Nat.lt_succ_self i) (by omega)).ne
    have hfresh : prev.any (fun p ↦ samePair p ⟨numbered i, numbered i, numbered (i + 1)⟩) = false := by
      rw [Option.any_eq_false]
      intro p hp
      rw [← Bool.not_eq_true]
      intro hsame
      simp only [samePair, Bool.or_eq_true, Bool.and_eq_true, decide_eq_true_eq] at hsame
      refine (hprev p hp).ne (ends_comm_eq hsame ?_)
      rcases hsame with ⟨ha, hb⟩ | ⟨ha, hb⟩
      · rw [ha, hb]
        exact hne
      · rw [ha, hb]
        exact hne.symm
    simp only [checkLink, numbered_valid (show i < 2 ^ 32 by omega),
      numbered_valid (show i + 1 < 2 ^ 32 by omega), Bool.not_true, Bool.false_eq_true, or_self, if_false,
      if_neg hne, findResource_switches hn (show i < n by omega),
      findResource_switches hn (show i + 1 < n by omega), reduceCtorEq, hfresh]

theorem countP_arcs_chain (hn : n ≤ Limits.kMaxResources) (hm : m < n) (row : ℕ) :
    (arcs (switches n region) (chain m)).countP (fun e ↦ e.1 = row) =
      (if row < m then 1 else 0) + if 0 < row ∧ row ≤ m then 1 else 0 := by
  have hindex : ∀ i < n, resourceIndex (switches n region) (numbered i) = i :=
    fun i hi ↦ (switches_strict hn).lowerBound_getElem (getElem?_switches hi)
  induction m with
  | zero =>
    have hnil : chain 0 = [] := rfl
    rw [hnil, arcs, List.flatMap_nil, List.countP_nil]
    split_ifs <;> omega
  | succ m ih =>
    have hstep : chain (m + 1) = chain m ++ [⟨numbered m, numbered m, numbered (m + 1)⟩] := by
      rw [chain, List.range_succ, List.map_append]
      rfl
    rw [hstep, arcs, List.flatMap_append, ← arcs, List.countP_append, ih (by omega), List.flatMap_singleton,
      hindex m (by omega), hindex (m + 1) hm, List.countP_cons, List.countP_cons, List.countP_nil]
    simp only [decide_eq_true_eq]
    split_ifs <;> omega

theorem countDegrees_chain (hn : n ≤ Limits.kMaxResources) (hm : m < n) :
    ∃ degree, countDegrees (switches n region) (chain m) = .ok degree := by
  apply foldlM_bumpDegree_ok
  intro row
  have hzero : (List.replicate (switches n region).length 0).getD row 0 = 0 := by
    rw [List.getD_eq_getElem?_getD, List.getElem?_replicate]
    split <;> rfl
  have hmax : Limits.kMaxNeighborsPerResource = 4096 := rfl
  rw [hzero, countP_arcs_chain hn hm]
  split_ifs <;> omega

theorem buildTables_switches (hn : n ≤ Limits.kMaxResources) (hm : m < n)
    (hregion : ∀ i < n, region i = ⟨1⟩ ∨ region i = ⟨2⟩) : ∃ degree,
      buildTables twoRegions (switches n region) (chain m) =
        .ok (indexTables twoRegions (switches n region) (chain m) degree) := by
  have hmax : Limits.kMaxResources = 2 ^ 20 ∧ Limits.kMaxLinks = 2 ^ 21 := ⟨rfl, rfl⟩
  obtain ⟨degree, hdegree⟩ := @countDegrees_chain n m region hn hm
  refine ⟨degree, ?_⟩
  have hregions : ¬ twoRegions.length > Limits.kMaxRegions := by decide
  have hresources : ¬ (switches n region).length > Limits.kMaxResources := by
    simp only [switches, List.length_map, List.length_range]
    omega
  have hlinks : ¬ (chain m).length > Limits.kMaxLinks := by
    simp only [chain, List.length_map, List.length_range]
    omega
  have hr₀ : sortBy Region.id twoRegions = twoRegions := by decide
  have hs₀ : sortBy Resource.id (switches n region) = switches n region :=
    sortBy_eq_self ((switches_strict hn).imp le_of_lt)
  have hl₀ : sortBy Link.ends (chain m) = chain m := sortBy_eq_self ((chain_strict (by omega)).imp le_of_lt)
  have hr₁ : checkAll checkRegion none twoRegions = .ok () := rfl
  have hr₂ : checkAll (checkParent twoRegions) none twoRegions = .ok () := rfl
  have hr₃ : checkAll (checkCycle twoRegions) none twoRegions = .ok () := rfl
  rw [buildTables, if_neg hregions, if_neg hresources, if_neg hlinks]
  simp only [validateAndIndex, hr₀, hs₀, hl₀, hr₁, hr₂, hr₃, checkResource_switches hn hregion,
    checkLink_chain hn hm, hdegree]
  rfl

end Tables

def rowTopology (n m : ℕ) (region : ℕ → RegionId) : Result TopologySnapshot :=
  ({ tables := { regions := twoRegions, resources := switches n region, links := chain m } } :
    TopologySnapshot).build

def rowCapacities (n : ℕ) (units : ℕ → UInt64) : Result CapacitySnapshot :=
  ({ entries := (List.range n).map (fun i ↦ { resource := numbered i, capacityUnits := units i })
     observedAt := 10000 } : CapacitySnapshot).build

def rowSample (units : ℕ → UInt64) (hot : ℕ → Bool) (i : ℕ) : ResourceSignals :=
  { resource := numbered i, utilizedUnits := if hot i then units i else 0, confidencePpm := 1000000
    quality := .healthy, observedAt := 10000 }

def rowSignals (n : ℕ) (units : ℕ → UInt64) (hot : ℕ → Bool) : Result SignalSnapshot :=
  ({ records := (List.range n).map (rowSample units hot) } : SignalSnapshot).build

section Snapshots

variable {n m : ℕ} {region : ℕ → RegionId} {units : ℕ → UInt64} {hot : ℕ → Bool}

theorem rowTopology_built (hn : n ≤ Limits.kMaxResources) (hm : m < n)
    (hregion : ∀ i < n, region i = ⟨1⟩ ∨ region i = ⟨2⟩) : ∃ s, rowTopology n m region = .ok s ∧
      s.built = true ∧ s.generation = default ∧ s.validUntil = 0 ∧ s.resources = switches n region ∧
      s.links = chain m := by
  obtain ⟨degree, hb⟩ := buildTables_switches hn hm hregion
  exact ⟨_, TopologySnapshot.build_iff.mpr ⟨_, hb, rfl⟩, rfl, rfl, rfl, rfl, rfl⟩

theorem rowCapacities_built (hn : n ≤ Limits.kMaxResources) (hunits : ∀ i < n, units i ≠ 0) :
    ∃ s, rowCapacities n units = .ok s ∧ s.built = true ∧ s.generation = default ∧
      s.topologyGeneration = default ∧ s.observedAt = 10000 ∧
      s.entries = (List.range n).map (fun i ↦ { resource := numbered i, capacityUnits := units i }) := by
  have hmax : Limits.kMaxResources = 2 ^ 20 := rfl
  have hb : buildCapacity ((List.range n).map (fun i ↦ { resource := numbered i, capacityUnits := units i })) =
      .ok ((List.range n).map (fun i ↦ { resource := numbered i, capacityUnits := units i })) := by
    apply sortChecked_of_strict
    · exact strict_range (fun i j hij hj ↦ numbered_lt hij (by omega))
    · rw [List.length_map, List.length_range]
      exact hn
    · intro entry hentry prev hprev
      obtain ⟨i, hi, rfl⟩ := List.mem_map.mp hentry
      have hi' := List.mem_range.mp hi
      have hvalid : (numbered i : ResourceId).valid = true := numbered_valid (by omega)
      have hfresh : prev.any (fun p ↦ numbered i = p.resource) = false := by
        rw [Option.any_eq_false]
        intro p hp
        simpa using (hprev p hp).ne'
      simp only [checkCapacity, hvalid, hfresh, hunits i hi', Bool.not_true, Bool.false_eq_true, false_and,
        if_false]
  exact ⟨_, CapacitySnapshot.build_iff.mpr ⟨_, hb, rfl⟩, rfl, rfl, rfl, rfl, rfl⟩

theorem rowSignals_built (hn : n ≤ Limits.kMaxResources) : ∃ s, rowSignals n units hot = .ok s ∧
    s.built = true ∧ s.topologyGeneration = default ∧ s.capacityGeneration = default ∧
    s.records = (List.range n).map (rowSample units hot) := by
  have hmax : Limits.kMaxResources = 2 ^ 20 := rfl
  have hb : buildSignals ((List.range n).map (rowSample units hot)) =
      .ok ((List.range n).map (rowSample units hot)) := by
    apply sortChecked_of_strict
    · exact strict_range (fun i j hij hj ↦ numbered_lt hij (by omega))
    · rw [List.length_map, List.length_range]
      exact hn
    · intro record hrecord prev hprev
      obtain ⟨i, hi, rfl⟩ := List.mem_map.mp hrecord
      have hi' := List.mem_range.mp hi
      have hvalid : (rowSample units hot i).resource.valid = true := numbered_valid (by omega)
      have hfresh : prev.any (fun p ↦ (rowSample units hot i).resource = p.resource) = false := by
        rw [Option.any_eq_false]
        intro p hp
        simpa using (hprev p hp).ne'
      have hconfidence : (rowSample units hot i).confidencePpm = 1000000 := rfl
      have hoffered : (rowSample units hot i).offeredBps = 0 := rfl
      have hscale : ¬ (1000000 : UInt32).toUInt64 > kPpmScale := by decide
      simp only [checkSignals, hvalid, hfresh, hconfidence, hoffered, hscale, Bool.not_true,
        Bool.false_eq_true, ne_eq, not_true, and_false, if_false]
  exact ⟨_, SignalSnapshot.build_iff.mpr ⟨_, hb, rfl⟩, rfl, rfl, rfl, rfl⟩

end Snapshots

def rowPolicy : PolicySnapshot :=
  { thresholds := { minCoveragePpm := 0, persistenceWindowMs := 0, minPersistenceSamples := 1 } }

def rowInput (n m : ℕ) (region : ℕ → RegionId) (units : ℕ → UInt64) (hot : ℕ → Bool) : DecisionInput :=
  { topology := (rowTopology n m region).toOption, capacity := (rowCapacities n units).toOption
    signals := (rowSignals n units hot).toOption, policy := some rowPolicy, now := 10000
    tracker := some default }

structure RowEvidence (n m : ℕ) (region : ℕ → RegionId) (units : ℕ → UInt64) (hot : ℕ → Bool)
    (ev : BoundEvidence) : Prop where
  resources : ev.topology.resources = switches n region
  links : ev.topology.links = chain m
  capacity : ∀ i < n, ev.capacity.find (numbered i) = some { resource := numbered i, capacityUnits := units i }
  signals : ∀ i < n, ev.signals.find (numbered i) = some (rowSample units hot i)
  paths : ev.paths = none

theorem referencesResolve_self {resources : List Resource} (hs : Strict Resource.id resources) :
    referencesResolve resources (resources.map Resource.id) = true := by
  cases resources with
  | nil => rfl
  | cons r rest =>
    -- the cursor stays on a resource until a later name is asked for
    have hfrom : ∀ {r : Resource} {rest : List Resource}, Strict Resource.id (r :: rest) →
        referencesResolve (r :: rest) (rest.map Resource.id) = true := by
      intro r rest hs
      induction rest generalizing r with
      | nil => rfl
      | cons x rest ih =>
        obtain ⟨hr, hs⟩ := List.pairwise_cons.mp hs
        have hdrop : (r :: x :: rest).dropWhile (fun r ↦ r.id < x.id) = x :: rest := by
          rw [List.dropWhile_cons_of_pos (by simpa using hr x List.mem_cons_self),
            List.dropWhile_cons_of_neg (by simp)]
        rw [List.map_cons, referencesResolve, hdrop]
        simpa using ih hs
    have hdrop : (r :: rest).dropWhile (fun x ↦ x.id < r.id) = r :: rest :=
      List.dropWhile_cons_of_neg (by simp)
    rw [List.map_cons, referencesResolve, hdrop]
    simpa using hfrom hs

section Input

variable {n m : ℕ} {region : ℕ → RegionId} {units : ℕ → UInt64} {hot : ℕ → Bool} {ev : BoundEvidence}

theorem RowEvidence.observe (h : RowEvidence n m region units hot ev) (hunits : ∀ i < n, units i ≠ 0)
    {i : ℕ} (hi : i < n) : observe ev rowPolicy.thresholds 10000 ⟨numbered i, region i, .switch, []⟩ =
      .measured { resource := numbered i, capacityUnits := units i } (rowSample units hot i) := by
  have hstamp : (rowSample units hot i).observedAt = 10000 := rfl
  have hage : tooOld rowPolicy.thresholds 10000 (rowSample units hot i) = false := by
    rw [tooOld, hstamp]
    decide
  have hquality : ¬ (rowSample units hot i).quality = .missing := by
    simp [rowSample]
  simp only [Sampling.observe, h.capacity i hi, h.signals i hi, hage, hquality, hunits i hi, Bool.not_true,
    Bool.false_eq_true, or_self, if_false]

theorem RowEvidence.units_le (h : RowEvidence n m region units hot ev) (hunits : ∀ i < n, units i ≠ 0)
    {i : ℕ} (hi : i < n) : (units i).toNat ≤ usableCapacity ev rowPolicy.thresholds 10000 := by
  have hmem : (⟨numbered i, region i, .switch, []⟩ : Resource) ∈ ev.topology.resources := by
    rw [h.resources]
    exact List.mem_of_getElem? (getElem?_switches hi)
  apply List.le_sum_of_mem
  rw [observations, List.map_map]
  refine List.mem_map.mpr ⟨_, hmem, ?_⟩
  have hobserve := h.observe hunits hi
  simp only [Function.comp_apply, hobserve]
  rfl

theorem rowEvidence (hn : n ≤ Limits.kMaxResources) (hm : m < n)
    (hregion : ∀ i < n, region i = ⟨1⟩ ∨ region i = ⟨2⟩) (hunits : ∀ i < n, units i ≠ 0) :
    ∃ ev, admittedEvidence (rowInput n m region units hot) = some ev ∧
      RowEvidence n m region units hot ev := by
  have hmax : Limits.kMaxResources = 2 ^ 20 := rfl
  obtain ⟨s, hs, hsbuilt, hsgen, hsvalid, hresources, hlinks⟩ := rowTopology_built hn hm hregion
  obtain ⟨c, hc, hcbuilt, hcgen, hctop, hcage, hentries⟩ := rowCapacities_built hn hunits
  obtain ⟨g, hg, hgbuilt, hgtop, hgcap, hrecords⟩ := @rowSignals_built n units hot hn
  set input := rowInput n m region units hot with hinput
  have hrow : RowEvidence n m region units hot ⟨s, c, g, none, none⟩ := by
    refine ⟨hresources, hlinks, ?_, ?_, rfl⟩
    · intro i hi
      have hstrict : Strict ResourceCapacity.resource c.entries := by
        rw [hentries]
        exact strict_range (fun i j hij hj ↦ numbered_lt hij (by omega))
      rw [CapacitySnapshot.find, hcbuilt, numbered_valid (by omega)]
      apply hstrict.find_eq_some (x := { resource := numbered i, capacityUnits := units i })
      rw [hentries]
      exact List.mem_map_of_mem (List.mem_range.mpr hi)
    · intro i hi
      have hstrict : Strict ResourceSignals.resource g.records := by
        rw [hrecords]
        exact strict_range (fun i j hij hj ↦ numbered_lt hij (by omega))
      rw [SignalSnapshot.find, hgbuilt, numbered_valid (by omega)]
      apply hstrict.find_eq_some (x := rowSample units hot i)
      rw [hrecords]
      exact List.mem_map_of_mem (List.mem_range.mpr hi)
  refine ⟨⟨s, c, g, none, none⟩, admittedEvidence_iff.mpr ⟨?_, ?_, ?_⟩, hrow⟩
  · have hcapacity : (capacityFinding input s).admitted = some c := by
      refine capacityFinding_admitted.mpr ⟨by rw [hinput, rowInput, hc]; rfl, hcbuilt, hctop.trans hsgen.symm, ?_⟩
      rw [hcage]
      change ¬ ageMs 10000 10000 > millis rowPolicy.thresholds.maxCapacityAgeMs
      decide
    have hsignals : (signalsFinding input s (some c)).admitted = some g :=
      signalsFinding_admitted.mpr ⟨c, rfl, by rw [hinput, rowInput, hg]; rfl, hgbuilt,
        hgtop.trans hsgen.symm, hgcap.trans hcgen.symm⟩
    refine ⟨?_, ?_, ?_, ?_, ?_, ?_⟩
    · rw [hinput, rowInput, hs]
      exact Option.filter_eq_some_iff.mpr ⟨rfl, hsbuilt⟩
    · rw [TopologySnapshot.freshAt, hsvalid]
      rfl
    · simp only [Findings.evidence, findingsOf, hcapacity, hsignals]
      rfl
    · simp only [hresources, switches, List.length_map, List.length_range]
      omega
    · have hnames : ∀ f : ℕ → ResourceId, (∀ i, f i = numbered i) →
          referencesResolve s.resources ((List.range n).map f) = true := by
        intro f hf
        have hmap : (switches n region).map Resource.id = (List.range n).map f := by
          rw [switches, List.map_map]
          exact List.map_congr_left (fun i _ ↦ (hf i).symm)
        rw [hresources, ← hmap]
        exact referencesResolve_self (switches_strict hn)
      have hcap : capacityResolves s c = true := by
        rw [capacityResolves, hentries, List.map_map]
        exact hnames _ (fun _ ↦ rfl)
      have hsig : signalsResolve s g = true := by
        rw [signalsResolve, hrecords, List.map_map]
        exact hnames _ (fun _ ↦ rfl)
      simp only [referenceRefusal, hcap, hsig]
      rfl
    · exact UInt32.le_iff_toNat_le.mpr (Nat.zero_le _)
  · intro hzero
    have hfabric := tallyOf_fabricCapacity input.thresholds ⟨s, c, g, none, none⟩ input.now
    rw [hzero, UInt64.toNat_zero] at hfabric
    have hfirst := hrow.units_le hunits (show 0 < n by omega)
    change 0 = min (usableCapacity _ rowPolicy.thresholds 10000) _ at hfabric
    have hpos := Ratio.toNat_pos (hunits 0 (by omega))
    omega
  · exact UInt32.le_iff_toNat_le.mpr (Nat.zero_le _)

theorem ratioPpm_of_use {x : UInt64} (hx : x ≠ 0) (hot : Bool) :
    ratioPpm (if hot then x else 0) x = some (if hot then 1000000 else 0) := by
  obtain ⟨v, hv, heq⟩ := Ratio.ratioPpm_spec (if hot then x else 0) hx
  rw [hv, Option.some.injEq]
  apply UInt32.toNat_inj.mp
  rw [heq]
  cases hot with
  | true => exact codePpm_self (Ratio.toNat_pos hx)
  | false => simp [Ratio.codePpm]

theorem measure_row {i : ℕ} (hunits : units i ≠ 0) :
    (measureCell rowPolicy.thresholds { resource := numbered i, capacityUnits := units i }
      (rowSample units hot i)).admissible = true ∧
    (measureCell rowPolicy.thresholds { resource := numbered i, capacityUnits := units i }
      (rowSample units hot i)).saturated = hot i := by
  set entry : ResourceCapacity := { resource := numbered i, capacityUnits := units i } with hentry
  set t := rowPolicy.thresholds with ht
  have hqueue : queuePressured t entry (rowSample units hot i) = false := by
    simp [queuePressured, hentry]
  have hbuffer : bufferPressured t entry (rowSample units hot i) = false := by
    simp [bufferPressured, hentry]
  have hcontra : contradiction t entry (rowSample units hot i) = false := by
    have hoffered : (rowSample units hot i).offeredBps = 0 := rfl
    simp [contradiction, hqueue, hbuffer, hoffered]
  have hadm : admissible t entry (rowSample units hot i) = true := by
    simp only [admissible, hcontra]
    rfl
  have hpressured : pressured t entry (rowSample units hot i) = hot i := by
    have hutil : utilizationPpm entry (rowSample units hot i) = if hot i then 1000000 else 0 :=
      congrArg (Option.getD · 0) (ratioPpm_of_use hunits (hot i))
    rw [pressured, hqueue, hbuffer, hutil]
    cases hot i <;> rfl
  exact ⟨hadm, by simp only [measureCell, hadm, hpressured, Bool.true_and]⟩

end Input

section Scene

variable {n m : ℕ} {region : ℕ → RegionId} {units : ℕ → UInt64} {hot : ℕ → Bool} {ev : BoundEvidence}
variable {binding : EvidenceBinding}

theorem getElem?_resources (h : RowEvidence n m region units hot ev) {i : ℕ} (hi : i < n) :
    ev.topology.resources[i]? = some ⟨numbered i, region i, .switch, []⟩ := by
  rw [h.resources]
  exact getElem?_switches hi

theorem index_lt (h : RowEvidence n m region units hot ev) {i : ℕ} {r : Resource}
    (hr : ev.topology.resources[i]? = some r) : i < n := by
  rw [h.resources] at hr
  have hi := (List.getElem?_eq_some_iff.mp hr).1
  simpa [switches] using hi

variable (h : RowEvidence n m region units hot ev) (hunits : ∀ i < n, units i ≠ 0)
include h hunits

theorem saturatedAt_row {i : ℕ} :
    (sceneOf (rowInput n m region units hot) ev binding).saturatedAt i = true ↔ i < n ∧ hot i = true := by
  have hcell : ∀ j < n, ((observe ev rowPolicy.thresholds 10000 ⟨numbered j, region j, .switch, []⟩).cell
      rowPolicy.thresholds).saturated = hot j := by
    intro j hj
    rw [h.observe hunits hj]
    exact (measure_row (hunits j hj)).2
  have hiff : ∀ j < n, (AdmissiblySaturated ev rowPolicy.thresholds 10000 (numbered j) ↔ hot j = true) := by
    intro j hj
    rw [← hcell j hj]
    exact (observe_saturated_iff (List.mem_of_getElem? (getElem?_resources h hj))).symm
  rw [saturatedAt_iff]
  constructor
  · rintro ⟨r, hr, hsat⟩
    have hi := index_lt h hr
    rw [getElem?_resources h hi, Option.some_inj] at hr
    subst hr
    exact ⟨hi, (hiff i hi).mp hsat⟩
  · rintro ⟨hi, hhot⟩
    exact ⟨_, getElem?_resources h hi, (hiff i hi).mpr hhot⟩

omit h hunits in
theorem meetsWindow_row {c : List ℕ} (hc : c ≠ []) :
    Verdicts.meetsWindow (sceneOf (rowInput n m region units hot) ev binding) c = true := by
  set scene := sceneOf (rowInput n m region units hot) ev binding with hscene
  have hfold : ∀ k : ℕ, (List.replicate k (⟨10000, 10000, 1⟩ : Entry)).foldl Scene.spanStep
      (some (10000, 1)) = some (10000, 1) := by
    intro k
    induction k with
    | zero => rfl
    | succ k ih => exact ih
  have hhistory : (scene.history c).map Prod.snd = List.replicate c.length ⟨10000, 10000, 1⟩ := by
    rw [Scene.history, List.map_map, List.eq_replicate_iff]
    refine ⟨List.length_map _, ?_⟩
    intro entry hentry
    obtain ⟨i, -, rfl⟩ := List.mem_map.mp hentry
    rfl
  have hspan : scene.span c = (10000, 1) := by
    obtain ⟨i, rest, rfl⟩ := List.exists_cons_of_ne_nil hc
    rw [Scene.span, hhistory, List.length_cons, List.replicate_succ, List.foldl_cons]
    exact congrArg (Option.getD · _) (hfold rest.length)
  rw [Verdicts.meetsWindow, hspan]
  rfl

theorem component_chain (hbuilt : ev.topology.built = true) (hm : m + 1 = n) (hhot : ∀ i < n, hot i = true)
    {c : List ℕ} (hc : c ∈ (sceneOf (rowInput n m region units hot) ev binding).components) :
    c = List.range n := by
  set scene := sceneOf (rowInput n m region units hot) ev binding with hscene
  have hg : Grouped (rowInput n m region units hot) ev binding := grouped hbuilt
  have hsat : ∀ i < n, scene.saturatedAt i = true := fun i hi ↦ (saturatedAt_row h hunits).mpr ⟨hi, hhot i hi⟩
  have hnext : ∀ i, i + 1 < n → DepthFirst.Adj scene.neighborIndices scene.saturatedAt i (i + 1) := by
    intro i hi
    refine ⟨hsat i (by omega), hsat (i + 1) hi, ?_⟩
    apply (mem_neighborIndices hbuilt (getElem?_resources h (show i < n by omega))).mpr
    refine ⟨_, getElem?_resources h hi, ⟨numbered i, numbered i, numbered (i + 1)⟩, ?_, .inl ⟨rfl, rfl⟩⟩
    rw [h.links]
    exact List.mem_map.mpr ⟨i, List.mem_range.mpr (by omega), rfl⟩
  have hreach : ∀ i < n, Relation.ReflTransGen
      (DepthFirst.Adj scene.neighborIndices scene.saturatedAt) 0 i := by
    intro i
    induction i with
    | zero => exact fun _ ↦ .refl
    | succ i ih => exact fun hi ↦ (ih (by omega)).tail (hnext i hi)
  have : Std.Symm (DepthFirst.Adj scene.neighborIndices scene.saturatedAt) :=
    ⟨fun i j ↦ adj_symm hbuilt i j⟩
  obtain ⟨i, hi⟩ := List.exists_mem_of_ne_nil c (hg.inhabited c hc)
  have hlt : ∀ j ∈ c, j < n := fun j hj ↦
    ((saturatedAt_row h hunits).mp ((hg.mem_iff j).mp (List.mem_flatten.mpr ⟨c, hc, hj⟩))).1
  have hmem : ∀ j, j ∈ c ↔ j ∈ List.range n := by
    intro j
    rw [List.mem_range]
    refine ⟨hlt j, fun hj ↦ (hg.classes c hc i hi j).mpr ?_⟩
    exact (symm (hreach i (hlt i hi))).trans (hreach j hj)
  have hnodup : c.Nodup := (List.nodup_flatten.mp hg.nodup).1 c hc
  obtain ⟨c₀, -, rfl⟩ := List.mem_map.mp hc
  have hsorted : (sortBy (fun index ↦ index) c₀).Pairwise (fun a b ↦ a ≤ b) := sortBy_pairwise _
  exact ((List.perm_ext_iff_of_nodup hnodup List.nodup_range).mpr hmem).eq_of_pairwise'
    hsorted (List.pairwise_lt_range.imp le_of_lt)

theorem components_islands (hbuilt : ev.topology.built = true) (hm : m = 0) :
    (sceneOf (rowInput n m region units hot) ev binding).components =
      ((List.range n).filter hot).map (fun i ↦ [i]) := by
  set scene := sceneOf (rowInput n m region units hot) ev binding with hscene
  have hisolated : ∀ i, scene.neighborIndices i = [] := by
    intro i
    apply List.filterMap_eq_nil_iff.mpr
    intro id hid
    obtain ⟨l, hl, -⟩ := (mem_neighbors hbuilt).mp hid
    rw [h.links, hm] at hl
    cases hl
  have hlength : scene.resources.length = n := by
    change ev.topology.resources.length = n
    rw [h.resources, switches, List.length_map, List.length_range]
  have hfilter : (List.range n).filter scene.saturatedAt = (List.range n).filter hot := by
    apply List.filter_congr
    intro i hi
    apply Bool.eq_iff_iff.mpr
    rw [saturatedAt_row h hunits, and_iff_right (List.mem_range.mp hi)]
  rw [Scene.components, hlength, DepthFirst.components_of_isolated hisolated List.nodup_range, hfilter,
    List.map_map]
  rfl

end Scene

end HotspotGovernor.Rows
