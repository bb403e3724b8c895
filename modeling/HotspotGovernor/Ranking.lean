import HotspotGovernor.Demand

namespace HotspotGovernor.Ranking

open Foundation Lib Topology TopologyIndex Evidence Detection Sampling Hotspots Detect
open Admissibility Components PathIndex Ratio Demand SortedList

section Ledger

variable (t : Thresholds) (now : Millis)

/-- The path of an accumulator carries the largest fresh demand of its flow. -/
structure Best (seen : List TrafficRecord) (a : Accumulator) : Prop where
  largest : ∀ record ∈ seen, freshIn t now a.flow record = true → record.demandBps ≤ a.bestPathBps
  carried : a.bestPathBps ≠ 0 → ∃ record ∈ seen, freshIn t now a.flow record = true ∧
    record.path = a.path ∧ record.demandBps = a.bestPathBps

/-- What an accumulator holds after some records: all the fresh demand of its flow. -/
structure Holds (seen : List TrafficRecord) (a : Accumulator) : Prop where
  total : a.freshBps.toNat = min (demandOf (freshIn t now a.flow) seen) (2 ^ 64 - 1)
  best : Best t now seen a

/-- The state of the attribution loop after some records, whether its flows fit or not: a flow that has
an accumulator misses none of its records, and one that was turned away once has none. -/
structure Ledger (seen : List TrafficRecord) (st : Attribution) : Prop where
  distinct : (st.accumulators.map Accumulator.flow).Nodup
  bounded : st.accumulators.length ≤ Limits.kMaxContributorAccumulators
  entered : ∀ flow ∈ st.accumulators.map Accumulator.flow, flow ∈ seen.map TrafficRecord.flow
  holds : ∀ a ∈ st.accumulators, Holds t now seen a
  complete : st.incomplete = false →
    ∀ flow ∈ seen.map TrafficRecord.flow, flow ∈ st.accumulators.map Accumulator.flow
  full : st.incomplete = true → st.accumulators.length = Limits.kMaxContributorAccumulators ∧
    ∃ flow ∈ seen.map TrafficRecord.flow, flow ∉ st.accumulators.map Accumulator.flow

variable {t now}

section Fields

variable (flow : FlowId) (path : PathId) (freshBps staleBps bestPathBps : UInt64) (observedAt : Millis)

theorem bestPathBps_mk :
    (Accumulator.mk flow path freshBps staleBps bestPathBps observedAt).bestPathBps = bestPathBps := rfl

theorem path_mk : (Accumulator.mk flow path freshBps staleBps bestPathBps observedAt).path = path := rfl

end Fields

theorem bestPathBps_addFresh (path : PathId) (record : TrafficRecord) (a : Accumulator) :
    (a.addFresh path record).bestPathBps =
      if record.demandBps > a.bestPathBps then record.demandBps else a.bestPathBps :=
  bestPathBps_mk _ _ _ _ _ _

theorem path_addFresh (path : PathId) (record : TrafficRecord) (a : Accumulator) :
    (a.addFresh path record).path = if record.demandBps > a.bestPathBps then path else a.path :=
  path_mk _ _ _ _ _ _

theorem bestPathBps_addStale (record : TrafficRecord) (a : Accumulator) :
    (a.addStale record).bestPathBps = a.bestPathBps := bestPathBps_mk _ _ a.freshBps _ a.bestPathBps _

theorem path_addStale (record : TrafficRecord) (a : Accumulator) : (a.addStale record).path = a.path :=
  path_mk _ a.path a.freshBps _ _ _

variable {seen : List TrafficRecord} {record : TrafficRecord} {a : Accumulator}

theorem Holds.skip (h : Holds t now seen a) (hout : freshIn t now a.flow record = false) :
    Holds t now (seen ++ [record]) a := by
  refine ⟨?_, ?_, ?_⟩
  · rw [demandOf_concat, hout, if_neg Bool.false_ne_true, add_zero]
    exact h.total
  · intro other hmem hfresh
    rcases List.mem_append.mp hmem with hmem | hmem
    · exact h.best.largest other hmem hfresh
    · rw [List.mem_singleton.mp hmem, hout] at hfresh
      cases hfresh
  · intro hpos
    obtain ⟨other, hmem, hother⟩ := h.best.carried hpos
    exact ⟨other, List.mem_append_left _ hmem, hother⟩

theorem Best.addFresh (h : Best t now seen a) (hin : freshIn t now a.flow record = true) :
    Best t now (seen ++ [record]) (a.addFresh record.path record) := by
  constructor
  · intro other hmem hfresh
    rw [flow_addFresh] at hfresh
    rw [bestPathBps_addFresh]
    rcases List.mem_append.mp hmem with hmem | hmem
    · have hle := h.largest other hmem hfresh
      split
      · next hgt => exact UInt64.le_of_lt (UInt64.lt_of_le_of_lt hle hgt)
      · exact hle
    · rw [List.mem_singleton.mp hmem]
      split
      · exact UInt64.le_refl _
      · next hle => exact UInt64.not_lt.mp hle
  · intro hpos
    rw [bestPathBps_addFresh] at hpos
    rw [bestPathBps_addFresh, path_addFresh, flow_addFresh]
    split
    · exact ⟨record, by simp, hin, rfl, rfl⟩
    · next hle =>
      rw [if_neg hle] at hpos
      obtain ⟨other, hmem, hother⟩ := h.carried hpos
      exact ⟨other, List.mem_append_left _ hmem, hother⟩

theorem Holds.addFresh (h : Holds t now seen a) (hin : freshIn t now a.flow record = true) :
    Holds t now (seen ++ [record]) (a.addFresh record.path record) := by
  refine ⟨?_, h.best.addFresh hin⟩
  rw [flow_addFresh, freshBps_addFresh, demandOf_concat, hin, if_pos rfl]
  exact satAdd_saturated h.total

theorem Holds.addStale (h : Holds t now seen a) (hout : freshIn t now a.flow record = false) :
    Holds t now (seen ++ [record]) (a.addStale record) := by
  have hskip := h.skip hout
  refine ⟨?_, ?_, ?_⟩
  · rw [flow_addStale, freshBps_addStale]
    exact hskip.total
  · intro other
    rw [flow_addStale, bestPathBps_addStale]
    exact hskip.best.largest other
  · rw [flow_addStale, bestPathBps_addStale, path_addStale]
    exact hskip.best.carried

theorem holds_new {flow : FlowId} (hnew : flow ∉ seen.map TrafficRecord.flow) (path : PathId) :
    Holds t now seen { flow := flow, path := path } := by
  have hout : ∀ record ∈ seen, freshIn t now flow record = false := by
    intro record hmem
    have hne : record.flow ≠ flow := by
      rintro rfl
      exact hnew (List.mem_map_of_mem hmem)
    simp [freshIn, hne]
  refine ⟨?_, ?_, fun hpos ↦ absurd rfl hpos⟩
  · rw [demandOf_eq_zero hout]
    rfl
  · intro record hmem hfresh
    rw [hout record hmem] at hfresh
    cases hfresh

variable {st : Attribution}

-- stated for variables, so that the kernel never unfolds the saturating sums they stand for
theorem Ledger.mk_of {accumulators : List Accumulator} {freshDemand staleDemand : UInt64} {count : UInt32}
    {incomplete : Bool} (hd : (accumulators.map Accumulator.flow).Nodup)
    (hb : accumulators.length ≤ Limits.kMaxContributorAccumulators)
    (he : ∀ flow ∈ accumulators.map Accumulator.flow, flow ∈ seen.map TrafficRecord.flow)
    (hh : ∀ a ∈ accumulators, Holds t now seen a)
    (hc : incomplete = false →
      ∀ flow ∈ seen.map TrafficRecord.flow, flow ∈ accumulators.map Accumulator.flow)
    (hf : incomplete = true → accumulators.length = Limits.kMaxContributorAccumulators ∧
      ∃ flow ∈ seen.map TrafficRecord.flow, flow ∉ accumulators.map Accumulator.flow) :
    Ledger t now seen ⟨accumulators, freshDemand, staleDemand, count, incomplete⟩ :=
  ⟨hd, hb, he, hh, hc, hf⟩

theorem Ledger.touch (h : Ledger t now seen st) {g : Accumulator → Accumulator}
    (hflow : ∀ a, (g a).flow = a.flow)
    (hg : ∀ a, a.flow = record.flow → Holds t now seen a → Holds t now (seen ++ [record]) (g a))
    (hroom : record.flow ∈ st.accumulators.map Accumulator.flow ∨
      st.accumulators.length < Limits.kMaxContributorAccumulators)
    (freshDemand staleDemand : UInt64) (count : UInt32) :
    Ledger t now (seen ++ [record])
      ⟨touched st.accumulators record.path record.flow g, freshDemand, staleDemand, count, st.incomplete⟩ := by
  have hmem := mem_flow_touched st.accumulators record.path record.flow hflow
  have hlen : (touched st.accumulators record.path record.flow g).length =
      if record.flow ∈ st.accumulators.map Accumulator.flow then st.accumulators.length
      else st.accumulators.length + 1 := by
    have hmap := congrArg List.length (map_flow_touched st.accumulators record.path record.flow hflow)
    rw [List.length_map] at hmap
    rw [hmap]
    split <;> simp
  apply Ledger.mk_of (nodup_touched h.distinct _ _ hflow)
  · have hbound := h.bounded
    rw [hlen]
    split
    · exact hbound
    · next hnot => exact hroom.resolve_left hnot
  · intro flow hin
    rw [List.map_append, List.mem_append]
    rcases (hmem flow).mp hin with hold | rfl
    · exact .inl (h.entered flow hold)
    · exact .inr (by simp)
  · intro a ha
    obtain ⟨b, hb, rfl⟩ := mem_touched ha
    have hbefore : Holds t now seen b := by
      rcases hb with hb | ⟨hnew, rfl⟩
      · exact h.holds b hb
      · -- there is room for a new flow only while none was turned away, so it was not seen before
        apply holds_new
        intro hseen
        cases hinc : st.incomplete with
        | false => exact hnew (h.complete hinc _ hseen)
        | true =>
          have hlt := hroom.resolve_left hnew
          have hfull := (h.full hinc).1
          omega
    split
    · next hsame => exact hg b hsame hbefore
    · next hother => exact hbefore.skip (by simp [freshIn, Ne.symm hother])
  · intro hinc flow hin
    apply (hmem flow).mpr
    rw [List.map_append, List.mem_append] at hin
    rcases hin with hin | hin
    · exact .inl (h.complete hinc flow hin)
    · exact .inr (by simpa using hin)
  · intro hinc
    obtain ⟨hfull, flow, hseen, hnot⟩ := h.full hinc
    have hold : record.flow ∈ st.accumulators.map Accumulator.flow := by
      rcases hroom with hold | hlt
      · exact hold
      · omega
    rw [hlen, if_pos hold]
    refine ⟨hfull, flow, by simp [hseen], ?_⟩
    rw [hmem, not_or]
    exact ⟨hnot, fun heq ↦ hnot (heq ▸ hold)⟩

theorem Ledger.step (h : Ledger t now seen st) (record : TrafficRecord) :
    Ledger t now (seen ++ [record]) (attributeRecord t now record.path st record) := by
  by_cases hroom : record.flow ∈ st.accumulators.map Accumulator.flow ∨
      st.accumulators.length < Limits.kMaxContributorAccumulators
  · rw [attributeRecord_eq h.distinct hroom]
    cases hf : freshRecord t now record with
    | true =>
      rw [if_pos rfl]
      apply h.touch (flow_addFresh _ _) _ hroom
      intro a ha hbefore
      exact hbefore.addFresh (by simp [freshIn, hf, ha])
    | false =>
      rw [if_neg Bool.false_ne_true]
      apply h.touch (flow_addStale _) _ hroom
      intro a _ hbefore
      exact hbefore.addStale (by simp [freshIn, hf])
  · rw [not_or, not_lt] at hroom
    obtain ⟨hnot, hfull⟩ := hroom
    have hdropped : attributeRecord t now record.path st record = { st with incomplete := true } :=
      if_pos ⟨findIdx?_flow.mpr hnot, hfull⟩
    rw [hdropped]
    apply Ledger.mk_of h.distinct h.bounded
    · intro flow hin
      rw [List.map_append, List.mem_append]
      exact .inl (h.entered flow hin)
    · intro a ha
      have hne : record.flow ≠ a.flow := by
        intro heq
        exact hnot (heq ▸ List.mem_map_of_mem ha)
      exact (h.holds a ha).skip (by simp [freshIn, hne])
    · exact fun hinc ↦ absurd hinc (by simp)
    · exact fun _ ↦ ⟨le_antisymm h.bounded hfull, record.flow, by simp, hnot⟩

theorem ledger_foldl (records : List TrafficRecord) : Ledger t now records
    (records.foldl (fun st record ↦ attributeRecord t now record.path st record) {}) := by
  induction records using List.reverseRecOn with
  | nil =>
    apply Ledger.mk_of
    · exact List.nodup_nil
    · exact Nat.zero_le _
    · exact fun flow hin ↦ by cases hin
    · exact fun a ha ↦ by cases ha
    · exact fun _ flow hin ↦ by cases hin
    · exact fun hinc ↦ by cases hinc
  | append_singleton seen record ih =>
    rw [List.foldl_append, List.foldl_cons, List.foldl_nil]
    exact ih.step record

theorem Ledger.incomplete_iff (h : Ledger t now seen st) : st.incomplete = true ↔
    Limits.kMaxContributorAccumulators < (seen.map TrafficRecord.flow).toFinset.card := by
  have hcard : (st.accumulators.map Accumulator.flow).toFinset.card = st.accumulators.length := by
    rw [List.toFinset_card_of_nodup h.distinct, List.length_map]
  have hsub : (st.accumulators.map Accumulator.flow).toFinset ⊆ (seen.map TrafficRecord.flow).toFinset := by
    intro flow hin
    exact List.mem_toFinset.mpr (h.entered flow (List.mem_toFinset.mp hin))
  cases hinc : st.incomplete with
  | true =>
    obtain ⟨hfull, flow, hseen, hnot⟩ := h.full hinc
    have hlt := Finset.card_lt_card ((Finset.ssubset_iff_of_subset hsub).mpr
      ⟨flow, List.mem_toFinset.mpr hseen, fun hin ↦ hnot (List.mem_toFinset.mp hin)⟩)
    simp only [true_iff]
    omega
  | false =>
    have hall : (seen.map TrafficRecord.flow).toFinset ⊆ (st.accumulators.map Accumulator.flow).toFinset := by
      intro flow hin
      exact List.mem_toFinset.mpr (h.complete hinc flow (List.mem_toFinset.mp hin))
    have hle := Finset.card_le_card hall
    have hbound := h.bounded
    simp only [Bool.false_eq_true, false_iff, not_lt]
    omega

end Ledger

section Ranked

variable {st : Attribution}

theorem mem_positive {a : Accumulator} : a ∈ st.positive ↔ a ∈ st.accumulators ∧ a.freshBps ≠ 0 := by
  rw [Attribution.positive, List.mem_filter, Attribution.ranked, mem_sortBy]
  simp

theorem positive_nodup (h : (st.accumulators.map Accumulator.flow).Nodup) :
    (st.positive.map Accumulator.flow).Nodup := by
  have hranked : (st.ranked.map Accumulator.flow).Nodup := ((sortBy_perm _).map _).nodup_iff.mpr h
  exact hranked.sublist (List.filter_sublist.map _)

theorem positive_pairwise : st.positive.Pairwise (fun a b ↦ b.freshBps ≤ a.freshBps) := by
  have hsorted := @sortBy_pairwise _ _ _ (fun c : Accumulator ↦
    (toLex (OrderDual.toDual c.freshBps.toNat, toLex (c.flow, c.path)) : ℕᵒᵈ ×ₗ FlowId ×ₗ PathId))
    st.accumulators
  apply (hsorted.sublist List.filter_sublist).imp
  intro a b hab
  rw [Prod.Lex.toLex_le_toLex] at hab
  rw [UInt64.le_iff_toNat_le]
  rcases hab with hlt | ⟨heq, -⟩
  · exact le_of_lt hlt
  · exact le_of_eq heq.symm

end Ranked

section Bound

variable (ev : BoundEvidence) (component : List ResourceId)

def boundPaths : PathSnapshot := ev.paths.getD default

def boundRecords : List TrafficRecord := (ev.traffic.map TrafficSnapshot.records).getD []

def recordsAcross : List TrafficRecord := crossing (boundPaths ev) (boundRecords ev) component

def flowsThrough : Finset FlowId := ((recordsAcross ev component).map TrafficRecord.flow).toFinset

/-- The fresh demand that a flow accumulates over the component, in a sum that saturates: a record adds
its demand once for every resource that its path traverses. -/
def accumulated (t : Thresholds) (now : Millis) (flow : FlowId) : ℕ :=
  min ((boundRecords ev).map (fun record ↦ crossings (boundPaths ev) record component *
    if freshIn t now flow record then record.demandBps.toNat else 0)).sum (2 ^ 64 - 1)

def contributing (t : Thresholds) (now : Millis) : Finset FlowId :=
  (flowsThrough ev component).filter (fun flow ↦ accumulated ev component t now flow ≠ 0)

def visited : List TrafficRecord := visits (boundPaths ev) (boundRecords ev) component

variable {ev component} {input : DecisionInput}

theorem bound_cases (hadm : admittedEvidence input = some ev) : ev.traffic = none ∨
    ∃ paths traffic, ev.paths = some paths ∧ ev.traffic = some traffic ∧ paths.built = true ∧
      traffic.built = true := by
  have hg := gates_of_admitted hadm
  have hfound := evidence_traffic (evidence_of_admitted hadm)
  cases htraffic : ev.traffic with
  | none => exact .inl rfl
  | some traffic =>
    rw [htraffic] at hfound
    cases hpaths : ev.paths with
    | none =>
      have hnone : (findingsOf input ev.topology).traffic = trafficFinding input none := by
        rw [← hpaths, ← hg.paths]
        rfl
      rw [hnone] at hfound
      cases hfound
    | some paths =>
      exact .inr ⟨paths, traffic, rfl, rfl, (pathsFinding_admitted.mp (hg.paths.trans hpaths)).2.1,
        traffic_built hfound⟩

theorem visited_nil (htraffic : ev.traffic = none) : visited ev component = [] := by
  rw [visited, boundRecords, htraffic, Option.map_none, Option.getD_none, visits]
  apply List.flatMap_eq_nil_iff.mpr
  intro r _
  exact List.flatMap_eq_nil_iff.mpr (fun p _ ↦ rfl)

theorem mem_visited (hadm : admittedEvidence input = some ev) {record : TrafficRecord} :
    record ∈ visited ev component ↔ record ∈ recordsAcross ev component := by
  rcases bound_cases hadm with htraffic | ⟨paths, traffic, hpaths, htraffic, hp, ht⟩
  · rw [visited_nil htraffic, recordsAcross, boundRecords, htraffic]
    exact Iff.rfl
  · rw [visited, recordsAcross, boundPaths, boundRecords, hpaths, htraffic, crossing, List.mem_filter,
      decide_eq_true_eq]
    exact mem_visits hp ht

theorem demandOf_visited (hadm : admittedEvidence input = some ev) (p : TrafficRecord → Bool) :
    demandOf p (visited ev component) = ((boundRecords ev).map (fun record ↦
      crossings (boundPaths ev) record component * if p record then record.demandBps.toNat else 0)).sum := by
  rcases bound_cases hadm with htraffic | ⟨paths, traffic, hpaths, htraffic, hp, ht⟩
  · rw [visited_nil htraffic, boundRecords, htraffic]
    rfl
  · rw [visited, boundPaths, boundRecords, hpaths, htraffic]
    exact demandOf_visits hp ht

theorem toFinset_visited (hadm : admittedEvidence input = some ev) :
    ((visited ev component).map TrafficRecord.flow).toFinset = flowsThrough ev component := by
  ext flow
  simp only [flowsThrough, List.mem_toFinset, List.mem_map, mem_visited hadm]

theorem accumulated_eq_zero (hadm : admittedEvidence input = some ev) {t : Thresholds} {now : Millis}
    {flow : FlowId} (h : flow ∉ flowsThrough ev component) : accumulated ev component t now flow = 0 := by
  rw [accumulated, ← demandOf_visited hadm, demandOf_eq_zero, Nat.zero_min]
  intro record hmem
  have hne : record.flow ≠ flow := by
    rintro rfl
    apply h
    rw [← toFinset_visited hadm, List.mem_toFinset]
    exact List.mem_map_of_mem hmem
  simp [freshIn, hne]

theorem ledger_attribution (hadm : admittedEvidence input = some ev) (binding : EvidenceBinding)
    (component : List ℕ) :
    Ledger input.thresholds input.now
      (visited ev (component.map (sceneOf input ev binding).resourceId))
      ((sceneOf input ev binding).attribution component) := by
  set scene := sceneOf input ev binding with hscene
  have hfold : scene.attribution component = (visited ev (component.map scene.resourceId)).foldl
      (fun st record ↦ attributeRecord scene.thresholds scene.now record.path st record) {} := by
    rcases bound_cases hadm with htraffic | ⟨paths, traffic, hpaths, htraffic, -, -⟩
    · have hnone : scene.evidence.traffic = none := htraffic
      rw [visited_nil htraffic, Scene.attribution, hnone, List.foldl_nil]
      cases scene.evidence.paths <;> rfl
    · have hbound : visited ev (component.map scene.resourceId) =
          visits paths traffic.records (component.map scene.resourceId) := by
        rw [visited, boundPaths, boundRecords, hpaths, htraffic]
        rfl
      rw [hbound]
      exact attribution_eq hpaths htraffic component
  rw [hfold]
  exact ledger_foldl _

end Bound

/-- The contributors of a hotspot are the flows with the most fresh demand over its component. -/
structure TopContributors (input : DecisionInput) (ev : BoundEvidence) (component : List ResourceId)
    (h : Hotspot) : Prop where
  count : h.contributorCount = (contributing ev component input.thresholds input.now).card
  length : h.contributors.length = min h.contributorCount Limits.kMaxContributors
  distinct : (h.contributors.map Contributor.flow).Nodup
  demand : ∀ c ∈ h.contributors, c.flow ∈ contributing ev component input.thresholds input.now ∧
    c.demandBps.toNat = accumulated ev component input.thresholds input.now c.flow
  top : ∀ flow, flow ∉ h.contributors.map Contributor.flow → ∀ c ∈ h.contributors,
    accumulated ev component input.thresholds input.now flow ≤
      accumulated ev component input.thresholds input.now c.flow
  ordered : h.contributors.Pairwise (fun c c' ↦
    c'.sharePpm < c.sharePpm ∨ (c.sharePpm = c'.sharePpm ∧ c.flow < c'.flow))
  path : ∀ c ∈ h.contributors, ∃ record ∈ recordsAcross ev component,
    freshIn input.thresholds input.now c.flow record = true ∧ record.path = c.path ∧
      ∀ other ∈ recordsAcross ev component, freshIn input.thresholds input.now c.flow other = true →
        other.demandBps ≤ record.demandBps

section Top

variable {input : DecisionInput} {ev : BoundEvidence} {component : List ResourceId} {st : Attribution}

theorem mem_contributors_iff {c : Contributor} : c ∈ st.contributors ↔
    ∃ a ∈ st.positive.take Limits.kMaxContributors, st.contributor a = c := by
  rw [Attribution.contributors, mem_sortBy, List.mem_map]

theorem perm_flow_contributors : (st.contributors.map Contributor.flow).Perm
    ((st.positive.take Limits.kMaxContributors).map Accumulator.flow) := by
  have hperm := (@sortBy_perm _ _ _ (fun c : Contributor ↦
    (toLex (OrderDual.toDual c.sharePpm.toNat, toLex (c.flow, c.path)) : ℕᵒᵈ ×ₗ FlowId ×ₗ PathId))
    ((st.positive.take Limits.kMaxContributors).map st.contributor)).map Contributor.flow
  rw [List.map_map] at hperm
  exact hperm

theorem contributors_ordered (hd : (st.contributors.map Contributor.flow).Nodup) :
    st.contributors.Pairwise (fun c c' ↦
      c'.sharePpm < c.sharePpm ∨ (c.sharePpm = c'.sharePpm ∧ c.flow < c'.flow)) := by
  have hsorted := @sortBy_pairwise _ _ _ (fun c : Contributor ↦
    (toLex (OrderDual.toDual c.sharePpm.toNat, toLex (c.flow, c.path)) : ℕᵒᵈ ×ₗ FlowId ×ₗ PathId))
    ((st.positive.take Limits.kMaxContributors).map st.contributor)
  refine ((List.pairwise_map.mp hd).and hsorted).imp ?_
  rintro c c' ⟨hne, hle⟩
  rcases Prod.Lex.toLex_le_toLex.mp hle with hlt | ⟨heq, hle⟩
  · exact .inl (UInt32.lt_iff_toNat_lt.mpr hlt)
  · refine .inr ⟨UInt32.toNat_inj.mp heq, ?_⟩
    rcases Prod.Lex.toLex_le_toLex.mp hle with hlt | ⟨hsame, -⟩
    · exact hlt
    · exact absurd hsame hne

variable (hadm : admittedEvidence input = some ev)
  (hledger : Ledger input.thresholds input.now (visited ev component) st)
include hadm hledger

theorem freshBps_eq {a : Accumulator} (ha : a ∈ st.accumulators) :
    a.freshBps.toNat = accumulated ev component input.thresholds input.now a.flow := by
  rw [(hledger.holds a ha).total, demandOf_visited hadm, accumulated]

theorem best_path {a : Accumulator} (ha : a ∈ st.accumulators) (hpos : a.freshBps ≠ 0) :
    ∃ record ∈ recordsAcross ev component, freshIn input.thresholds input.now a.flow record = true ∧
      record.path = a.path ∧ ∀ other ∈ recordsAcross ev component,
        freshIn input.thresholds input.now a.flow other = true → other.demandBps ≤ record.demandBps := by
  have hholds := hledger.holds a ha
  have hbest : a.bestPathBps ≠ 0 := by
    intro hzero
    apply hpos
    apply UInt64.toNat_inj.mp
    rw [hholds.total, demandOf, List.sum_eq_zero]
    · rfl
    · intro d hd
      obtain ⟨record, hmem, rfl⟩ := List.mem_map.mp hd
      split
      · next hfresh =>
        have hle := hholds.best.largest record hmem hfresh
        rw [hzero, UInt64.le_iff_toNat_le, UInt64.toNat_zero] at hle
        exact Nat.le_zero.mp hle
      · rfl
  obtain ⟨record, hmem, hfresh, hpath, hdemand⟩ := hholds.best.carried hbest
  refine ⟨record, (mem_visited hadm).mp hmem, hfresh, hpath, ?_⟩
  intro other hother hin
  rw [hdemand]
  exact hholds.best.largest other ((mem_visited hadm).mpr hother) hin

theorem contributing_eq (hcomplete : st.incomplete = false) :
    (st.positive.map Accumulator.flow).toFinset =
      contributing ev component input.thresholds input.now := by
  ext flow
  rw [List.mem_toFinset, List.mem_map, contributing, Finset.mem_filter, ← toFinset_visited hadm,
    List.mem_toFinset]
  constructor
  · rintro ⟨a, ha, rfl⟩
    obtain ⟨hmem, hpos⟩ := mem_positive.mp ha
    refine ⟨hledger.entered _ (List.mem_map_of_mem hmem), ?_⟩
    rw [← freshBps_eq hadm hledger hmem]
    exact (toNat_pos hpos).ne'
  · rintro ⟨hseen, hpos⟩
    obtain ⟨a, ha, rfl⟩ := List.mem_map.mp (hledger.complete hcomplete flow hseen)
    refine ⟨a, mem_positive.mpr ⟨ha, ?_⟩, rfl⟩
    intro hzero
    rw [← freshBps_eq hadm hledger ha, hzero] at hpos
    exact hpos rfl

theorem topContributors (hcomplete : st.incomplete = false) {h : Hotspot}
    (hcontributors : h.contributors = st.contributors) (hcount : h.contributorCount = st.positive.length) :
    TopContributors input ev component h := by
  have hdistinct := positive_nodup hledger.distinct
  have hlisted : ∀ c ∈ st.contributors, ∃ a ∈ st.accumulators,
      a ∈ st.positive.take Limits.kMaxContributors ∧ a.freshBps ≠ 0 ∧ st.contributor a = c := by
    intro c hc
    obtain ⟨a, ha, rfl⟩ := mem_contributors_iff.mp hc
    obtain ⟨hmem, hpos⟩ := mem_positive.mp (List.mem_of_mem_take ha)
    exact ⟨a, hmem, ha, hpos, rfl⟩
  have hnodup : (st.contributors.map Contributor.flow).Nodup :=
    perm_flow_contributors.nodup_iff.mpr (hdistinct.sublist ((List.take_sublist _ _).map _))
  refine ⟨?_, ?_, ?_, ?_, ?_, ?_, ?_⟩
  · rw [hcount, ← contributing_eq hadm hledger hcomplete, List.toFinset_card_of_nodup hdistinct,
      List.length_map]
  · have hlen : (st.contributors.map Contributor.flow).length =
      ((st.positive.take Limits.kMaxContributors).map Accumulator.flow).length :=
        perm_flow_contributors.length_eq
    rw [List.length_map, List.length_map, List.length_take] at hlen
    rw [hcontributors, hcount, hlen, min_comm]
  · rw [hcontributors]
    exact hnodup
  · rw [hcontributors]
    intro c hc
    obtain ⟨a, ha, htake, hpos, rfl⟩ := hlisted c hc
    refine ⟨?_, freshBps_eq hadm hledger ha⟩
    rw [← contributing_eq hadm hledger hcomplete, List.mem_toFinset]
    exact List.mem_map_of_mem (List.mem_of_mem_take htake)
  · rw [hcontributors]
    intro flow hout c hc
    obtain ⟨a, ha, htake, hpos, rfl⟩ := hlisted c hc
    change _ ≤ accumulated ev component input.thresholds input.now a.flow
    rw [← freshBps_eq hadm hledger ha]
    by_cases hin : flow ∈ contributing ev component input.thresholds input.now
    · -- a contributing flow that is not listed comes after all that are
      rw [← contributing_eq hadm hledger hcomplete, List.mem_toFinset] at hin
      obtain ⟨b, hb, rfl⟩ := List.mem_map.mp hin
      have hsplit := List.take_append_drop Limits.kMaxContributors st.positive
      have hdrop : b ∈ st.positive.drop Limits.kMaxContributors := by
        rw [← hsplit, List.mem_append] at hb
        rcases hb with hb | hb
        · exact absurd (perm_flow_contributors.mem_iff.mpr (List.mem_map_of_mem hb)) hout
        · exact hb
      have hpairwise : st.positive.Pairwise (fun a b ↦ b.freshBps ≤ a.freshBps) := positive_pairwise
      rw [← hsplit, List.pairwise_append] at hpairwise
      rw [← freshBps_eq hadm hledger (mem_positive.mp (List.mem_of_mem_drop hdrop)).1]
      exact UInt64.le_iff_toNat_le.mp (hpairwise.2.2 a htake b hdrop)
    · have hzero : accumulated ev component input.thresholds input.now flow = 0 := by
        by_contra hpos
        apply hin
        rw [contributing, Finset.mem_filter]
        refine ⟨?_, hpos⟩
        by_contra hnot
        exact hpos (accumulated_eq_zero hadm hnot)
      rw [hzero]
      exact Nat.zero_le _
  · rw [hcontributors]
    exact contributors_ordered hnodup
  · rw [hcontributors]
    intro c hc
    obtain ⟨a, ha, htake, hpos, rfl⟩ := hlisted c hc
    exact best_path hadm hledger ha hpos

end Top

/-- For every input and every hotspot whose accumulators did not overflow: its contributors are the true
top contributors, in order, each with its best path. -/
theorem contributors_are_top (input : DecisionInput) (h : Hotspot)
    (hh : h ∈ (detect input).1.hotspots ++ (detect input).1.candidates) :
    ∃ ev component authority, admittedEvidence input = some ev ∧
      component ∈ (sceneOf input ev (recordBinding input)).components ∧
      h = { (sceneOf input ev (recordBinding input)).hotspotOf component with authority } ∧
      ∀ ids, ids = component.map (sceneOf input ev (recordBinding input)).resourceId →
        (flowsThrough ev ids).card ≤ Limits.kMaxContributorAccumulators →
          TopContributors input ev ids h := by
  obtain ⟨ev, hadm, component, hc, authority, rfl⟩ := Persistence.reported_component hh
  refine ⟨ev, component, authority, hadm, hc, rfl, ?_⟩
  rintro ids rfl hfit
  have hledger := ledger_attribution hadm (recordBinding input) component
  have hcomplete : ((sceneOf input ev (recordBinding input)).attribution component).incomplete = false := by
    rw [← Bool.not_eq_true, hledger.incomplete_iff, toFinset_visited hadm, not_lt]
    exact hfit
  exact topContributors hadm hledger hcomplete rfl rfl

/-- The flow with two records comes first, over its larger one; the next two are equal and ordered by flow. -/
theorem flows_are_top :
    (detect onceInput).1.hotspots.map (fun h ↦ h.contributors.map fun c ↦ (c.flow, c.path, c.demandBps)) =
      [[(⟨7⟩, ⟨2⟩, 160), (⟨8⟩, ⟨3⟩, 100), (⟨9⟩, ⟨4⟩, 100)]] ∧
    ∃ h ∈ (detect onceInput).1.hotspots, TopContributors onceInput onceEvidence [⟨1⟩, ⟨2⟩] h := by
  obtain ⟨h, hmem⟩ := hotspots_once
  refine ⟨by decide +kernel, h, hmem, ?_⟩
  obtain ⟨ev, component, authority, hadm, hc, -, hall⟩ :=
    contributors_are_top onceInput h (List.mem_append_left _ hmem)
  obtain ⟨rfl, rfl⟩ := component_once hadm hc
  exact hall [⟨1⟩, ⟨2⟩] (by rfl) (by decide +kernel)

end HotspotGovernor.Ranking
