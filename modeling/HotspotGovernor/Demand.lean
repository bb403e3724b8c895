import HotspotGovernor.PathIndex
import HotspotGovernor.Ratio
import HotspotGovernor.Persistence
import HotspotGovernor.Coverage

namespace HotspotGovernor.Demand

open Foundation Lib Topology Evidence Detection Sampling Hotspots Detect Admissibility Components
open Ratio PathIndex SortedList Verdicts Reporting

section

variable (paths : PathSnapshot) (record : TrafficRecord)

/-- The path that carries the record traverses the resource. -/
def crosses (r : ResourceId) : Bool := paths.paths.any (fun path ↦ path.id == record.path && path.hops.contains r)

/-- How many of the component's resources the path that carries the record traverses. -/
def crossings (component : List ResourceId) : ℕ := component.countP (crosses paths record)

end

variable {paths : PathSnapshot} {traffic : TrafficSnapshot} {r : ResourceId}

theorem crosses_iff {record : TrafficRecord} :
    crosses paths record r = true ↔ ∃ path ∈ paths.paths, path.id = record.path ∧ r ∈ path.hops := by
  simp [crosses]

theorem checkTraffic_ok {p x : TrafficRecord} (h : checkTraffic (some p) x = .ok ()) : p.key ≠ x.key := by
  simp only [checkTraffic] at h
  split_ifs at h with hvalid hdup
  iterate 2 cases h
  intro he
  simp only [TrafficRecord.key, toLex_inj, Prod.mk.injEq] at he
  exact hdup (by simp [he])

theorem traffic_strict (ht : traffic.built = true) : Strict TrafficRecord.key traffic.records := by
  obtain ⟨source, h⟩ := traffic.checked ht
  exact sortChecked_strict (fun _ _ ↦ checkTraffic_ok) h

theorem trafficOf_eq (ht : traffic.built = true) (path : PathId) :
    trafficOf traffic.records path = traffic.records.filter (fun record ↦ record.path = path) := by
  have hpairwise : traffic.records.Pairwise (fun a b ↦ a.path ≤ b.path) := by
    refine (traffic_strict ht).imp ?_
    intro a b hlt
    rcases Prod.Lex.toLex_lt_toLex.mp hlt with h | h
    · exact h.le
    · exact h.1.le
  simp only [trafficOf]
  convert takeWhile_drop_lowerBound hpairwise path

/-- The records the loop visits for one resource, path after path. -/
def recordsThrough (paths : PathSnapshot) (records : List TrafficRecord) (r : ResourceId) : List TrafficRecord :=
  (paths.pathsThrough r).flatMap (fun p ↦ trafficOf records (paths.paths.getD p {}).id)

theorem getD_of_visiting {p : ℕ} (h : p ∈ visiting paths.paths r) :
    paths.paths[p]? = some (paths.paths.getD p {}) ∧ r ∈ (paths.paths.getD p {}).hops := by
  obtain ⟨path, hget, hr⟩ := mem_visiting.mp h
  rw [List.getD_eq_getElem?_getD, hget]
  exact ⟨rfl, hr⟩

theorem recordsThrough_perm (hp : paths.built = true) (ht : traffic.built = true) :
    (recordsThrough paths traffic.records r).Perm
      (traffic.records.filter (fun record ↦ crosses paths record r)) := by
  have hnodup : traffic.records.Nodup := (traffic_strict ht).nodup
  have hindexed := indexed_of_built hp
  refine ((pathsThrough_perm hp).flatMap_right _).trans ?_
  simp only [trafficOf_eq ht]
  apply (List.perm_ext_iff_of_nodup ?_ (hnodup.filter _)).mpr
  · intro record
    simp only [List.mem_flatMap, List.mem_filter, decide_eq_true_eq, crosses_iff]
    constructor
    · rintro ⟨p, hvisit, hrec, hpath⟩
      obtain ⟨hget, hr⟩ := getD_of_visiting hvisit
      exact ⟨hrec, _, List.mem_of_getElem? hget, hpath.symm, hr⟩
    · rintro ⟨hrec, path, hpath, hid, hr⟩
      obtain ⟨p, hget⟩ := List.mem_iff_getElem?.mp hpath
      refine ⟨p, mem_visiting.mpr ⟨path, hget, hr⟩, hrec, ?_⟩
      rw [List.getD_eq_getElem?_getD, hget, Option.getD_some, hid]
  · -- two positions name two paths, so their records are disjoint
    refine List.nodup_flatMap.mpr ⟨fun p _ ↦ hnodup.filter _, ?_⟩
    refine List.Pairwise.imp_of_mem ?_ (visiting_nodup paths.paths)
    intro p q hpv hqv hne record hrec hrec'
    simp only [List.mem_filter, decide_eq_true_eq] at hrec hrec'
    obtain ⟨hgetp, -⟩ := getD_of_visiting hpv
    obtain ⟨hgetq, -⟩ := getD_of_visiting hqv
    have hsame : paths.paths.getD p {} = paths.paths.getD q {} :=
      hindexed.strict.inj (List.mem_of_getElem? hgetp) (List.mem_of_getElem? hgetq)
        (hrec.2.symm.trans hrec'.2)
    have hp' := hindexed.strict.lowerBound_getElem hgetp
    have hq' := hindexed.strict.lowerBound_getElem hgetq
    rw [hsame] at hp'
    exact hne (hp'.symm.trans hq')

theorem sum_filter (xs : List TrafficRecord) (p : TrafficRecord → Bool) (f : TrafficRecord → ℕ) :
    ((xs.filter p).map f).sum = (xs.map (fun x ↦ if p x then f x else 0)).sum := by
  induction xs with
  | nil => rfl
  | cons x xs ih =>
    by_cases h : p x = true
    · rw [List.filter_cons_of_pos h, List.map_cons, List.map_cons, List.sum_cons, List.sum_cons, ih, if_pos h]
    · rw [List.filter_cons_of_neg h, List.map_cons, List.sum_cons, ih, if_neg h, zero_add]

/-- The records the loop visits for a component, resource after resource. -/
def visits (paths : PathSnapshot) (records : List TrafficRecord) (component : List ResourceId) :
    List TrafficRecord :=
  component.flatMap (recordsThrough paths records)

theorem sum_visits (hp : paths.built = true) (ht : traffic.built = true) (component : List ResourceId)
    (f : TrafficRecord → ℕ) :
    ((visits paths traffic.records component).map f).sum =
      (traffic.records.map (fun record ↦ crossings paths record component * f record)).sum := by
  induction component with
  | nil => simp [visits, crossings]
  | cons r component ih =>
    have hvisits : visits paths traffic.records (r :: component) =
        recordsThrough paths traffic.records r ++ visits paths traffic.records component := by
      rw [visits, List.flatMap_cons, ← visits]
    rw [hvisits, List.map_append, List.sum_append, ih, ((recordsThrough_perm hp ht).map f).sum_eq, sum_filter,
      ← List.sum_map_add]
    congr 1
    apply List.map_congr_left
    intro record _
    simp only [crossings, List.countP_cons]
    split
    · ring
    · ring

theorem mem_visits (hp : paths.built = true) (ht : traffic.built = true) {component : List ResourceId}
    {record : TrafficRecord} : record ∈ visits paths traffic.records component ↔
      record ∈ traffic.records ∧ 0 < crossings paths record component := by
  simp only [visits, List.mem_flatMap, (recordsThrough_perm hp ht).mem_iff, List.mem_filter, crossings,
    List.countP_pos_iff]
  constructor
  · rintro ⟨r, hr, hrec, hcross⟩
    exact ⟨hrec, r, hr, hcross⟩
  · rintro ⟨hrec, r, hr, hcross⟩
    exact ⟨r, hr, hrec, hcross⟩

section Loop

variable (t : Thresholds) (now : Millis)

def demandOf (p : TrafficRecord → Bool) (records : List TrafficRecord) : ℕ :=
  (records.map (fun record ↦ if p record then record.demandBps.toNat else 0)).sum

def freshIn (flow : FlowId) (record : TrafficRecord) : Bool :=
  freshRecord t now record && record.flow = flow

/-- The state of the attribution loop after it has visited some records: one accumulator for each
flow seen, and saturated sums. -/
structure Sums (seen : List TrafficRecord) (st : Attribution) : Prop where
  complete : st.incomplete = false
  distinct : (st.accumulators.map Accumulator.flow).Nodup
  flows : ∀ flow, flow ∈ st.accumulators.map Accumulator.flow ↔ flow ∈ seen.map TrafficRecord.flow
  perFlow : ∀ a ∈ st.accumulators,
    a.freshBps.toNat = min (demandOf (freshIn t now a.flow) seen) (2 ^ 64 - 1)
  fresh : st.freshDemand.toNat = min (demandOf (freshRecord t now) seen) (2 ^ 64 - 1)
  stale : st.staleDemand.toNat = min (demandOf (fun record ↦ !freshRecord t now record) seen) (2 ^ 64 - 1)

variable {t now}

theorem demandOf_concat (p : TrafficRecord → Bool) (seen : List TrafficRecord) (record : TrafficRecord) :
    demandOf p (seen ++ [record]) = demandOf p seen + if p record then record.demandBps.toNat else 0 := by
  simp [demandOf]

theorem satAdd_saturated {x d : UInt64} {n : ℕ} (h : x.toNat = min n (2 ^ 64 - 1)) :
    (satAdd x d).toNat = min (n + d.toNat) (2 ^ 64 - 1) := by
  rw [satAdd_toNat, h]
  omega

theorem modify_findIdx? {accs : List Accumulator} (hd : (accs.map Accumulator.flow).Nodup) {flow : FlowId}
    {k : ℕ} (hk : accs.findIdx? (fun a ↦ a.flow = flow) = some k) (g : Accumulator → Accumulator) :
    accs.modify k g = accs.map (fun a ↦ if a.flow = flow then g a else a) := by
  induction accs generalizing k with
  | nil => cases hk
  | cons a accs ih =>
    obtain ⟨hnot, hd⟩ := List.nodup_cons.mp hd
    rw [List.findIdx?_cons] at hk
    by_cases ha : a.flow = flow
    · simp only [ha, decide_true, if_true, Option.some.injEq] at hk
      subst hk
      have hrest : accs.map (fun a ↦ if a.flow = flow then g a else a) = accs := by
        refine (List.map_congr_left ?_).trans (List.map_id accs)
        intro b hb
        rw [if_neg, id]
        rintro rfl
        exact hnot (List.mem_map.mpr ⟨b, hb, ha.symm⟩)
      rw [List.map_cons, if_pos ha, hrest, List.modify_zero_cons]
    · simp only [ha, decide_false, Bool.false_eq_true, if_false, Option.map_eq_some_iff] at hk
      obtain ⟨j, hj, rfl⟩ := hk
      rw [List.modify_succ_cons, ih hd hj, List.map_cons, if_neg ha]

/-- The accumulators after one record: those there were, one more if its flow is new, and the one of
its flow changed. -/
def touched (accs : List Accumulator) (path : PathId) (flow : FlowId) (g : Accumulator → Accumulator) :
    List Accumulator :=
  (if flow ∈ accs.map Accumulator.flow then accs else accs ++ [({ flow := flow, path := path } : Accumulator)]).map
    (fun a ↦ if a.flow = flow then g a else a)

theorem findIdx?_flow {accs : List Accumulator} {flow : FlowId} :
    accs.findIdx? (fun a ↦ a.flow = flow) = none ↔ flow ∉ accs.map Accumulator.flow := by
  rw [List.findIdx?_eq_none_iff]
  simp

theorem modify_concat (accs : List Accumulator) (a : Accumulator) (g : Accumulator → Accumulator) :
    (accs ++ [a]).modify accs.length g = accs ++ [g a] := by
  induction accs with
  | nil => rfl
  | cons b accs ih => rw [List.cons_append, List.length_cons, List.modify_succ_cons, ih, List.cons_append]

theorem modify_slot {accs : List Accumulator} (hd : (accs.map Accumulator.flow).Nodup) (path : PathId)
    (flow : FlowId) (g : Accumulator → Accumulator) :
    (if accs.findIdx? (fun a ↦ a.flow = flow) = none then accs ++ [({ flow := flow, path := path } : Accumulator)]
      else accs).modify
        ((accs.findIdx? (fun a ↦ a.flow = flow)).getD accs.length) g = touched accs path flow g := by
  cases hf : accs.findIdx? (fun a ↦ a.flow = flow) with
  | none =>
    have hnot := findIdx?_flow.mp hf
    have hkeep : accs.map (fun a ↦ if a.flow = flow then g a else a) = accs := by
      refine (List.map_congr_left ?_).trans (List.map_id accs)
      intro a ha
      rw [if_neg, id]
      rintro rfl
      exact hnot (List.mem_map_of_mem ha)
    rw [touched, if_neg hnot, if_pos rfl, Option.getD_none, modify_concat, List.map_append, hkeep]
    simp
  | some k =>
    have hmem : flow ∈ accs.map Accumulator.flow := by
      by_contra hnot
      rw [findIdx?_flow.mpr hnot] at hf
      cases hf
    rw [touched, if_pos hmem, if_neg (by simp), Option.getD_some, modify_findIdx? hd hf]

theorem attributeRecord_eq {path : PathId} {st : Attribution} {record : TrafficRecord}
    (hd : (st.accumulators.map Accumulator.flow).Nodup)
    (hroom : record.flow ∈ st.accumulators.map Accumulator.flow ∨
      st.accumulators.length < Limits.kMaxContributorAccumulators) :
    attributeRecord t now path st record =
      if freshRecord t now record then
        { st with
          accumulators := touched st.accumulators path record.flow (Accumulator.addFresh path record)
          freshDemand := satAdd st.freshDemand record.demandBps
          distinctFreshPaths := st.distinctFreshPaths + 1 }
      else
        { st with
          accumulators := touched st.accumulators path record.flow (Accumulator.addStale record)
          staleDemand := satAdd st.staleDemand record.demandBps } := by
  have hnot : ¬(st.accumulators.findIdx? (fun a ↦ a.flow = record.flow) = none ∧
      st.accumulators.length ≥ Limits.kMaxContributorAccumulators) := by
    rintro ⟨hnone, hfull⟩
    rcases hroom with hmem | hlt
    · exact findIdx?_flow.mp hnone hmem
    · exact absurd hfull (not_le.mpr hlt)
  simp only [attributeRecord, if_neg hnot, modify_slot hd]

theorem map_flow_touched (accs : List Accumulator) (path : PathId) (flow : FlowId)
    {g : Accumulator → Accumulator} (hg : ∀ a, (g a).flow = a.flow) :
    (touched accs path flow g).map Accumulator.flow =
      if flow ∈ accs.map Accumulator.flow then accs.map Accumulator.flow
      else accs.map Accumulator.flow ++ [flow] := by
  have hcomp : (Accumulator.flow ∘ fun a ↦ if a.flow = flow then g a else a) = Accumulator.flow := by
    funext a
    simp only [Function.comp_apply]
    split
    · exact hg a
    · rfl
  rw [touched, List.map_map, hcomp]
  split
  · rfl
  · rw [List.map_append, List.map_cons, List.map_nil]

theorem nodup_touched {accs : List Accumulator} (hd : (accs.map Accumulator.flow).Nodup) (path : PathId)
    (flow : FlowId) {g : Accumulator → Accumulator} (hg : ∀ a, (g a).flow = a.flow) :
    ((touched accs path flow g).map Accumulator.flow).Nodup := by
  rw [map_flow_touched accs path flow hg]
  split
  · exact hd
  · next hnot =>
    rw [← List.concat_eq_append]
    exact hd.concat hnot

theorem mem_flow_touched (accs : List Accumulator) (path : PathId) (flow : FlowId)
    {g : Accumulator → Accumulator} (hg : ∀ a, (g a).flow = a.flow) (f : FlowId) :
    f ∈ (touched accs path flow g).map Accumulator.flow ↔ f ∈ accs.map Accumulator.flow ∨ f = flow := by
  rw [map_flow_touched accs path flow hg]
  split
  · next hmem =>
    constructor
    · exact Or.inl
    · rintro (h | rfl)
      · exact h
      · exact hmem
  · rw [List.mem_append, List.mem_singleton]

/-- An accumulator of the touched list was there before, or is new and empty, and is changed exactly
if it is the one of the flow. -/
theorem mem_touched {accs : List Accumulator} {path : PathId} {flow : FlowId} {g : Accumulator → Accumulator}
    {a : Accumulator} (h : a ∈ touched accs path flow g) :
    ∃ b, (b ∈ accs ∨ (flow ∉ accs.map Accumulator.flow ∧ b = { flow := flow, path := path })) ∧
      a = if b.flow = flow then g b else b := by
  obtain ⟨b, hb, rfl⟩ := List.mem_map.mp h
  refine ⟨b, ?_, rfl⟩
  split at hb
  · exact Or.inl hb
  · next hnot =>
    rcases List.mem_append.mp hb with hb | hb
    · exact Or.inl hb
    · exact Or.inr ⟨hnot, List.mem_singleton.mp hb⟩

theorem demandOf_eq_zero {p : TrafficRecord → Bool} {seen : List TrafficRecord}
    (h : ∀ record ∈ seen, p record = false) : demandOf p seen = 0 := by
  apply List.sum_eq_zero
  intro d hd
  obtain ⟨record, hmem, rfl⟩ := List.mem_map.mp hd
  simp [h record hmem]

-- The projections are stated for variables, so that neither the elaborator nor the kernel unfolds the
-- saturating sum that stands in the record.
section Fields

variable (flow : FlowId) (path : PathId) (freshBps staleBps bestPathBps : UInt64) (observedAt : Millis)

theorem flow_mk : (Accumulator.mk flow path freshBps staleBps bestPathBps observedAt).flow = flow := rfl

theorem freshBps_mk :
    (Accumulator.mk flow path freshBps staleBps bestPathBps observedAt).freshBps = freshBps := rfl

end Fields

theorem flow_addFresh (path : PathId) (record : TrafficRecord) (a : Accumulator) :
    (a.addFresh path record).flow = a.flow := flow_mk a.flow _ _ _ _ _

theorem freshBps_addFresh (path : PathId) (record : TrafficRecord) (a : Accumulator) :
    (a.addFresh path record).freshBps = satAdd a.freshBps record.demandBps := freshBps_mk _ _ _ _ _ _

theorem flow_addStale (record : TrafficRecord) (a : Accumulator) : (a.addStale record).flow = a.flow :=
  flow_mk a.flow _ _ _ _ _

theorem freshBps_addStale (record : TrafficRecord) (a : Accumulator) :
    (a.addStale record).freshBps = a.freshBps := freshBps_mk _ _ a.freshBps _ _ _

variable {seen : List TrafficRecord} {st : Attribution}

theorem Sums.touched_before (h : Sums t now seen st) {path : PathId} {flow : FlowId} {b : Accumulator}
    (hb : b ∈ st.accumulators ∨
      (flow ∉ st.accumulators.map Accumulator.flow ∧ b = { flow := flow, path := path })) :
    b.freshBps.toNat = min (demandOf (freshIn t now b.flow) seen) (2 ^ 64 - 1) := by
  rcases hb with hb | ⟨hnew, rfl⟩
  · exact h.perFlow b hb
  · rw [demandOf_eq_zero]
    · rfl
    · intro record hmem
      have hne : record.flow ≠ flow := by
        rintro rfl
        exact hnew ((h.flows record.flow).mpr (List.mem_map_of_mem hmem))
      simp [freshIn, hne]

theorem Sums.addFresh (h : Sums t now seen st) {record : TrafficRecord} (hf : freshRecord t now record = true)
    {a : Accumulator} (ha : a ∈ touched st.accumulators record.path record.flow
      (Accumulator.addFresh record.path record)) :
    a.freshBps.toNat = min (demandOf (freshIn t now a.flow) (seen ++ [record])) (2 ^ 64 - 1) := by
  obtain ⟨b, hb, rfl⟩ := mem_touched ha
  have hbefore := h.touched_before hb
  by_cases hflow : b.flow = record.flow
  · have hin : freshIn t now b.flow record = true := by simp [freshIn, hf, hflow]
    rw [if_pos hflow, flow_addFresh, freshBps_addFresh, demandOf_concat, hin, if_pos rfl]
    exact satAdd_saturated hbefore
  · have hout : freshIn t now b.flow record = false := by simp [freshIn, Ne.symm hflow]
    rw [if_neg hflow, demandOf_concat, hout, if_neg Bool.false_ne_true, add_zero, hbefore]

theorem Sums.addStale (h : Sums t now seen st) {record : TrafficRecord} (hf : freshRecord t now record = false)
    {a : Accumulator} (ha : a ∈ touched st.accumulators record.path record.flow
      (Accumulator.addStale record)) :
    a.freshBps.toNat = min (demandOf (freshIn t now a.flow) (seen ++ [record])) (2 ^ 64 - 1) := by
  obtain ⟨b, hb, rfl⟩ := mem_touched ha
  have hbefore := h.touched_before hb
  have hout : freshIn t now b.flow record = false := by simp [freshIn, hf]
  by_cases hflow : b.flow = record.flow
  · rw [if_pos hflow, flow_addStale, freshBps_addStale, demandOf_concat, hout, if_neg Bool.false_ne_true,
      add_zero, hbefore]
  · rw [if_neg hflow, demandOf_concat, hout, if_neg Bool.false_ne_true, add_zero, hbefore]

-- stated for variables, so that the kernel never unfolds the saturating sums they stand for
theorem Sums.mk_of {accumulators : List Accumulator} {freshDemand staleDemand : UInt64} {count : UInt32}
    {incomplete : Bool} (hc : incomplete = false) (hd : (accumulators.map Accumulator.flow).Nodup)
    (hflows : ∀ flow, flow ∈ accumulators.map Accumulator.flow ↔ flow ∈ seen.map TrafficRecord.flow)
    (hper : ∀ a ∈ accumulators,
      a.freshBps.toNat = min (demandOf (freshIn t now a.flow) seen) (2 ^ 64 - 1))
    (hfresh : freshDemand.toNat = min (demandOf (freshRecord t now) seen) (2 ^ 64 - 1))
    (hstale : staleDemand.toNat =
      min (demandOf (fun record ↦ !freshRecord t now record) seen) (2 ^ 64 - 1)) :
    Sums t now seen ⟨accumulators, freshDemand, staleDemand, count, incomplete⟩ :=
  ⟨hc, hd, hflows, hper, hfresh, hstale⟩

theorem Sums.step (h : Sums t now seen st) {record : TrafficRecord}
    (hroom : record.flow ∈ st.accumulators.map Accumulator.flow ∨
      st.accumulators.length < Limits.kMaxContributorAccumulators) :
    Sums t now (seen ++ [record]) (attributeRecord t now record.path st record) := by
  rw [attributeRecord_eq h.distinct hroom]
  have hflows : ∀ g : Accumulator → Accumulator, (∀ a, (g a).flow = a.flow) → ∀ f,
      f ∈ (touched st.accumulators record.path record.flow g).map Accumulator.flow ↔
        f ∈ (seen ++ [record]).map TrafficRecord.flow := by
    intro g hg f
    rw [mem_flow_touched _ _ _ hg, h.flows, List.map_append, List.mem_append, List.map_cons, List.map_nil,
      List.mem_singleton]
  cases hf : freshRecord t now record with
  | true =>
    rw [if_pos rfl]
    apply Sums.mk_of h.complete (nodup_touched h.distinct _ _ (flow_addFresh _ _))
      (hflows _ (flow_addFresh _ _)) (fun a ha ↦ h.addFresh hf ha)
    · rw [demandOf_concat, hf, if_pos rfl]
      exact satAdd_saturated h.fresh
    · rw [demandOf_concat, hf, Bool.not_true, if_neg Bool.false_ne_true, add_zero]
      exact h.stale
  | false =>
    rw [if_neg Bool.false_ne_true]
    apply Sums.mk_of h.complete (nodup_touched h.distinct _ _ (flow_addStale _))
      (hflows _ (flow_addStale _)) (fun a ha ↦ h.addStale hf ha)
    · rw [demandOf_concat, hf, if_neg Bool.false_ne_true, add_zero]
      exact h.fresh
    · rw [demandOf_concat, hf, Bool.not_false, if_pos rfl]
      exact satAdd_saturated h.stale

theorem sums_foldl {flows : List FlowId} (hbound : flows.length ≤ Limits.kMaxContributorAccumulators)
    (records : List TrafficRecord) (hin : ∀ record ∈ records, record.flow ∈ flows) :
    Sums t now records
      (records.foldl (fun st record ↦ attributeRecord t now record.path st record) {}) := by
  induction records using List.reverseRecOn with
  | nil =>
    refine Sums.mk_of rfl (by simp) (by simp) ?_ ?_ ?_
    · intro a ha
      cases ha
    · simp [demandOf]
    · simp [demandOf]
  | append_singleton seen record ih =>
    have hseen := ih (fun x hx ↦ hin x (List.mem_append_left _ hx))
    rw [List.foldl_append, List.foldl_cons, List.foldl_nil]
    set st := seen.foldl (fun st record ↦ attributeRecord t now record.path st record) {}
    apply hseen.step
    by_contra hfull
    rw [not_or, not_lt] at hfull
    obtain ⟨hnew, hfull⟩ := hfull
    -- a flow that is turned away would be one more than the flows there are
    have hnodup : (record.flow :: st.accumulators.map Accumulator.flow).Nodup :=
      List.nodup_cons.mpr ⟨hnew, hseen.distinct⟩
    have hsub : record.flow :: st.accumulators.map Accumulator.flow ⊆ flows := by
      intro f hf
      rcases List.mem_cons.mp hf with rfl | hf
      · exact hin record (by simp)
      · obtain ⟨x, hx, rfl⟩ := List.mem_map.mp ((hseen.flows f).mp hf)
        exact hin x (List.mem_append_left _ hx)
    have hlen := (List.subperm_of_subset hnodup hsub).length_le
    rw [List.length_cons, List.length_map] at hlen
    omega

end Loop

theorem foldl_congr_mem {α β : Type} {f g : β → α → β} {xs : List α} (h : ∀ b, ∀ x ∈ xs, f b x = g b x)
    (b : β) : xs.foldl f b = xs.foldl g b := by
  induction xs generalizing b with
  | nil => rfl
  | cons x xs ih =>
    rw [List.foldl_cons, List.foldl_cons, h b x List.mem_cons_self]
    exact ih (fun b y hy ↦ h b y (List.mem_cons_of_mem _ hy)) _

theorem path_of_mem_trafficOf {records : List TrafficRecord} {path : PathId} {record : TrafficRecord}
    (h : record ∈ trafficOf records path) : record.path = path := by
  have := List.mem_takeWhile_imp h
  simpa using this

theorem attribution_eq {scene : Scene} (hp : scene.evidence.paths = some paths)
    (ht : scene.evidence.traffic = some traffic) (component : List ℕ) :
    scene.attribution component =
      (visits paths traffic.records (component.map scene.resourceId)).foldl
        (fun st record ↦ attributeRecord scene.thresholds scene.now record.path st record) {} := by
  simp only [Scene.attribution, hp, ht, visits, recordsThrough, List.foldl_flatMap, List.foldl_map]
  apply foldl_congr_mem
  intro st index _
  apply foldl_congr_mem
  intro st p _
  apply foldl_congr_mem
  intro st record hmem
  rw [path_of_mem_trafficOf hmem]

def crossing (paths : PathSnapshot) (records : List TrafficRecord) (component : List ResourceId) :
    List TrafficRecord :=
  records.filter (fun record ↦ 0 < crossings paths record component)

section Once

variable (t : Thresholds) (now : Millis) (paths : PathSnapshot) (records : List TrafficRecord)
  (component : List ResourceId)

structure CountedOnce (h : Hotspot) : Prop where
  attributed : h.attributedDemandBps.toNat = demandOf (freshRecord t now) (crossing paths records component)
  unattributed : h.unattributedDemandBps.toNat =
    demandOf (fun record ↦ !freshRecord t now record) (crossing paths records component)
  contributors : ∀ c ∈ h.contributors,
    c.demandBps.toNat = demandOf (freshIn t now c.flow) (crossing paths records component)

def SinglePass : Prop :=
  ∀ record ∈ records, 0 < record.demandBps.toNat → crossings paths record component ≤ 1

end Once

section Sums

variable {component : List ResourceId} {records : List TrafficRecord} {p : TrafficRecord → Bool}

theorem demandOf_crossing : demandOf p (crossing paths records component) =
    (records.map (fun record ↦
      min (crossings paths record component) 1 * if p record then record.demandBps.toNat else 0)).sum := by
  rw [demandOf, crossing, sum_filter]
  congr 1
  apply List.map_congr_left
  intro record _
  by_cases h : 0 < crossings paths record component
  · rw [if_pos (by simpa using h), min_eq_right h, one_mul]
  · rw [if_neg (by simpa using h), Nat.eq_zero_of_not_pos h, Nat.zero_min, zero_mul]

theorem demandOf_visits (hp : paths.built = true) (ht : traffic.built = true) :
    demandOf p (visits paths traffic.records component) =
      (traffic.records.map (fun record ↦
        crossings paths record component * if p record then record.demandBps.toNat else 0)).sum :=
  sum_visits hp ht component _

theorem term_le (record : TrafficRecord) :
    min (crossings paths record component) 1 * (if p record then record.demandBps.toNat else 0) ≤
      crossings paths record component * if p record then record.demandBps.toNat else 0 :=
  Nat.mul_le_mul_right _ (min_le_left _ _)

theorem demandOf_visits_of_singlePass (hp : paths.built = true) (ht : traffic.built = true)
    (h : SinglePass paths traffic.records component) :
    demandOf p (visits paths traffic.records component) =
      demandOf p (crossing paths traffic.records component) := by
  rw [demandOf_crossing, demandOf_visits hp ht]
  congr 1
  apply List.map_congr_left
  intro record hmem
  by_cases hd : 0 < record.demandBps.toNat
  · rw [min_eq_left (h record hmem hd)]
  · rw [Nat.eq_zero_of_not_pos hd, ite_self, Nat.mul_zero, Nat.mul_zero]

theorem eq_of_sum_eq {xs : List TrafficRecord} {f g : TrafficRecord → ℕ} (hle : ∀ x, f x ≤ g x)
    (h : (xs.map g).sum = (xs.map f).sum) {x : TrafficRecord} (hx : x ∈ xs) : g x = f x := by
  induction xs with
  | nil => cases hx
  | cons y ys ih =>
    rw [List.map_cons, List.map_cons, List.sum_cons, List.sum_cons] at h
    have hy := hle y
    have hys : (ys.map f).sum ≤ (ys.map g).sum := List.sum_le_sum (fun z _ ↦ hle z)
    rcases List.mem_cons.mp hx with rfl | hx
    · omega
    · exact ih (by omega) hx

theorem crossings_le_one (hp : paths.built = true) (ht : traffic.built = true)
    (h : demandOf p (visits paths traffic.records component) =
      demandOf p (crossing paths traffic.records component))
    {record : TrafficRecord} (hmem : record ∈ traffic.records) (hrec : p record = true)
    (hd : 0 < record.demandBps.toNat) : crossings paths record component ≤ 1 := by
  rw [demandOf_crossing, demandOf_visits hp ht] at h
  have heq := eq_of_sum_eq term_le h hmem
  rw [if_pos hrec] at heq
  have := Nat.eq_of_mul_eq_mul_right hd heq
  omega

end Sums

theorem mem_contributors {a : Attribution} {c : Contributor} (h : c ∈ a.contributors) :
    ∃ acc ∈ a.accumulators, c.flow = acc.flow ∧ c.demandBps = acc.freshBps := by
  obtain ⟨acc, hacc, rfl⟩ := List.mem_map.mp (mem_sortBy.mp h)
  have hranked := (List.mem_filter.mp (List.mem_of_mem_take hacc)).1
  exact ⟨acc, mem_sortBy.mp hranked, rfl, rfl⟩

theorem traffic_built {input : DecisionInput} {paths : Option PathSnapshot}
    (h : (trafficFinding input paths).admitted = some traffic) : traffic.built = true := by
  cases paths with
  | none => cases h
  | some paths =>
    simp only [trafficFinding] at h
    split at h
    · cases h
    · next found hfound =>
      split at h
      · cases h
      · obtain rfl := Option.some.inj h
        exact (Option.filter_eq_some_iff.mp hfound).2

theorem evidence_traffic {f : Findings} {topology : TopologySnapshot} {ev : BoundEvidence}
    (h : f.evidence topology = some ev) : f.traffic.admitted = ev.traffic := by
  simp only [Findings.evidence] at h
  split at h
  · obtain rfl := Option.some.inj h
    rfl
  · cases h

section Component

variable {scene : Scene} {component : List ℕ}

theorem sums_of_component (hp : paths.built = true) (ht : traffic.built = true)
    (hpaths : scene.evidence.paths = some paths) (htraffic : scene.evidence.traffic = some traffic)
    (hflows : ((crossing paths traffic.records (component.map scene.resourceId)).map
      TrafficRecord.flow).dedup.length ≤ Limits.kMaxContributorAccumulators) :
    Sums scene.thresholds scene.now (visits paths traffic.records (component.map scene.resourceId))
      (scene.attribution component) := by
  rw [attribution_eq hpaths htraffic]
  apply sums_foldl hflows
  intro record hmem
  obtain ⟨hrec, hcross⟩ := (mem_visits hp ht).mp hmem
  rw [List.mem_dedup]
  exact List.mem_map_of_mem (List.mem_filter.mpr ⟨hrec, by simpa using hcross⟩)

variable (hp : paths.built = true) (ht : traffic.built = true)
  (hsums : Sums scene.thresholds scene.now
    (visits paths traffic.records (component.map scene.resourceId)) (scene.attribution component))

theorem demandOf_freshIn_le (t : Thresholds) (now : Millis) (flow : FlowId) (records : List TrafficRecord) :
    demandOf (freshIn t now flow) records ≤ demandOf (freshRecord t now) records := by
  apply List.sum_le_sum
  intro record _
  cases hf : freshRecord t now record with
  | true =>
    rw [if_pos rfl]
    split <;> omega
  | false => simp [freshIn, hf]

include hp ht hsums

theorem countedOnce_of_singlePass
    (hfresh : demandOf (freshRecord scene.thresholds scene.now)
      (crossing paths traffic.records (component.map scene.resourceId)) < 2 ^ 64)
    (hstale : demandOf (fun record ↦ !freshRecord scene.thresholds scene.now record)
      (crossing paths traffic.records (component.map scene.resourceId)) < 2 ^ 64)
    (h : SinglePass paths traffic.records (component.map scene.resourceId)) :
    CountedOnce scene.thresholds scene.now paths traffic.records (component.map scene.resourceId)
      (scene.hotspotOf component) := by
  have hsame : ∀ p, demandOf p (visits paths traffic.records (component.map scene.resourceId)) =
      demandOf p (crossing paths traffic.records (component.map scene.resourceId)) :=
    fun p ↦ demandOf_visits_of_singlePass hp ht h
  refine ⟨?_, ?_, ?_⟩
  · refine hsums.fresh.trans ?_
    rw [hsame]
    exact min_eq_left (by omega)
  · refine hsums.stale.trans ?_
    rw [hsame]
    exact min_eq_left (by omega)
  · intro c hc
    obtain ⟨acc, hacc, hflow, hdemand⟩ := mem_contributors hc
    have hle := demandOf_freshIn_le scene.thresholds scene.now acc.flow
      (crossing paths traffic.records (component.map scene.resourceId))
    rw [hdemand, hflow, hsums.perFlow acc hacc, hsame]
    exact min_eq_left (by omega)

theorem singlePass_of_countedOnce
    (h : CountedOnce scene.thresholds scene.now paths traffic.records (component.map scene.resourceId)
      (scene.hotspotOf component))
    (hfresh' : demandOf (freshRecord scene.thresholds scene.now)
      (crossing paths traffic.records (component.map scene.resourceId)) ≠ 2 ^ 64 - 1)
    (hstale' : demandOf (fun record ↦ !freshRecord scene.thresholds scene.now record)
      (crossing paths traffic.records (component.map scene.resourceId)) ≠ 2 ^ 64 - 1) :
    SinglePass paths traffic.records (component.map scene.resourceId) := by
  have hf := hsums.fresh.symm.trans h.attributed
  have hs := hsums.stale.symm.trans h.unattributed
  intro record hmem hd
  cases hrec : freshRecord scene.thresholds scene.now record with
  | true => exact crossings_le_one hp ht (by omega) hmem hrec hd
  | false =>
    refine crossings_le_one (p := fun record ↦ !freshRecord scene.thresholds scene.now record) hp ht
      (by omega) hmem (by simp [hrec]) hd

end Component

/-- With bound paths and traffic, a population of flows that fits and sums below `2 ^ 64`, a hotspot
counts each record once if no path with demand traverses its component twice; and only then, sums of
exactly `2 ^ 64 - 1` apart, where the accumulator reads the same either way. -/
theorem demand_counted_once_iff (input : DecisionInput) (h : Hotspot)
    (hh : h ∈ (detect input).1.hotspots ++ (detect input).1.candidates) :
    ∃ ev component authority, admittedEvidence input = some ev ∧
      component ∈ (sceneOf input ev (recordBinding input)).components ∧
      h = { (sceneOf input ev (recordBinding input)).hotspotOf component with authority } ∧
      ∀ paths traffic ids, ev.paths = some paths → ev.traffic = some traffic →
        ids = component.map (sceneOf input ev (recordBinding input)).resourceId →
        ((crossing paths traffic.records ids).map TrafficRecord.flow).dedup.length ≤
          Limits.kMaxContributorAccumulators →
        demandOf (freshRecord input.thresholds input.now) (crossing paths traffic.records ids) < 2 ^ 64 →
        demandOf (fun record ↦ !freshRecord input.thresholds input.now record)
          (crossing paths traffic.records ids) < 2 ^ 64 →
        (SinglePass paths traffic.records ids →
          CountedOnce input.thresholds input.now paths traffic.records ids h) ∧
        (CountedOnce input.thresholds input.now paths traffic.records ids h →
          SinglePass paths traffic.records ids ∨
          demandOf (freshRecord input.thresholds input.now) (crossing paths traffic.records ids) =
            2 ^ 64 - 1 ∨
          demandOf (fun record ↦ !freshRecord input.thresholds input.now record)
            (crossing paths traffic.records ids) = 2 ^ 64 - 1) := by
  obtain ⟨ev, hadm, component, hc, authority, rfl⟩ := Persistence.reported_component hh
  refine ⟨ev, component, authority, hadm, hc, rfl, ?_⟩
  rintro paths traffic ids hpaths htraffic rfl hflows hfresh hstale
  have hg := gates_of_admitted hadm
  have hp : paths.built = true := (pathsFinding_admitted.mp (hg.paths.trans hpaths)).2.1
  have ht : traffic.built = true :=
    traffic_built ((evidence_traffic (evidence_of_admitted hadm)).trans htraffic)
  set scene := sceneOf input ev (recordBinding input) with hscene
  have hsums : Sums scene.thresholds scene.now
      (visits paths traffic.records (component.map scene.resourceId)) (scene.attribution component) :=
    sums_of_component hp ht hpaths htraffic hflows
  constructor
  · intro hsingle
    have hc := countedOnce_of_singlePass hp ht hsums hfresh hstale hsingle
    exact ⟨hc.attributed, hc.unattributed, hc.contributors⟩
  · intro honce
    by_contra hnot
    rw [not_or, not_or] at hnot
    exact hnot.1 (singlePass_of_countedOnce hp ht hsums
      ⟨honce.attributed, honce.unattributed, honce.contributors⟩ hnot.2.1 hnot.2.2)

def lateCapacities : Result CapacitySnapshot :=
  let s := { (default : CapacitySnapshot) with observedAt := 10000 }
  (((s.add { resource := ⟨1⟩, capacityUnits := 100 }).add { resource := ⟨2⟩, capacityUnits := 100 }).add
    { resource := ⟨3⟩, capacityUnits := 100 }).build

def lateSamples : Result SignalSnapshot :=
  let s : SignalSnapshot := default
  (((s.add (islandSample 1 95)).add (islandSample 2 95)).add (islandSample 3 10)).build

def onePath (hops : List ResourceId) : Result PathSnapshot :=
  ({ (default : PathSnapshot) with observedAt := 10000 }.add { id := ⟨1⟩, flow := ⟨7⟩, hops }).build

def oneFlow : Result TrafficSnapshot :=
  ((default : TrafficSnapshot).add
    { flow := ⟨7⟩, path := ⟨1⟩, demandBps := 100, quality := .healthy, observedAt := 10000 }).build

/-- Three switches in a row, the first two saturated for nine seconds, and one flow. -/
def flowInput (hops : List ResourceId) : DecisionInput :=
  { topology := threeSwitches.toOption, capacity := lateCapacities.toOption
    signals := lateSamples.toOption, paths := (onePath hops).toOption, traffic := oneFlow.toOption
    now := 10000
    tracker := some (SaturationTracker.replace [(⟨1⟩, ⟨1000, 9000, 5⟩), (⟨2⟩, ⟨1000, 9000, 5⟩)]) }

/-- Paths of three flows, each of which traverses one of the first two switches. -/
def entryPaths : Result PathSnapshot :=
  let s := { (default : PathSnapshot) with observedAt := 10000 }
  (((((s.add { id := ⟨1⟩, flow := ⟨7⟩, hops := [⟨2⟩, ⟨3⟩] }).add
    { id := ⟨2⟩, flow := ⟨7⟩, hops := [⟨1⟩] }).add
    { id := ⟨3⟩, flow := ⟨8⟩, hops := [⟨2⟩, ⟨3⟩] }).add
    { id := ⟨4⟩, flow := ⟨9⟩, hops := [⟨1⟩] }).add
    { id := ⟨5⟩, flow := ⟨9⟩, hops := [⟨2⟩] }).build

/-- Flow 7 has two fresh records, flows 8 and 9 have equal demand, and one more record of flow 9 is stale. -/
def entryTraffic : Result TrafficSnapshot :=
  let s : TrafficSnapshot := default
  (((((s.add { flow := ⟨7⟩, path := ⟨1⟩, demandBps := 60, quality := .healthy, observedAt := 10000 }).add
    { flow := ⟨7⟩, path := ⟨2⟩, demandBps := 100, quality := .healthy, observedAt := 9900 }).add
    { flow := ⟨8⟩, path := ⟨3⟩, demandBps := 100, quality := .healthy, observedAt := 10000 }).add
    { flow := ⟨9⟩, path := ⟨4⟩, demandBps := 100, quality := .healthy, observedAt := 10000 }).add
    { flow := ⟨9⟩, path := ⟨5⟩, demandBps := 40, quality := .healthy, observedAt := 0 }).build

def onceInput : DecisionInput :=
  { flowInput [] with paths := entryPaths.toOption, traffic := entryTraffic.toOption }

def twiceInput : DecisionInput := flowInput [⟨1⟩, ⟨2⟩, ⟨3⟩]

def onceEvidence : BoundEvidence := (admittedEvidence onceInput).get (by decide +kernel)

def flowTraffic : TrafficSnapshot := oneFlow.toOption.get (by decide +kernel)

def oncePaths : PathSnapshot := onceInput.paths.get (by decide +kernel)

def onceTraffic : TrafficSnapshot := onceInput.traffic.get (by decide +kernel)

def twicePaths : PathSnapshot := twiceInput.paths.get (by decide +kernel)

instance (paths : PathSnapshot) (records : List TrafficRecord) (component : List ResourceId) :
    Decidable (SinglePass paths records component) :=
  inferInstanceAs (Decidable (∀ record ∈ records, _ → _))

theorem hotspots_once : ∃ h, h ∈ (detect onceInput).1.hotspots :=
  List.exists_mem_of_length_pos (by decide +kernel)

theorem component_once {ev : BoundEvidence} {component : List ℕ} (hadm : admittedEvidence onceInput = some ev)
    (hc : component ∈ (sceneOf onceInput ev (recordBinding onceInput)).components) :
    ev = onceEvidence ∧ component = [0, 1] := by
  have hev : admittedEvidence onceInput = some onceEvidence := (Option.some_get _).symm
  rw [hev, Option.some_inj] at hadm
  subst hadm
  have hcomps : (sceneOf onceInput onceEvidence (recordBinding onceInput)).components = [[0, 1]] := by
    decide +kernel
  rw [hcomps, List.mem_singleton] at hc
  exact ⟨rfl, hc⟩

theorem flow_counted_once :
    (detect onceInput).1.hotspots.map (fun h ↦ (h.attributedDemandBps, h.unattributedDemandBps)) = [(360, 40)] ∧
      ∃ h ∈ (detect onceInput).1.hotspots,
        CountedOnce onceInput.thresholds 10000 oncePaths onceTraffic.records [⟨1⟩, ⟨2⟩] h := by
  obtain ⟨h, hmem⟩ := hotspots_once
  refine ⟨by decide +kernel, h, hmem, ?_⟩
  obtain ⟨ev, component, authority, hadm, hc, -, hall⟩ :=
    demand_counted_once_iff onceInput h (List.mem_append_left _ hmem)
  obtain ⟨rfl, rfl⟩ := component_once hadm hc
  exact (hall oncePaths onceTraffic [⟨1⟩, ⟨2⟩] (by rfl) (by rfl) (by decide +kernel) (by decide +kernel)
    (by decide +kernel) (by decide +kernel)).1 (by decide +kernel)

theorem flow_counted_twice :
    (detect twiceInput).1.hotspots.map Hotspot.saturatedResources = [[⟨1⟩, ⟨2⟩]] ∧
      (detect twiceInput).1.hotspots.map Hotspot.attributedDemandBps = [200] ∧
      demandOf (freshRecord twiceInput.thresholds 10000)
        (crossing twicePaths flowTraffic.records [⟨1⟩, ⟨2⟩]) = 100 ∧
      ∀ h ∈ (detect twiceInput).1.hotspots,
        ¬CountedOnce twiceInput.thresholds 10000 twicePaths flowTraffic.records [⟨1⟩, ⟨2⟩] h := by
  have hdemand : (detect twiceInput).1.hotspots.map Hotspot.attributedDemandBps = [200] := by decide +kernel
  have hsum : demandOf (freshRecord twiceInput.thresholds 10000)
      (crossing twicePaths flowTraffic.records [⟨1⟩, ⟨2⟩]) = 100 := by decide +kernel
  refine ⟨by decide +kernel, hdemand, hsum, ?_⟩
  intro h hh honce
  have hval : h.attributedDemandBps = 200 := by
    have := List.mem_map_of_mem (f := Hotspot.attributedDemandBps) hh
    rwa [hdemand, List.mem_singleton] at this
  have := honce.attributed
  rw [hval, hsum] at this
  revert this
  decide

end HotspotGovernor.Demand
