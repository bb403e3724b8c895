import HotspotGovernor.RoundTrip
import HotspotGovernor.Validation

namespace HotspotGovernor.Canonical

open Foundation ByteIo Lib Topology TopologyIndex Evidence Validation SortedList

section Sorting

variable {α κ : Type} [LinearOrder κ] {key : α → κ}

theorem sortBy_eq_of_perm {xs ys : List α} (h : xs.Perm ys) (hnodup : (xs.map key).Nodup) :
    sortBy key xs = sortBy key ys := by
  have hx := sortBy_strict hnodup
  have hy := sortBy_strict ((h.map key).nodup_iff.mp hnodup)
  have hperm : (sortBy key xs).Perm (sortBy key ys) := ((sortBy_perm xs).trans h).trans (sortBy_perm ys).symm
  exact hperm.eq_of_pairwise (fun a b _ _ hab hba ↦ absurd hab hba.not_gt) hx hy

variable {limit : ℕ} {overflow : String} {check : Option α → α → Status}

theorem sortChecked_iff (h : Keyed key check) {xs out : List α} :
    sortChecked key limit overflow check xs = .ok out ↔
      xs.length ≤ limit ∧ (∀ x ∈ xs, check none x = .ok ()) ∧
      (xs.map key).Nodup ∧ out = sortBy key xs := by
  have hchecks := h.checkAll_sortBy xs
  constructor
  · intro hok
    obtain ⟨hlength, rfl, hpass⟩ := sortChecked_ok hok
    obtain ⟨hall, hnodup⟩ := hchecks.mp hpass
    exact ⟨hlength, hall, hnodup, rfl⟩
  · rintro ⟨hlength, hall, hnodup, rfl⟩
    rw [sortChecked, if_neg (Nat.not_lt.mpr hlength)]
    dsimp only
    rw [hchecks.mpr ⟨hall, hnodup⟩]
    rfl

theorem sortChecked_perm (h : Keyed key check) {xs ys : List α} (hperm : xs.Perm ys) (out : List α) :
    sortChecked key limit overflow check xs = .ok out ↔ sortChecked key limit overflow check ys = .ok out := by
  rw [sortChecked_iff h, sortChecked_iff h, hperm.length_eq, (hperm.map key).nodup_iff]
  simp only [hperm.mem_iff]
  refine and_congr_right (fun _ ↦ and_congr_right (fun _ ↦ and_congr_right (fun hnodup ↦ ?_)))
  rw [sortBy_eq_of_perm hperm ((hperm.map key).nodup_iff.mpr hnodup)]

theorem perm_of_sortChecked (h : Keyed key check) {xs out : List α}
    (hok : sortChecked key limit overflow check xs = .ok out) : xs.Perm out := by
  obtain ⟨-, -, -, rfl⟩ := (sortChecked_iff h).mp hok
  exact (sortBy_perm xs).symm

end Sorting

theorem keyed_checkCapacity : Keyed ResourceCapacity.resource checkCapacity := by
  intro p entry
  have hcomm : p.resource = entry.resource ↔ entry.resource = p.resource := eq_comm
  simp only [checkCapacity, guard_ok, Option.any_some, Option.any_none, decide_eq_true_eq]
  tauto

theorem keyed_checkSignals : Keyed ResourceSignals.resource checkSignals := by
  intro p record
  have hcomm : p.resource = record.resource ↔ record.resource = p.resource := eq_comm
  simp only [checkSignals, guard_ok, Option.any_some, Option.any_none, decide_eq_true_eq]
  tauto

theorem keyed_checkPath : Keyed PathRecord.id checkPath := by
  intro p path
  have hcomm : p.id = path.id ↔ path.id = p.id := eq_comm
  simp only [checkPath, guard_ok, Option.any_some, Option.any_none, decide_eq_true_eq]
  tauto

theorem keyed_checkTraffic : Keyed TrafficRecord.key checkTraffic := by
  intro p record
  have hkey : p.key = record.key ↔ record.path = p.path ∧ record.flow = p.flow := by
    rw [TrafficRecord.key, TrafficRecord.key, toLex_inj, Prod.mk.injEq, eq_comm (a := p.path),
      eq_comm (a := p.flow)]
  simp only [checkTraffic, guard_ok, Option.any_some, Option.any_none, decide_eq_true_eq]
  tauto

theorem buildPaths_ok_of_perm {xs ys : List PathRecord} (h : xs.Perm ys) {out : PathTables}
    (hok : buildPaths xs = .ok out) : buildPaths ys = .ok out := by
  obtain ⟨sorted, hsorted, hout⟩ := bind_eq_ok hok
  have hsame := (sortChecked_perm keyed_checkPath h sorted).mp hsorted
  unfold buildPaths
  rw [hsame]
  exact hout

theorem perm_of_buildPaths {xs : List PathRecord} {out : PathTables} (hok : buildPaths xs = .ok out) :
    xs.Perm out.paths := by
  obtain ⟨sorted, hsorted, hout⟩ := bind_eq_ok hok
  obtain rfl := Except.ok.inj hout
  exact perm_of_sortChecked keyed_checkPath hsorted

section Tables

variable {regions regions' : List Region} {resources resources' : List Resource} {links links' : List Link}

theorem buildTables_sorted_perm (h : WellFormed regions resources links) (hr : regions.Perm regions')
    (hs : resources.Perm resources') (hl : links.Perm links') :
    sortBy Region.id regions = sortBy Region.id regions' ∧
      sortBy Resource.id resources = sortBy Resource.id resources' ∧
      sortBy Link.ends links = sortBy Link.ends links' := by
  have hends : (links.map Link.ends).Nodup := by
    rw [List.Nodup, List.pairwise_map]
    exact h.pairs.imp (fun hne heq ↦ hne (ends_eq_iff.mp heq))
  exact ⟨sortBy_eq_of_perm hr h.regionIds.2, sortBy_eq_of_perm hs h.resourceIds.2, sortBy_eq_of_perm hl hends⟩

theorem buildTables_ok_of_perm (hr : regions.Perm regions') (hs : resources.Perm resources')
    (hl : links.Perm links') {t : Tables} (h : buildTables regions resources links = .ok t) :
    buildTables regions' resources' links' = .ok t := by
  obtain ⟨hnamed, hwell⟩ := buildTables_iff.mp ⟨t, h⟩
  have hnamed' : Named regions' resources' := by simpa only [Named, hr.mem_iff, hs.mem_iff] using hnamed
  obtain ⟨t', ht'⟩ := buildTables_iff.mpr ⟨hnamed', hwell.perm hr hs hl⟩
  obtain ⟨hregions, hresources, hlinks⟩ := buildTables_sorted_perm hwell hr hs hl
  obtain ⟨degree, hdegree, rfl⟩ := buildTables_eq h
  obtain ⟨degree', hdegree', rfl⟩ := buildTables_eq ht'
  rw [ht', ← hregions, ← hresources, ← hlinks]
  rw [hresources, hlinks, hdegree', Except.ok.injEq] at hdegree
  rw [hdegree]

end Tables

/-- Adding the same entries in another order changes nothing a build returns, and building what a build
returned changes nothing either. -/
structure OrderFree {α σ : Type} (add : σ → α → σ) (empty : σ) (build : σ → Result σ) : Prop where
  perm : ∀ xs ys : List α, xs.Perm ys → ∀ out, build (xs.foldl add empty) = .ok out ↔
    build (ys.foldl add empty) = .ok out
  again : ∀ s s', build s = .ok s' → build s' = .ok s'

theorem OrderFree.of_imp {α σ : Type} {add : σ → α → σ} {empty : σ} {build : σ → Result σ}
    (hperm : ∀ xs ys : List α, xs.Perm ys → ∀ out, build (xs.foldl add empty) = .ok out →
      build (ys.foldl add empty) = .ok out)
    (hagain : ∀ s s', build s = .ok s' → build s' = .ok s') : OrderFree add empty build :=
  ⟨fun xs ys h out ↦ ⟨hperm xs ys h out, hperm ys xs h.symm out⟩, hagain⟩

theorem assembled_eq (calls : List TopologyCall) : calls.foldl TopologyCall.apply {} =
    ({ tables := { regions := calls.filterMap TopologyCall.region?
                   resources := calls.filterMap TopologyCall.resource?
                   links := calls.filterMap TopologyCall.link? } } : TopologySnapshot) := by
  have hrest : assembled calls = { tables := (assembled calls).tables } := by
    induction calls using List.reverseRecOn with
    | nil => rfl
    | append_singleton calls call ih =>
      have hstep : assembled (calls ++ [call]) = TopologyCall.apply (assembled calls) call := by
        rw [assembled, List.foldl_append]
        rfl
      rw [hstep, ih]
      cases call <;> rfl
  rw [assembled_tables] at hrest
  exact hrest

theorem topology_orderFree : OrderFree TopologyCall.apply {} TopologySnapshot.build := by
  apply OrderFree.of_imp
  · intro calls calls' hperm out h
    rw [assembled_eq] at h ⊢
    obtain ⟨tables, htables, rfl⟩ := TopologySnapshot.build_iff.mp h
    exact TopologySnapshot.build_iff.mpr ⟨tables, buildTables_ok_of_perm (hperm.filterMap _) (hperm.filterMap _)
      (hperm.filterMap _) htables, rfl⟩
  · intro s s' h
    obtain ⟨tables, htables, rfl⟩ := TopologySnapshot.build_iff.mp h
    exact TopologySnapshot.build_iff.mpr ⟨tables, RoundTrip.buildTables_again htables, rfl⟩

theorem capacity_added (entries : List ResourceCapacity) :
    entries.foldl CapacitySnapshot.add {} = ({ entries } : CapacitySnapshot) := by
  induction entries using List.reverseRecOn with
  | nil => rfl
  | append_singleton entries entry ih =>
    rw [List.foldl_append, ih]
    rfl

theorem capacity_orderFree : OrderFree CapacitySnapshot.add {} CapacitySnapshot.build := by
  apply OrderFree.of_imp
  · intro xs ys hperm out h
    rw [capacity_added] at h ⊢
    obtain ⟨entries, hentries, rfl⟩ := CapacitySnapshot.build_iff.mp h
    exact CapacitySnapshot.build_iff.mpr
      ⟨entries, (sortChecked_perm keyed_checkCapacity hperm entries).mp hentries, rfl⟩
  · intro s s' h
    obtain ⟨entries, hentries, rfl⟩ := CapacitySnapshot.build_iff.mp h
    have hperm := perm_of_sortChecked keyed_checkCapacity hentries
    exact CapacitySnapshot.build_iff.mpr
      ⟨entries, (sortChecked_perm keyed_checkCapacity hperm entries).mp hentries, rfl⟩

theorem signals_added (records : List ResourceSignals) :
    records.foldl SignalSnapshot.add {} = ({ records } : SignalSnapshot) := by
  induction records using List.reverseRecOn with
  | nil => rfl
  | append_singleton records record ih =>
    rw [List.foldl_append, ih]
    rfl

theorem signals_orderFree : OrderFree SignalSnapshot.add {} SignalSnapshot.build := by
  apply OrderFree.of_imp
  · intro xs ys hperm out h
    rw [signals_added] at h ⊢
    obtain ⟨records, hrecords, rfl⟩ := SignalSnapshot.build_iff.mp h
    exact SignalSnapshot.build_iff.mpr
      ⟨records, (sortChecked_perm keyed_checkSignals hperm records).mp hrecords, rfl⟩
  · intro s s' h
    obtain ⟨records, hrecords, rfl⟩ := SignalSnapshot.build_iff.mp h
    have hperm := perm_of_sortChecked keyed_checkSignals hrecords
    exact SignalSnapshot.build_iff.mpr
      ⟨records, (sortChecked_perm keyed_checkSignals hperm records).mp hrecords, rfl⟩

theorem paths_added (paths : List PathRecord) :
    paths.foldl PathSnapshot.add {} = ({ tables := { paths } } : PathSnapshot) := by
  induction paths using List.reverseRecOn with
  | nil => rfl
  | append_singleton paths path ih =>
    rw [List.foldl_append, ih]
    rfl

theorem paths_orderFree : OrderFree PathSnapshot.add {} PathSnapshot.build := by
  apply OrderFree.of_imp
  · intro xs ys hperm out h
    rw [paths_added] at h ⊢
    obtain ⟨tables, htables, rfl⟩ := PathSnapshot.build_iff.mp h
    exact PathSnapshot.build_iff.mpr ⟨tables, buildPaths_ok_of_perm hperm htables, rfl⟩
  · intro s s' h
    obtain ⟨tables, htables, rfl⟩ := PathSnapshot.build_iff.mp h
    exact PathSnapshot.build_iff.mpr ⟨tables, buildPaths_ok_of_perm (perm_of_buildPaths htables) htables, rfl⟩

theorem traffic_added (records : List TrafficRecord) :
    records.foldl TrafficSnapshot.add {} = ({ records } : TrafficSnapshot) := by
  induction records using List.reverseRecOn with
  | nil => rfl
  | append_singleton records record ih =>
    rw [List.foldl_append, ih]
    rfl

theorem traffic_orderFree : OrderFree TrafficSnapshot.add {} TrafficSnapshot.build := by
  apply OrderFree.of_imp
  · intro xs ys hperm out h
    rw [traffic_added] at h ⊢
    obtain ⟨records, hrecords, rfl⟩ := TrafficSnapshot.build_iff.mp h
    exact TrafficSnapshot.build_iff.mpr
      ⟨records, (sortChecked_perm keyed_checkTraffic hperm records).mp hrecords, rfl⟩
  · intro s s' h
    obtain ⟨records, hrecords, rfl⟩ := TrafficSnapshot.build_iff.mp h
    have hperm := perm_of_sortChecked keyed_checkTraffic hrecords
    exact TrafficSnapshot.build_iff.mpr
      ⟨records, (sortChecked_perm keyed_checkTraffic hperm records).mp hrecords, rfl⟩

/-- Contents, index, digest and identity of every built snapshot depend on its entries alone. -/
theorem snapshots_orderFree :
    OrderFree TopologyCall.apply {} TopologySnapshot.build ∧
    OrderFree CapacitySnapshot.add {} CapacitySnapshot.build ∧
    OrderFree SignalSnapshot.add {} SignalSnapshot.build ∧
    OrderFree PathSnapshot.add {} PathSnapshot.build ∧
    OrderFree TrafficSnapshot.add {} TrafficSnapshot.build :=
  ⟨topology_orderFree, capacity_orderFree, signals_orderFree, paths_orderFree, traffic_orderFree⟩

end HotspotGovernor.Canonical
