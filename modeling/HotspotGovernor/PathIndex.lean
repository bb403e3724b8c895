import HotspotGovernor.Hotspots
import Mathlib.Data.List.Perm.Basic
import Mathlib.Data.List.Count
import Mathlib.Algebra.Order.BigOperators.Group.List

namespace HotspotGovernor.PathIndex

open Foundation Lib Topology Evidence Hotspots SortedList

variable {s : PathSnapshot} {r : ResourceId}

/-- A snapshot that is built has checked paths and the index computed from them. -/
structure Indexed (s : PathSnapshot) : Prop where
  tables : s.tables = indexPaths s.paths
  strict : Strict PathRecord.id s.paths
  hopValid : ∀ path ∈ s.paths, ∀ hop ∈ path.hops, hop.valid = true

theorem checkPath_ok {prev : Option PathRecord} {path : PathRecord} (h : checkPath prev path = .ok ()) :
    (∀ p, prev = some p → p.id ≠ path.id) ∧ path.hops.length ≤ Limits.kMaxHopsPerPath ∧
      ∀ hop ∈ path.hops, hop.valid = true := by
  simp only [checkPath] at h
  split_ifs at h with hid hdup hempty hlong hhop
  iterate 5 cases h
  refine ⟨?_, not_lt.mp hlong, ?_⟩
  · rintro p rfl he
    exact hdup (by simp [he])
  · intro hop hmem
    by_contra hinvalid
    exact hhop (List.any_eq_true.mpr ⟨hop, hmem, by simpa using hinvalid⟩)

theorem checked_of_built (hs : s.built = true) : s.tables = indexPaths s.paths ∧
    s.paths.length ≤ Limits.kMaxPaths ∧ Strict PathRecord.id s.paths ∧
      ∀ path ∈ s.paths, path.hops.length ≤ Limits.kMaxHopsPerPath ∧
        ∀ hop ∈ path.hops, hop.valid = true := by
  obtain ⟨source, hsource⟩ := s.indexed hs
  obtain ⟨sorted, hsorted, hret⟩ := TopologyIndex.bind_eq_ok hsource
  have htables : s.tables = indexPaths sorted := (Except.ok.inj hret).symm
  have hpaths : s.paths = sorted := by
    rw [PathSnapshot.paths, htables, indexPaths]
  obtain ⟨hlength, hentries, hall⟩ := sortChecked_ok hsorted
  rw [hpaths]
  refine ⟨htables, ?_, sortChecked_strict (fun p x hx ↦ (checkPath_ok hx).1 p rfl) hsorted, ?_⟩
  · rwa [hentries, length_sortBy]
  · intro path hmem
    obtain ⟨prev, hcheck⟩ := TopologyIndex.checkAll_forall hall hmem
    exact (checkPath_ok hcheck).2

theorem indexed_of_built (hs : s.built = true) : Indexed s := by
  obtain ⟨htables, -, hstrict, hpaths⟩ := checked_of_built hs
  exact ⟨htables, hstrict, fun path hmem ↦ (hpaths path hmem).2⟩

theorem uniqueHops_nodup (hops : List ResourceId) : (uniqueHops hops).Nodup :=
  (unique_sortBy_strict hops).nodup

theorem mem_uniqueHops {hops : List ResourceId} : r ∈ uniqueHops hops ↔ r ∈ hops := mem_unique_sortBy_id

theorem lowerBound_inj {listed : List ResourceId} (hl : Strict id listed) {a b : ResourceId}
    (ha : a ∈ listed) (hb : b ∈ listed) (h : lowerBound id a listed = lowerBound id b listed) : a = b := by
  obtain ⟨i, hi⟩ := List.mem_iff_getElem?.mp ha
  obtain ⟨j, hj⟩ := List.mem_iff_getElem?.mp hb
  have hia : lowerBound id a listed = i := hl.lowerBound_getElem hi
  have hjb : lowerBound id b listed = j := hl.lowerBound_getElem hj
  rw [← hia, h, hjb, hj] at hi
  exact (Option.some.inj hi).symm

theorem bucket_hops {listed : List ResourceId} (hl : Strict id listed) (hr : r ∈ listed)
    {hops : List ResourceId} (hsub : ∀ hop ∈ hops, hop ∈ listed) (p : ℕ) :
    Csr.bucket ((uniqueHops hops).map (fun hop ↦ (lowerBound id hop listed, p))) (lowerBound id r listed) =
      if r ∈ hops then [p] else [] := by
  have hfilter : (uniqueHops hops).filter (fun hop ↦ lowerBound id hop listed = lowerBound id r listed) =
      (uniqueHops hops).filter (fun hop ↦ hop = r) := by
    apply List.filter_congr
    intro hop hmem
    rw [decide_eq_decide]
    refine ⟨fun h ↦ lowerBound_inj hl (hsub hop (mem_uniqueHops.mp hmem)) hr h, ?_⟩
    rintro rfl
    rfl
  have hcomp : ((fun e : ℕ × ℕ ↦ decide (e.1 = lowerBound id r listed)) ∘
      fun hop ↦ (lowerBound id hop listed, p)) =
      fun hop ↦ decide (lowerBound id hop listed = lowerBound id r listed) := rfl
  rw [Csr.bucket, List.filter_map, List.map_map, hcomp, hfilter, List.filter_eq,
    (uniqueHops_nodup hops).count]
  simp only [mem_uniqueHops]
  split <;> simp

theorem bucket_flatMap {α β : Type} (xs : List β) (g : β → List (ℕ × α)) (i : ℕ) :
    Csr.bucket (xs.flatMap g) i = xs.flatMap (fun x ↦ Csr.bucket (g x) i) := by
  simp only [Csr.bucket, List.filter_flatMap, List.map_flatMap]

theorem flatMap_singleton_if {α β : Type} (xs : List α) (p : α → Bool) (g : α → β) :
    xs.flatMap (fun x ↦ if p x then [g x] else []) = (xs.filter p).map g := by
  induction xs with
  | nil => rfl
  | cons x xs ih =>
    rw [List.flatMap_cons, ih]
    by_cases h : p x = true
    · rw [if_pos h, List.filter_cons_of_pos h, List.map_cons, List.singleton_append]
    · rw [if_neg h, List.filter_cons_of_neg h, List.nil_append]

/-- The positions of the paths that visit a resource. -/
def visiting (paths : List PathRecord) (r : ResourceId) : List ℕ :=
  (paths.zipIdx.filter (fun p ↦ r ∈ p.1.hops)).map Prod.snd

theorem visiting_strict (paths : List PathRecord) : Strict id (visiting paths r) := by
  have h : Strict id (paths.zipIdx.map Prod.snd) := by
    rw [List.zipIdx_map_snd]
    exact List.pairwise_lt_range'
  exact h.sublist (List.filter_sublist.map _)

theorem visiting_nodup (paths : List PathRecord) : (visiting paths r).Nodup := (visiting_strict paths).nodup

theorem mem_visiting {paths : List PathRecord} {p : ℕ} :
    p ∈ visiting paths r ↔ ∃ path, paths[p]? = some path ∧ r ∈ path.hops := by
  simp only [visiting, List.mem_map, List.mem_filter, decide_eq_true_eq]
  constructor
  · rintro ⟨⟨path, q⟩, ⟨hmem, hr⟩, rfl⟩
    exact ⟨path, List.mem_zipIdx_iff_getElem?.mp hmem, hr⟩
  · rintro ⟨path, hp, hr⟩
    exact ⟨(path, p), ⟨List.mem_zipIdx_iff_getElem?.mpr hp, hr⟩, rfl⟩

theorem bucket_hopEntries {listed : List ResourceId} (hl : Strict id listed) (hr : r ∈ listed)
    {paths : List PathRecord} (hsub : ∀ path ∈ paths, ∀ hop ∈ path.hops, hop ∈ listed) :
    Csr.bucket (hopEntries listed paths) (lowerBound id r listed) = visiting paths r := by
  rw [hopEntries, bucket_flatMap, visiting, ← flatMap_singleton_if]
  apply List.flatMap_congr
  intro p hp
  have hmem : p.1 ∈ paths := List.fst_mem_of_mem_zipIdx hp
  rw [bucket_hops hl hr (hsub p.1 hmem)]
  simp only [decide_eq_true_eq]

def listed (paths : List PathRecord) : List ResourceId := uniqueHops (paths.flatMap PathRecord.hops)

theorem mem_listed {paths : List PathRecord} : r ∈ listed paths ↔ ∃ path ∈ paths, r ∈ path.hops := by
  rw [listed, mem_uniqueHops, List.mem_flatMap]

theorem listed_strict (paths : List PathRecord) : Strict id (listed paths) := unique_sortBy_strict _

theorem indexPaths_eq (paths : List PathRecord) : indexPaths paths =
    let entries := hopEntries (listed paths) paths
    let offsets := Csr.offsets (Csr.counts (listed paths).length entries)
    { paths
      throughOffsets := offsets
      throughResources := listed paths
      throughPaths := Csr.sortRows id (listed paths).length offsets (Csr.fill offsets 0 entries) } := rfl

theorem entry_lt {paths : List PathRecord} {e : ℕ × ℕ} (he : e ∈ hopEntries (listed paths) paths) :
    e.1 < (listed paths).length ∧ e.2 < paths.length := by
  obtain ⟨p, hp, hep⟩ := List.mem_flatMap.mp he
  obtain ⟨hop, hhop, rfl⟩ := List.mem_map.mp hep
  have hin : hop ∈ listed paths :=
    mem_listed.mpr ⟨p.1, List.fst_mem_of_mem_zipIdx hp, mem_uniqueHops.mp hhop⟩
  obtain ⟨j, hj⟩ := List.mem_iff_getElem?.mp hin
  rw [show lowerBound id hop (listed paths) = j from (listed_strict paths).lowerBound_getElem hj]
  exact ⟨(List.getElem?_eq_some_iff.mp hj).1, List.snd_lt_of_mem_zipIdx hp⟩

theorem pathsThrough_eq (hs : s.built = true) : s.pathsThrough r = visiting s.paths r := by
  have hi := indexed_of_built hs
  have hstrict := listed_strict s.paths
  by_cases hr : r ∈ listed s.paths
  · obtain ⟨path, hpath, hhop⟩ := mem_listed.mp hr
    obtain ⟨i, hget⟩ := List.mem_iff_getElem?.mp hr
    have hlb : lowerBound id r (listed s.paths) = i := hstrict.lowerBound_getElem hget
    have hfind : findIndex id r (listed s.paths) = some i := hstrict.findIndex_getElem hget
    have hrow : s.pathsThrough r = sortBy id (Csr.bucket (hopEntries (listed s.paths) s.paths) i) := by
      simp only [PathSnapshot.pathsThrough, hs, hi.hopValid path hpath r hhop, Bool.not_true, Bool.or_self,
        Bool.false_eq_true, if_false, throughRow, hi.tables, indexPaths_eq, hfind]
      exact Csr.row_sortRows_fill _ _ (fun e he ↦ (entry_lt he).1) (List.getElem?_eq_some_iff.mp hget).1
    rw [hrow, ← hlb, bucket_hopEntries hstrict hr (fun path hp hop hh ↦ mem_listed.mpr ⟨path, hp, hh⟩)]
    exact sortBy_eq_self ((visiting_strict s.paths).imp le_of_lt)
  · have hnone : visiting s.paths r = [] := by
      apply List.eq_nil_iff_forall_not_mem.mpr
      intro p hp
      obtain ⟨path, hget, hhop⟩ := mem_visiting.mp hp
      exact hr (mem_listed.mpr ⟨path, List.mem_of_getElem? hget, hhop⟩)
    have hfind : findIndex id r (listed s.paths) = none := by
      cases hf : findIndex id r (listed s.paths) with
      | none => rfl
      | some i =>
        obtain ⟨x, hget, hx, -⟩ := findIndex_eq_some hf
        obtain rfl : x = r := hx
        exact absurd (List.mem_of_getElem? hget) hr
    have hrow : s.pathsThrough r = [] := by
      simp only [PathSnapshot.pathsThrough, throughRow, hi.tables, indexPaths_eq, hfind, ite_self]
    rw [hnone, hrow]

theorem pathsThrough_perm (hs : s.built = true) : (s.pathsThrough r).Perm (visiting s.paths r) := by
  rw [pathsThrough_eq hs]

theorem length_hopEntries (hs : s.built = true) :
    (hopEntries (listed s.paths) s.paths).length ≤ Limits.kMaxPaths * Limits.kMaxHopsPerPath := by
  obtain ⟨-, hlength, -, hpaths⟩ := checked_of_built hs
  rw [hopEntries, List.length_flatMap]
  refine (List.sum_le_card_nsmul _ Limits.kMaxHopsPerPath ?_).trans ?_
  · intro n hn
    obtain ⟨p, hp, rfl⟩ := List.mem_map.mp hn
    rw [List.length_map]
    have hsub : (uniqueHops p.1.hops).length ≤ p.1.hops.length :=
      (List.subperm_of_subset (uniqueHops_nodup _) (fun hop hh ↦ mem_uniqueHops.mp hh)).length_le
    exact hsub.trans (hpaths p.1 (List.fst_mem_of_mem_zipIdx hp)).1
  · rw [List.length_map, List.length_zipIdx]
    exact Nat.mul_le_mul_right _ hlength

/-- Every index into the compressed table is inside it: while hops are counted and filled in, while the
rows are sorted one after another, and when a row is looked up. No 32-bit value is too small. -/
structure InRange (t : PathTables) : Prop where
  filled : ∀ (done rest : List (ℕ × ℕ)) (e : ℕ × ℕ),
    hopEntries t.throughResources t.paths = done ++ e :: rest →
      let st := done.foldl Csr.place
        (t.throughOffsets.dropLast, List.replicate (t.throughOffsets.getLastD 0) 0)
      e.1 < t.throughResources.length ∧ e.1 < st.1.length ∧ st.1.getD e.1 0 < st.2.length
  sorted : ∀ i < t.throughResources.length,
    let entries := hopEntries t.throughResources t.paths
    let ids := Csr.sortRows id i t.throughOffsets (Csr.fill t.throughOffsets 0 entries)
    Csr.start t.throughOffsets i ≤ Csr.start t.throughOffsets (i + 1) ∧
      Csr.start t.throughOffsets (i + 1) ≤ ids.length
  rows : ∀ i < t.throughResources.length, i + 1 < t.throughOffsets.length ∧
    Csr.start t.throughOffsets i ≤ Csr.start t.throughOffsets (i + 1) ∧
    Csr.start t.throughOffsets (i + 1) ≤ t.throughPaths.length
  offsetsFit : ∀ i ≤ t.throughResources.length, Csr.start t.throughOffsets i < 2 ^ 32
  pathsFit : t.paths.length < 2 ^ 32

theorem inRange (hs : s.built = true) : InRange s.tables := by
  have hrow : ∀ e ∈ hopEntries (listed s.paths) s.paths, e.1 < (listed s.paths).length :=
    fun e he ↦ (entry_lt he).1
  have hcounts : (Csr.counts (listed s.paths).length (hopEntries (listed s.paths) s.paths)).length =
      (listed s.paths).length := Csr.length_counts _ _
  have hsmall : Limits.kMaxPaths * Limits.kMaxHopsPerPath < 2 ^ 32 ∧ Limits.kMaxPaths < 2 ^ 32 := by decide
  rw [(indexed_of_built hs).tables, indexPaths_eq]
  dsimp only
  constructor <;> dsimp only
  · intro done rest e hsplit
    exact ⟨hrow e (by rw [hsplit]; simp), Csr.place_in_range 0 hrow hsplit⟩
  · intro i hi
    exact (Csr.row_in_range (by rwa [hcounts]) (Csr.length_sortRows_fill 0 _ hi.le)).2
  · intro i hi
    exact Csr.row_in_range (by rwa [hcounts]) (Csr.length_sortRows_fill 0 _ le_rfl)
  · intro i hi
    have hle := Csr.start_mono hi (by rw [hcounts])
    rw [Csr.start_counts hrow] at hle
    exact (hle.trans (length_hopEntries hs)).trans_lt hsmall.1
  · exact (checked_of_built hs).2.1.trans_lt hsmall.2

theorem built_of_build {source s : PathSnapshot} (h : source.build = .ok s) :
    s.built = true ∧ s.paths.Perm source.paths := by
  obtain ⟨tables, htables, rfl⟩ := PathSnapshot.build_iff.mp h
  obtain ⟨sorted, hsorted, hret⟩ := TopologyIndex.bind_eq_ok htables
  obtain rfl := Except.ok.inj hret
  refine ⟨rfl, ?_⟩
  obtain ⟨-, rfl, -⟩ := sortChecked_ok hsorted
  exact sortBy_perm _

/-- For every path set that builds and every resource: the reverse index lists the positions of exactly
the paths that visit the resource, each once and in the order of their identities. -/
theorem paths_through_exact {source s : PathSnapshot} (h : source.build = .ok s) :
    s.paths.Perm source.paths ∧ Strict PathRecord.id s.paths ∧ InRange s.tables ∧
      ∀ r, Strict id (s.pathsThrough r) ∧
        ∀ p, p ∈ s.pathsThrough r ↔ ∃ path, s.paths[p]? = some path ∧ r ∈ path.hops := by
  obtain ⟨hs, hperm⟩ := built_of_build h
  refine ⟨hperm, (indexed_of_built hs).strict, inRange hs, fun r ↦ ?_⟩
  rw [pathsThrough_eq hs]
  exact ⟨visiting_strict s.paths, fun p ↦ mem_visiting⟩

def loopPaths : PathSnapshot :=
  (default : PathSnapshot).add { id := ⟨2⟩, hops := [⟨7⟩, ⟨8⟩, ⟨7⟩] }
    |>.add { id := ⟨1⟩, hops := [⟨8⟩] }

theorem paths_through_loop : ∃ s, loopPaths.build = .ok s ∧ s.pathsThrough ⟨7⟩ = [1] ∧
    ∃ path, s.paths[1]? = some path ∧ (⟨7⟩ : ResourceId) ∈ path.hops := by
  have hrow : (loopPaths.build.toOption.map (fun s ↦ s.pathsThrough ⟨7⟩)) = some [1] := by decide +kernel
  cases h : loopPaths.build with
  | error e =>
    rw [h] at hrow
    cases hrow
  | ok s =>
    rw [h] at hrow
    have hrow : s.pathsThrough ⟨7⟩ = [1] := Option.some.inj hrow
    obtain ⟨-, -, -, hexact⟩ := paths_through_exact h
    exact ⟨s, rfl, hrow, ((hexact ⟨7⟩).2 1).mp (by rw [hrow]; exact List.mem_singleton_self 1)⟩

end HotspotGovernor.PathIndex
