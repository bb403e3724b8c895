import HotspotGovernor.Validation
import HotspotGovernor.Rows

namespace HotspotGovernor.Chains

open Foundation ByteIo Lib Topology TopologyIndex Validation SortedList Ancestors

section Flatten

variable {α : Type}

theorem start_eq_sum {c : List ℕ} {i : ℕ} (hi : i ≤ c.length) :
    Csr.start (Csr.offsets c) i = (c.take i).sum := by
  induction i with
  | zero => rw [Csr.start_zero, List.take_zero, List.sum_nil]
  | succ i ih =>
    rw [Csr.start_succ (by omega), ih (by omega), List.take_add_one, List.sum_append,
      List.getD_eq_getElem?_getD, List.getElem?_eq_getElem (by omega)]
    simp

theorem exists_drop_flatten {xss : List (List α)} {p : ℕ} {x : α} (h : xss.flatten[p]? = some x) :
    ∃ xs ∈ xss, ∃ k rest, xs[k]? = some x ∧ xss.flatten.drop p = xs.drop k ++ rest := by
  induction xss generalizing p with
  | nil => cases h
  | cons xs xss ih =>
    rw [List.flatten_cons] at h ⊢
    rcases Nat.lt_or_ge p xs.length with hp | hp
    · rw [List.getElem?_append_left hp] at h
      exact ⟨xs, List.mem_cons_self, p, xss.flatten, h, List.drop_append_of_le_length hp.le⟩
    · rw [List.getElem?_append_right hp] at h
      obtain ⟨ys, hys, k, rest, hk, hdrop⟩ := ih h
      refine ⟨ys, List.mem_cons_of_mem xs hys, k, rest, hk, ?_⟩
      rw [List.drop_append, List.drop_of_length_le hp, List.nil_append, hdrop]

end Flatten

/-- The regions above each resource, in the order of the resources. -/
def chainsOf (t : Tables) : List (List RegionId) :=
  t.resources.map (fun r ↦ regionWalk t.regions (t.regions.length + 1) r.region)

/-- Where the chain at a position starts in the concatenation of the chains, over unbounded integers. -/
def chainStart (t : Tables) (index : ℕ) : ℕ := (((chainsOf t).map List.length).take index).sum

theorem regionWalk_eq_climb {regions : List Region} (steps : ℕ) {cursor : RegionId}
    (h : cursor.valid = true) : regionWalk regions steps cursor = climb (parentOf regions) steps cursor := by
  induction steps generalizing cursor with
  | zero => rfl
  | succ steps ih =>
    rw [regionWalk, if_pos h]
    cases hfind : findRegion regions cursor with
    | none =>
      have hnone : parentOf regions cursor = none := by rw [parentOf, hfind, Option.bind_none]
      rw [climb_succ_of_none hnone]
    | some r =>
      cases hparent : r.parent.valid with
      | false =>
        have hnone : parentOf regions cursor = none := by
          rw [parentOf, hfind, Option.bind_some, hparent, if_neg Bool.false_ne_true]
        have hend : regionWalk regions steps r.parent = [] := by
          cases steps with
          | zero => rfl
          | succ steps => rw [regionWalk, hparent, if_neg Bool.false_ne_true]
        rw [climb_succ_of_none hnone]
        exact congrArg (cursor :: ·) hend
      | true =>
        have hsome : parentOf regions cursor = some r.parent := by
          rw [parentOf, hfind, Option.bind_some, if_pos hparent]
        rw [climb_succ_of_some hsome]
        exact congrArg (cursor :: ·) (ih hparent)

section Built

variable {s : TopologySnapshot} (hs : s.built = true)
include hs

theorem built_acyclic : Acyclic (parentOf s.tables.regions) := by
  obtain ⟨hwell, hstrict⟩ := wellFormed_of_built hs
  have h := (acyclic_iff (sortBy_strict hwell.regionIds.2) hwell.regionIds.1).mpr hwell.acyclic
  rwa [sortBy_eq_self (hstrict.imp le_of_lt)] at h

theorem lineage_chain {r : Resource} (hr : r ∈ s.tables.resources) :
    Lineage (parentOf s.tables.regions) r.region
        (regionWalk s.tables.regions (s.tables.regions.length + 1) r.region) ∧
      (regionWalk s.tables.regions (s.tables.regions.length + 1) r.region).Nodup := by
  obtain ⟨hwell, hstrict⟩ := wellFormed_of_built hs
  obtain ⟨g, hg, hregion⟩ := hwell.homes r hr
  have hvalid : r.region.valid = true := hregion ▸ hwell.regionIds.1 g hg
  have hclosed : ∀ a ∈ s.tables.regions.map Region.id, ∀ b, parentOf s.tables.regions a = some b →
      b ∈ s.tables.regions.map Region.id := by
    intro a _ b hab
    obtain ⟨r, hr, -, rfl, hb⟩ := (next_iff hstrict hwell.regionIds.1).mp hab
    obtain ⟨p, hp, hid⟩ := hwell.parents r hr hb
    exact List.mem_map.mpr ⟨p, hp, hid⟩
  have hends := ends_of_acyclic (built_acyclic hs) hclosed (List.mem_map.mpr ⟨g, hg, hregion⟩)
  rw [List.length_map] at hends
  rw [regionWalk_eq_climb _ hvalid]
  exact ⟨lineage_climb (ends_succ hends), nodup_climb (built_acyclic hs) _ _⟩

theorem chain_tables : s.tables.chainIds = (chainsOf s.tables).flatten ∧
    s.tables.chainOffsets = (Csr.offsets ((chainsOf s.tables).map List.length)).map narrowOffset := by
  obtain ⟨degree, -, ht⟩ := (built_validated hs).index
  generalize s.tables = t at ht
  rw [ht]
  exact ⟨rfl, rfl⟩

omit hs in
theorem length_chainsOf (t : Tables) : (chainsOf t).length = t.resources.length := by
  rw [chainsOf, List.length_map]

omit hs in
theorem getElem?_chainsOf {t : Tables} {i : ℕ} {r : Resource} (hi : t.resources[i]? = some r) :
    (chainsOf t)[i]? = some (regionWalk t.regions (t.regions.length + 1) r.region) := by
  rw [chainsOf, List.getElem?_map, hi]
  rfl

theorem getD_chainOffsets {i : ℕ} (hi : i ≤ s.tables.resources.length) :
    s.tables.chainOffsets.getD i 0 = narrowOffset (chainStart s.tables i) := by
  have hlength : ((chainsOf s.tables).map List.length).length = s.tables.resources.length := by
    rw [List.length_map, length_chainsOf]
  have hstart := start_eq_sum (c := (chainsOf s.tables).map List.length) (i := i) (by omega)
  have hlt : i < (Csr.offsets ((chainsOf s.tables).map List.length)).length := by
    rw [Csr.length_offsets]
    omega
  rw [Csr.start, List.getD_eq_getElem?_getD, List.getElem?_eq_getElem hlt, Option.getD_some] at hstart
  rw [(chain_tables hs).2, List.getD_eq_getElem?_getD, List.getElem?_map, List.getElem?_eq_getElem hlt, hstart]
  rfl

omit hs in
theorem chainStart_succ {t : Tables} {i : ℕ} {r : Resource} (hi : t.resources[i]? = some r) :
    chainStart t (i + 1) =
      chainStart t i + (regionWalk t.regions (t.regions.length + 1) r.region).length := by
  have hlength : ((chainsOf t).map List.length)[i]? =
      some (regionWalk t.regions (t.regions.length + 1) r.region).length := by
    rw [List.getElem?_map, getElem?_chainsOf hi]
    rfl
  rw [chainStart, List.take_add_one, List.sum_append, hlength, chainStart]
  simp

theorem length_chain_lt {r : Resource} (hr : r ∈ s.tables.resources) :
    (regionWalk s.tables.regions (s.tables.regions.length + 1) r.region).length < 2 ^ 32 := by
  obtain ⟨hwell, -⟩ := wellFormed_of_built hs
  obtain ⟨g, hg, hregion⟩ := hwell.homes r hr
  have hvalid : r.region.valid = true := hregion ▸ hwell.regionIds.1 g hg
  have hle := @length_climb_le _ (parentOf s.tables.regions) (s.tables.regions.length + 1) r.region
  have hcount := hwell.regionCount
  have hmax : Limits.kMaxRegions < 2 ^ 31 := by decide
  rw [regionWalk_eq_climb _ hvalid]
  omega

theorem findIndex_resource {i : ℕ} {r : Resource} (hi : s.tables.resources[i]? = some r) :
    r.id.valid = true ∧ findIndex Resource.id r.id s.resources = some i :=
  ⟨(built_validated hs).resourceValid r (List.mem_of_getElem? hi),
    (built_validated hs).resourcesStrict.findIndex_getElem hi⟩

theorem regionChain_eq {i : ℕ} {r : Resource} (hi : s.tables.resources[i]? = some r) :
    s.regionChain r.id = ((chainsOf s.tables).flatten.drop (chainStart s.tables i % 2 ^ 32)).take
      (regionWalk s.tables.regions (s.tables.regions.length + 1) r.region).length := by
  obtain ⟨hvalid, hindex⟩ := findIndex_resource hs hi
  have hlt := (List.getElem?_eq_some_iff.mp hi).1
  have hlength := length_chain_lt hs (List.mem_of_getElem? hi)
  have hspan : narrowOffset (narrowOffset (chainStart s.tables (i + 1)) + 2 ^ 32 -
      narrowOffset (chainStart s.tables i)) =
      (regionWalk s.tables.regions (s.tables.regions.length + 1) r.region).length := by
    rw [chainStart_succ hi]
    simp only [narrowOffset]
    omega
  simp only [TopologySnapshot.regionChain, hs, hvalid, Bool.not_true, Bool.or_self, Bool.false_eq_true, if_false,
    hindex]
  rw [getD_chainOffsets hs (show i ≤ _ by omega), getD_chainOffsets hs (show i + 1 ≤ _ by omega), hspan,
    (chain_tables hs).1]
  rfl

/-- Where every stored chain can be found again: at its start, or at its start reduced to 32 bits. -/
def ChainsFound (t : Tables) : Prop :=
  ∀ (i : ℕ) (r : Resource), t.resources[i]? = some r → 2 ^ 32 ≤ chainStart t i →
    (chainsOf t).flatten[chainStart t i % 2 ^ 32]? = some r.region

theorem getElem?_flatten_start {i : ℕ} {r : Resource} (hi : s.tables.resources[i]? = some r) :
    (chainsOf s.tables).flatten[chainStart s.tables i]? = some r.region := by
  have hlt : i < (chainsOf s.tables).length := by
    rw [length_chainsOf]
    exact (List.getElem?_eq_some_iff.mp hi).1
  have hchain := getElem?_chainsOf hi
  rw [List.getElem?_eq_getElem hlt, Option.some_inj] at hchain
  have hhead := (lineage_chain hs (List.mem_of_getElem? hi)).1.head
  have hdrop := List.drop_take_succ_flatten_eq_getElem (chainsOf s.tables) i hlt
  rw [hchain] at hdrop
  rw [← hdrop, List.getElem?_drop, add_zero, List.getElem?_take] at hhead
  split at hhead
  · exact hhead
  · cases hhead

/-- Where the narrowed offset points at the region of a resource, the whole chain follows: a chain is
determined by the region it starts with. -/
theorem regionChain_eq_chain {i : ℕ} {r : Resource} (hi : s.tables.resources[i]? = some r)
    (hfound : (chainsOf s.tables).flatten[chainStart s.tables i % 2 ^ 32]? = some r.region) :
    s.regionChain r.id = regionWalk s.tables.regions (s.tables.regions.length + 1) r.region := by
  obtain ⟨chain, hchain, k, rest, hk, hdrop⟩ := exists_drop_flatten hfound
  obtain ⟨r', hr', rfl⟩ := List.mem_map.mp hchain
  have hsuffix := (lineage_chain hs hr').1.drop hk
  have hunique := hsuffix.unique (lineage_chain hs (List.mem_of_getElem? hi)).1
  rw [regionChain_eq hs hi, hdrop, hunique, List.take_left]

/-- A lookup finds the chain of its resource exactly when the offset it is narrowed to holds the region
of the resource. -/
theorem lineage_regionChain_iff {i : ℕ} {r : Resource} (hi : s.tables.resources[i]? = some r) :
    (Lineage (parentOf s.tables.regions) r.region (s.regionChain r.id) ∧ (s.regionChain r.id).Nodup) ↔
      (chainsOf s.tables).flatten[chainStart s.tables i % 2 ^ 32]? = some r.region := by
  have hchain := lineage_chain hs (List.mem_of_getElem? hi)
  constructor
  · intro h
    have hhead := h.1.head
    rw [regionChain_eq hs hi, List.getElem?_take] at hhead
    split at hhead
    · rwa [List.getElem?_drop, add_zero] at hhead
    · cases hhead
  · intro hfound
    rw [regionChain_eq_chain hs hi hfound]
    exact hchain

theorem chainsFound_iff : (∀ r ∈ s.resources, Lineage (parentOf s.tables.regions) r.region (s.regionChain r.id) ∧
    (s.regionChain r.id).Nodup) ↔ ChainsFound s.tables := by
  constructor
  · intro h i r hi _
    exact (lineage_regionChain_iff hs hi).mp (h r (List.mem_of_getElem? hi))
  · intro h r hr
    obtain ⟨i, hi⟩ := List.mem_iff_getElem?.mp hr
    rw [lineage_regionChain_iff hs hi]
    rcases Nat.lt_or_ge (chainStart s.tables i) (2 ^ 32) with hlt | hge
    · rw [Nat.mod_eq_of_lt hlt]
      exact getElem?_flatten_start hs hi
    · exact h i r hi hge

theorem neighbors_strict (a : ResourceId) : Strict id (s.neighbors a) := by
  unfold TopologySnapshot.neighbors
  split
  · exact List.Pairwise.nil
  · cases hindex : findIndex Resource.id a s.resources with
    | none => exact List.Pairwise.nil
    | some i =>
      obtain ⟨r, hr, -⟩ := findIndex_eq_some hindex
      have hv := built_validated hs
      have hrow := hv.row_eq (List.getElem?_eq_some_iff.mp hr).1
      have hnodup : ((Csr.bucket (arcs s.tables.resources s.tables.links) i).map id).Nodup := by
        rw [List.map_id]
        exact hv.bucket_nodup i
      dsimp only
      rw [hrow]
      exact sortBy_strict hnodup

theorem adjacent_irrefl (a : ResourceId) : ¬Adjacent s.links a a := by
  rintro ⟨l, hl, ⟨hA, hB⟩ | ⟨hB, hA⟩⟩ <;>
    exact (built_validated hs).linkDistinct l hl (hA.trans hB.symm)

omit hs in
theorem neighbors_of_unknown {a : ResourceId} (h : ¬∃ r ∈ s.resources, r.id = a) : s.neighbors a = [] := by
  unfold TopologySnapshot.neighbors
  split
  · rfl
  · cases hindex : findIndex Resource.id a s.resources with
    | none => rfl
    | some i =>
      obtain ⟨r, hr, hid, -⟩ := findIndex_eq_some hindex
      exact absurd ⟨r, List.mem_of_getElem? hr, hid⟩ h

/-- Every index into the two compressed tables is inside them: while the rows are filled, while they are
sorted one after another, and when a row or a chain is looked up. -/
structure InRange (t : Tables) : Prop where
  filled : ∀ (done rest : List (ℕ × ResourceId)) (e : ℕ × ResourceId),
    arcs t.resources t.links = done ++ e :: rest →
      let offsets := Csr.offsets (Csr.counts t.resources.length (arcs t.resources t.links))
      let st := done.foldl Csr.place (offsets.dropLast, List.replicate (offsets.getLastD 0) default)
      e.1 < t.resources.length ∧ e.1 < st.1.length ∧ st.1.getD e.1 0 < st.2.length
  sorted : ∀ i < t.resources.length,
    let offsets := Csr.offsets (Csr.counts t.resources.length (arcs t.resources t.links))
    let st := Csr.uniqueRows id i offsets (Csr.fill offsets default (arcs t.resources t.links))
    i + 1 < st.1.length ∧ Csr.start st.1 i ≤ Csr.start st.1 (i + 1) ∧ Csr.start st.1 (i + 1) ≤ st.2.length
  rows : ∀ i < t.resources.length, i + 1 < t.neighborOffsets.length ∧
    Csr.start t.neighborOffsets i ≤ Csr.start t.neighborOffsets (i + 1) ∧
    Csr.start t.neighborOffsets (i + 1) ≤ t.neighborIds.length
  chains : ∀ i < t.resources.length, i + 1 < t.chainOffsets.length ∧
    t.chainOffsets.getD i 0 + narrowOffset (t.chainOffsets.getD (i + 1) 0 + 2 ^ 32 -
      t.chainOffsets.getD i 0) ≤ t.chainIds.length

theorem chain_in_range {i : ℕ} {r : Resource} (hi : s.tables.resources[i]? = some r) :
    chainStart s.tables i % 2 ^ 32 +
      (regionWalk s.tables.regions (s.tables.regions.length + 1) r.region).length ≤ s.tables.chainIds.length := by
  have hlt := (List.getElem?_eq_some_iff.mp hi).1
  have hle : chainStart s.tables (i + 1) ≤ ((chainsOf s.tables).map List.length).sum :=
    (List.take_sublist _ _).sum_le_sum (fun _ _ ↦ Nat.zero_le _)
  have hmod := Nat.mod_le (chainStart s.tables i) (2 ^ 32)
  rw [chainStart_succ hi] at hle
  rw [(chain_tables hs).1, List.length_flatten]
  omega

theorem inRange : InRange s.tables where
  filled := by
    intro done rest e hsplit
    have hv := built_validated hs
    refine ⟨hv.row_lt (by rw [hsplit]; simp), ?_⟩
    exact Csr.place_in_range default (fun e he ↦ hv.row_lt he) hsplit
  sorted := by
    intro i hi
    obtain ⟨ids, hrows, hlength, -⟩ := (built_validated hs).neighbor_table hi.le
    dsimp only
    rw [hrows]
    exact Csr.row_in_range (by rwa [Csr.length_counts]) hlength
  rows := by
    intro i hi
    obtain ⟨hoffsets, hlength, -⟩ := (built_validated hs).neighbor_index
    rw [hoffsets]
    exact Csr.row_in_range (by rwa [Csr.length_counts]) hlength
  chains := by
    intro i hi
    have hr := List.getElem?_eq_getElem hi
    have hlength := length_chain_lt hs (List.mem_of_getElem? hr)
    have hrange := chain_in_range hs hr
    constructor
    · rw [(chain_tables hs).2, List.length_map, Csr.length_offsets, List.length_map, length_chainsOf]
      omega
    · rw [getD_chainOffsets hs (show i ≤ _ by omega), getD_chainOffsets hs (show i + 1 ≤ _ by omega),
        chainStart_succ hr]
      simp only [narrowOffset]
      omega

end Built

/-- The index of a topology answers exactly what its entries say. -/
structure IndexExact (s : TopologySnapshot) : Prop where
  strict : ∀ a, Strict id (s.neighbors a)
  adjacent : ∀ a b, b ∈ s.neighbors a ↔ Adjacent s.links a b
  symm : ∀ a b, b ∈ s.neighbors a → a ∈ s.neighbors b
  irrefl : ∀ a, a ∉ s.neighbors a
  unknown : ∀ a, (¬∃ r ∈ s.resources, r.id = a) → s.neighbors a = []
  chains : ∀ r ∈ s.resources,
    Lineage (parentOf s.tables.regions) r.region (s.regionChain r.id) ∧ (s.regionChain r.id).Nodup
  inRange : InRange s.tables

/-- The adjacency is always exact; the chains are as long as the narrowed offset of each one still points
at the region it starts with. -/
theorem indexExact_iff (s : TopologySnapshot) (hs : s.built = true) : IndexExact s ↔ ChainsFound s.tables := by
  rw [← chainsFound_iff hs]
  constructor
  · exact IndexExact.chains
  · intro hchains
    refine ⟨neighbors_strict hs, fun a b ↦ mem_neighbors hs, ?_, ?_, fun a ↦ neighbors_of_unknown, hchains,
      inRange hs⟩
    · intro a b hb
      exact (mem_neighbors hs).mpr ((mem_neighbors hs).mp hb).symm
    · intro a ha
      exact adjacent_irrefl hs a ((mem_neighbors hs).mp ha)

theorem chainsFound_of_sum {t : Tables} (h : ((chainsOf t).map List.length).sum < 2 ^ 32) : ChainsFound t := by
  intro i r _ hfar
  have hle : chainStart t i ≤ ((chainsOf t).map List.length).sum :=
    (List.take_sublist _ _).sum_le_sum (fun _ _ ↦ Nat.zero_le _)
  omega

def threeSwitchTopology : TopologySnapshot := Reporting.threeSwitches.toOption.get (by decide +kernel)

theorem indexExact_threeSwitches : IndexExact threeSwitchTopology :=
  (indexExact_iff threeSwitchTopology (by decide +kernel)).mpr (chainsFound_of_sum (by decide +kernel))

section Deep

open Rows

/-- A region in a line of regions, each the parent of the one before it. -/
def deepRegion (depth i : ℕ) : Region :=
  ⟨numbered i, [], if i + 1 < depth then numbered (i + 1) else default⟩

/-- Many resources below the whole line, and one more at its top. -/
def deepResource (depth i : ℕ) : Resource :=
  ⟨numbered i, if i < depth then numbered 0 else numbered (depth - 1), .switch, []⟩

def deepCalls (depth : ℕ) : List TopologyCall :=
  (List.range depth).map (fun i ↦ .addRegion (deepRegion depth i).id [] (deepRegion depth i).parent) ++
    (List.range (depth + 1)).map (fun i ↦
      .addResource (deepResource depth i).id (deepResource depth i).region .switch [])

variable {depth : ℕ}

theorem deepCalls_regions :
    (deepCalls depth).filterMap TopologyCall.region? = (List.range depth).map (deepRegion depth) := by
  rw [deepCalls, List.filterMap_append, List.filterMap_map, List.filterMap_map]
  have hregion : TopologyCall.region? ∘ (fun i ↦ TopologyCall.addRegion (deepRegion depth i).id []
      (deepRegion depth i).parent) = fun i ↦ some (deepRegion depth i) := rfl
  have hresource : TopologyCall.region? ∘ (fun i ↦ TopologyCall.addResource (deepResource depth i).id
      (deepResource depth i).region .switch []) = fun _ ↦ none := rfl
  rw [hregion, hresource, List.filterMap_none, List.append_nil, ← List.filterMap_eq_map]
  rfl

theorem deepCalls_resources :
    (deepCalls depth).filterMap TopologyCall.resource? = (List.range (depth + 1)).map (deepResource depth) := by
  rw [deepCalls, List.filterMap_append, List.filterMap_map, List.filterMap_map]
  have hregion : TopologyCall.resource? ∘ (fun i ↦ TopologyCall.addRegion (deepRegion depth i).id []
      (deepRegion depth i).parent) = fun _ ↦ none := rfl
  have hresource : TopologyCall.resource? ∘ (fun i ↦ TopologyCall.addResource (deepResource depth i).id
      (deepResource depth i).region .switch []) = fun i ↦ some (deepResource depth i) := rfl
  rw [hregion, hresource, List.filterMap_none, List.nil_append, ← List.filterMap_eq_map]
  rfl

theorem deepCalls_links : (deepCalls depth).filterMap TopologyCall.link? = [] := by
  have hregion : TopologyCall.link? ∘ (fun i ↦ TopologyCall.addRegion (deepRegion depth i).id []
      (deepRegion depth i).parent) = fun _ ↦ none := rfl
  have hresource : TopologyCall.link? ∘ (fun i ↦ TopologyCall.addResource (deepResource depth i).id
      (deepResource depth i).region .switch []) = fun _ ↦ none := rfl
  rw [deepCalls, List.filterMap_append, List.filterMap_map, List.filterMap_map, hregion, hresource,
    List.filterMap_none, List.filterMap_none, List.append_nil]

theorem deepRegions_strict (hd : depth < 2 ^ 31) :
    Strict Region.id ((List.range depth).map (deepRegion depth)) :=
  strict_range (fun _ _ hij hj ↦ numbered_lt hij (by omega))

theorem deepResources_strict (hd : depth < 2 ^ 31) :
    Strict Resource.id ((List.range (depth + 1)).map (deepResource depth)) :=
  strict_range (fun _ _ hij hj ↦ numbered_lt hij (by omega))

theorem mem_deepRegions {r : Region} : r ∈ (List.range depth).map (deepRegion depth) ↔
    ∃ i < depth, deepRegion depth i = r := by
  simp only [List.mem_map, List.mem_range]

theorem deep_parent_lt (hd : depth < 2 ^ 31) {a b : RegionId}
    (h : ParentOf ((List.range depth).map (deepRegion depth)) a b) : a < b := by
  obtain ⟨r, hr, rfl, rfl, hvalid⟩ := h
  obtain ⟨i, hi, rfl⟩ := mem_deepRegions.mp hr
  by_cases hnext : i + 1 < depth
  · have hparent : (deepRegion depth i).parent = numbered (i + 1) := if_pos hnext
    rw [hparent]
    exact numbered_lt (Nat.lt_succ_self i) (by omega)
  · have hparent : (deepRegion depth i).parent = default := if_neg hnext
    rw [hparent] at hvalid
    cases hvalid

theorem deep_wellFormed (h₁ : 0 < depth) (h₂ : depth ≤ Limits.kMaxRegions) :
    WellFormed ((List.range depth).map (deepRegion depth))
      ((List.range (depth + 1)).map (deepResource depth)) [] := by
  have hmax : Limits.kMaxRegions = 2 ^ 16 ∧ Limits.kMaxResources = 2 ^ 20 := ⟨rfl, rfl⟩
  have hregion : ∀ i < depth, deepRegion depth i ∈ (List.range depth).map (deepRegion depth) :=
    fun i hi ↦ mem_deepRegions.mpr ⟨i, hi, rfl⟩
  refine ⟨by simpa using h₂, by simp; omega, Nat.zero_le _, ⟨?_, ?_⟩, ?_, ?_, ⟨?_, ?_⟩, ?_, ?_,
    List.Pairwise.nil,
    fun _ _ ↦ Nat.zero_le _⟩
  · intro r hr
    obtain ⟨i, hi, rfl⟩ := mem_deepRegions.mp hr
    exact numbered_valid (by omega)
  · exact List.pairwise_map.mpr ((deepRegions_strict (by omega)).imp (fun h ↦ h.ne))
  · intro r hr hvalid
    obtain ⟨i, hi, rfl⟩ := mem_deepRegions.mp hr
    by_cases hnext : i + 1 < depth
    · exact ⟨_, hregion (i + 1) hnext, (if_pos hnext).symm⟩
    · have hparent : (deepRegion depth i).parent = default := if_neg hnext
      rw [hparent] at hvalid
      cases hvalid
  · intro a hcycle
    have hlt : ∀ b, Relation.TransGen (ParentOf ((List.range depth).map (deepRegion depth))) a b → a < b := by
      intro b hab
      induction hab with
      | single h => exact deep_parent_lt (by omega) h
      | tail _ h ih => exact ih.trans (deep_parent_lt (by omega) h)
    exact lt_irrefl a (hlt a hcycle)
  · intro r hr
    obtain ⟨i, hi, rfl⟩ := List.mem_map.mp hr
    exact numbered_valid (by have := List.mem_range.mp hi; omega)
  · exact List.pairwise_map.mpr ((deepResources_strict (by omega)).imp (fun h ↦ h.ne))
  · intro r hr
    obtain ⟨i, -, rfl⟩ := List.mem_map.mp hr
    by_cases hi : i < depth
    · exact ⟨_, hregion 0 h₁, (if_pos hi).symm⟩
    · exact ⟨_, hregion (depth - 1) (by omega), (if_neg hi).symm⟩
  · intro l hl
    cases hl

theorem build_tables {s s' : TopologySnapshot} (h : s.build = .ok s') :
    buildTables s.tables.regions s.tables.resources s.tables.links = .ok s'.tables ∧ s'.built = true := by
  obtain ⟨tables, htables, rfl⟩ := TopologySnapshot.build_iff.mp h
  exact ⟨htables, rfl⟩

theorem deep_builds (h₁ : 0 < depth) (h₂ : depth ≤ Limits.kMaxRegions) :
    ∃ s, (assembled (deepCalls depth)).build = .ok s ∧ s.built = true ∧
      s.tables.regions = (List.range depth).map (deepRegion depth) ∧
      s.tables.resources = (List.range (depth + 1)).map (deepResource depth) := by
  have hmax : Limits.kMaxRegions = 2 ^ 16 := rfl
  have hok : ∃ s, (assembled (deepCalls depth)).build = .ok s := by
    rw [build_isOk_iff, assembled_tables, buildTables_iff]
    refine ⟨named_added _, ?_⟩
    rw [deepCalls_regions, deepCalls_resources, deepCalls_links]
    exact deep_wellFormed h₁ h₂
  obtain ⟨s, hs⟩ := hok
  obtain ⟨htables, hbuilt⟩ := build_tables hs
  obtain ⟨degree, -, heq⟩ := buildTables_eq htables
  rw [assembled_tables, deepCalls_regions, deepCalls_resources] at heq
  refine ⟨s, hs, hbuilt, ?_, ?_⟩
  · rw [heq]
    exact sortBy_eq_self ((deepRegions_strict (by omega)).imp le_of_lt)
  · rw [heq]
    exact sortBy_eq_self ((deepResources_strict (by omega)).imp le_of_lt)

theorem deep_lineage (hd : depth < 2 ^ 31) {i m : ℕ} (him : i + (m + 1) = depth) :
    Lineage (parentOf ((List.range depth).map (deepRegion depth))) (numbered i)
      ((List.range' i (m + 1)).map numbered) := by
  have hvalid : ∀ r ∈ (List.range depth).map (deepRegion depth), r.id.valid = true := by
    intro r hr
    obtain ⟨j, hj, rfl⟩ := mem_deepRegions.mp hr
    exact numbered_valid (by omega)
  have hfind : ∀ j < depth, parentOf ((List.range depth).map (deepRegion depth)) (numbered j) =
      if (deepRegion depth j).parent.valid then some (deepRegion depth j).parent else none := by
    intro j hj
    have hmem := findRegion_of_mem (deepRegions_strict hd) hvalid (mem_deepRegions.mpr ⟨j, hj, rfl⟩)
    have hid : (deepRegion depth j).id = numbered j := rfl
    rw [parentOf, ← hid, hmem, Option.bind_some]
  induction m generalizing i with
  | zero =>
    refine .top ?_
    have hparent : (deepRegion depth i).parent = default := if_neg (by omega)
    rw [hfind i (by omega), hparent]
    rfl
  | succ m ih =>
    refine .above ?_ (ih (show i + 1 + (m + 1) = depth by omega))
    have hparent : (deepRegion depth i).parent = numbered (i + 1) := if_pos (by omega)
    rw [hfind i (by omega), hparent, if_pos (numbered_valid (by omega))]

/-- Where the chains below the line add up to the range of the offsets, the resource at its top is
answered with the bottom of the line. -/
theorem deep_not_found (h₁ : 1 < depth) (h₂ : depth ≤ Limits.kMaxRegions) (h₃ : depth * depth = 2 ^ 32) :
    ∃ s, (assembled (deepCalls depth)).build = .ok s ∧ s.built = true ∧ ¬ChainsFound s.tables := by
  have hmax : Limits.kMaxRegions = 2 ^ 16 := rfl
  obtain ⟨s, hs, hbuilt, hregions, hresources⟩ := deep_builds (by omega) h₂
  have hget : ∀ i < depth + 1, s.tables.resources[i]? = some (deepResource depth i) := by
    intro i hi
    rw [hresources, List.getElem?_map, List.getElem?_range hi]
    rfl
  have hchain : ∀ i < depth, (regionWalk s.tables.regions (s.tables.regions.length + 1)
      (deepResource depth i).region).length = depth := by
    intro i hi
    have hregion : (deepResource depth i).region = numbered 0 := if_pos hi
    have hlineage := (lineage_chain hbuilt (List.mem_of_getElem? (hget i (by omega)))).1
    obtain ⟨m, hm⟩ : ∃ m, depth = m + 1 := ⟨depth - 1, by omega⟩
    rw [hregion, hregions] at hlineage
    have hunique := hlineage.unique (deep_lineage (by omega) (show 0 + (m + 1) = depth by omega))
    rw [hregion, hregions, hunique, List.length_map, List.length_range', hm]
  have hstart : ∀ i ≤ depth, chainStart s.tables i = i * depth := by
    intro i hi
    induction i with
    | zero => rw [chainStart, List.take_zero, List.sum_nil, Nat.zero_mul]
    | succ i ih =>
      rw [chainStart_succ (hget i (by omega)), ih (by omega), hchain i (by omega), Nat.succ_mul]
  refine ⟨s, hs, hbuilt, ?_⟩
  intro hfound
  have htop := hfound depth _ (hget depth (by omega)) (by rw [hstart depth le_rfl, h₃])
  have hbottom := getElem?_flatten_start hbuilt (hget 0 (by omega))
  rw [hstart depth le_rfl, h₃, Nat.mod_self] at htop
  rw [hstart 0 (by omega), Nat.zero_mul, htop] at hbottom
  have hne : (deepResource depth depth).region = numbered 0 := by
    have hzero : (deepResource depth 0).region = numbered 0 := if_pos (by omega)
    rw [← hzero]
    exact Option.some.inj hbottom
  have htopRegion : (deepResource depth depth).region = numbered (depth - 1) := if_neg (by omega)
  rw [htopRegion] at hne
  exact (numbered_lt (show 0 < depth - 1 by omega) (by omega)).ne' hne

/-- A topology within every limit whose chain offsets do not fit 32 bits. -/
theorem deep_line_misread : ∃ s, (assembled (deepCalls 65536)).build = .ok s ∧ s.built = true ∧
    ¬IndexExact s := by
  obtain ⟨s, hs, hbuilt, hnot⟩ := @deep_not_found 65536 (by norm_num) (by decide) (by norm_num)
  exact ⟨s, hs, hbuilt, fun h ↦ hnot ((chainsFound_iff hbuilt).mp h.chains)⟩

end Deep

end HotspotGovernor.Chains
