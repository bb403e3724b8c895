import HotspotGovernor.Topology

namespace HotspotGovernor.TopologyIndex

open Foundation Lib Topology SortedList

section CheckAll

variable {α κ : Type} [LinearOrder κ] {key : α → κ} {check : Option α → α → Status}

theorem checkAll_cons {prev : Option α} {x : α} {xs : List α} :
    checkAll check prev (x :: xs) = .ok () ↔
      check prev x = .ok () ∧ checkAll check (some x) xs = .ok () := by
  rw [checkAll]
  cases check prev x <;> simp

theorem checkAll_forall {prev : Option α} {xs : List α} (h : checkAll check prev xs = .ok ())
    {x : α} (hx : x ∈ xs) : ∃ p, check p x = .ok () := by
  induction xs generalizing prev with
  | nil => cases hx
  | cons y ys ih =>
    obtain ⟨hy, hys⟩ := checkAll_cons.mp h
    rcases List.mem_cons.mp hx with rfl | hx
    · exact ⟨prev, hy⟩
    · exact ih hys hx

theorem checkAll_strict (hcheck : ∀ p x, check (some p) x = .ok () → key p ≠ key x) {xs : List α}
    (hsorted : xs.Pairwise (fun a b ↦ key a ≤ key b)) {prev : Option α}
    (h : checkAll check prev xs = .ok ()) : Strict key xs := by
  induction xs generalizing prev with
  | nil => exact List.Pairwise.nil
  | cons x xs ih =>
    obtain ⟨-, hxs⟩ := checkAll_cons.mp h
    obtain ⟨hx, hs⟩ := List.pairwise_cons.mp hsorted
    refine List.pairwise_cons.mpr ⟨?_, ih hs hxs⟩
    intro y hy
    cases xs with
    | nil => cases hy
    | cons z zs =>
      have hz := hcheck x z (checkAll_cons.mp hxs).1
      have hlt : key x < key z := lt_of_le_of_ne (hx z (by simp)) hz
      rcases List.mem_cons.mp hy with rfl | hy
      · exact hlt
      · exact hlt.trans_le ((List.pairwise_cons.mp hs).1 y hy)

end CheckAll

theorem bind_eq_ok {α β : Type} {x : Result α} {f : α → Result β} {b : β} (h : x >>= f = .ok b) :
    ∃ a, x = .ok a ∧ f a = .ok b := by
  cases x with
  | error e => cases h
  | ok a => exact ⟨a, rfl, h⟩

/-- Everything the source checks before it builds the index, and the index it builds. -/
structure Validated (t : Tables) : Prop where
  resourceCount : t.resources.length ≤ Limits.kMaxResources
  resourcesStrict : Strict Resource.id t.resources
  resourceValid : ∀ r ∈ t.resources, r.id.valid = true
  linksStrict : Strict Link.ends t.links
  linkDistinct : ∀ l ∈ t.links, l.endpointA ≠ l.endpointB
  linkKnown : ∀ l ∈ t.links, (∃ r ∈ t.resources, r.id = l.endpointA) ∧
    ∃ r ∈ t.resources, r.id = l.endpointB
  index : ∃ degree, countDegrees t.resources t.links = .ok degree ∧
    t = indexTables t.regions t.resources t.links degree

theorem ends_ne_of_not_samePair {p l : Link} (h : samePair p l = false) : p.ends ≠ l.ends := by
  intro he
  apply Bool.false_ne_true
  rw [← h]
  unfold Link.ends at he
  unfold samePair
  split at he <;> split at he <;>
    · have he' := toLex.injective he
      rw [Prod.mk.injEq] at he'
      simp [he'.1, he'.2]

theorem checkLink_ok {resources : List Resource} {prev : Option Link} {link : Link}
    (h : checkLink resources prev link = .ok ()) :
    link.endpointA ≠ link.endpointB ∧ (∃ r ∈ resources, r.id = link.endpointA) ∧
      (∃ r ∈ resources, r.id = link.endpointB) ∧ ∀ p, prev = some p → samePair p link = false := by
  unfold checkLink at h
  have hfind : ∀ id, ¬ findResource resources id = none → ∃ r ∈ resources, r.id = id := by
    intro id hid
    unfold findResource at hid
    split at hid
    · obtain ⟨r, hr⟩ := Option.ne_none_iff_exists'.mp hid
      exact ⟨r, mem_of_find hr⟩
    · exact absurd rfl hid
  split at h
  · cases h
  · split at h
    · cases h
    · next hne =>
      split at h
      · cases h
      · next hk =>
        rw [not_or] at hk
        split at h
        · cases h
        · next hp =>
          refine ⟨hne, hfind _ hk.1, hfind _ hk.2, ?_⟩
          rintro p rfl
          simpa using hp

theorem checkResource_ok {regions : List Region} {prev : Option Resource} {r : Resource}
    (h : checkResource regions prev r = .ok ()) :
    r.id.valid = true ∧ ∀ p, prev = some p → p.id ≠ r.id := by
  unfold checkResource at h
  split at h
  · cases h
  · next hv =>
    split at h
    · cases h
    · next hp =>
      refine ⟨by simpa using hv, ?_⟩
      rintro p rfl
      simpa [eq_comm] using hp

theorem buildTables_ok {regions : List Region} {resources : List Resource} {links : List Link}
    {t : Tables} (h : buildTables regions resources links = .ok t) : Validated t := by
  unfold buildTables at h
  split at h
  · cases h
  · split at h
    · cases h
    · next hcount =>
      split at h
      · cases h
      · unfold validateAndIndex at h
        obtain ⟨_, -, h⟩ := bind_eq_ok h
        obtain ⟨_, -, h⟩ := bind_eq_ok h
        obtain ⟨_, -, h⟩ := bind_eq_ok h
        obtain ⟨_, hres, h⟩ := bind_eq_ok h
        obtain ⟨_, hlinks, h⟩ := bind_eq_ok h
        obtain ⟨degree, hdeg, h⟩ := bind_eq_ok h
        obtain rfl : indexTables _ _ _ degree = t := Except.ok.inj h
        have hlink := fun l (hl : l ∈ sortBy Link.ends links) ↦ checkAll_forall hlinks hl
        refine ⟨?_, ?_, ?_, ?_, ?_, ?_, degree, hdeg, rfl⟩
        · simpa [indexTables] using hcount
        · refine checkAll_strict (fun p x hx ↦ ?_) (sortBy_pairwise _) hres
          exact (checkResource_ok hx).2 p rfl
        · intro r hr
          obtain ⟨p, hp⟩ := checkAll_forall hres hr
          exact (checkResource_ok hp).1
        · refine checkAll_strict (fun p x hx ↦ ?_) (sortBy_pairwise _) hlinks
          exact ends_ne_of_not_samePair ((checkLink_ok hx).2.2.2 p rfl)
        · intro l hl
          obtain ⟨p, hp⟩ := hlink l hl
          exact (checkLink_ok hp).1
        · intro l hl
          obtain ⟨p, hp⟩ := hlink l hl
          exact ⟨(checkLink_ok hp).2.1, (checkLink_ok hp).2.2.1⟩

theorem built_validated {s : TopologySnapshot} (h : s.built = true) : Validated s.tables := by
  obtain ⟨_, _, _, hb⟩ := s.indexed h
  exact buildTables_ok hb

theorem foldlM_bumpDegree {es : List (ℕ × ResourceId)} {degree degree' : List ℕ}
    (h : es.foldlM (fun d e ↦ bumpDegree d e.1) degree = .ok degree') :
    degree' = es.foldl (fun c e ↦ c.modify e.1 (· + 1)) degree := by
  induction es generalizing degree with
  | nil => exact (Except.ok.inj h).symm
  | cons e es ih =>
    rw [List.foldlM_cons] at h
    obtain ⟨d, hd, h⟩ := bind_eq_ok h
    simp only [bumpDegree] at hd
    split at hd
    · cases hd
    · obtain rfl := Except.ok.inj hd
      exact ih h

theorem countDegrees_eq {resources : List Resource} {links : List Link} {degree : List ℕ}
    (h : countDegrees resources links = .ok degree) :
    degree = Csr.counts resources.length (arcs resources links) := foldlM_bumpDegree h

theorem getD_modify_succ (degree : List ℕ) (k row : ℕ) :
    (degree.modify k (· + 1)).getD row 0 ≤ degree.getD row 0 + if k = row then 1 else 0 := by
  rw [List.getD_eq_getElem?_getD, List.getD_eq_getElem?_getD, List.getElem?_modify]
  cases degree[row]? with
  | none => simp
  | some d =>
    split
    · simp
    · simp

theorem foldlM_bumpDegree_ok {es : List (ℕ × ResourceId)} {degree : List ℕ}
    (h : ∀ row, degree.getD row 0 + es.countP (fun e ↦ e.1 = row) ≤ Limits.kMaxNeighborsPerResource) :
    ∃ degree', es.foldlM (fun d e ↦ bumpDegree d e.1) degree = .ok degree' := by
  induction es generalizing degree with
  | nil => exact ⟨degree, rfl⟩
  | cons e es ih =>
    have hbump : bumpDegree degree e.1 = .ok (degree.modify e.1 (· + 1)) := by
      have hrow := h e.1
      have hmod := getD_modify_succ degree e.1 e.1
      rw [List.countP_cons_of_pos (by simp)] at hrow
      rw [if_pos rfl] at hmod
      exact if_neg (by omega)
    rw [List.foldlM_cons, hbump]
    apply ih
    intro row
    have hrow := h row
    have hmod := getD_modify_succ degree e.1 row
    rw [List.countP_cons] at hrow
    simp only [decide_eq_true_eq] at hrow
    omega

theorem ends_comm_eq {l l' : Link} (h : (l.endpointA = l'.endpointA ∧ l.endpointB = l'.endpointB) ∨
    (l.endpointA = l'.endpointB ∧ l.endpointB = l'.endpointA)) (hne : l.endpointA ≠ l.endpointB) :
    l.ends = l'.ends := by
  unfold Link.ends
  rcases h with ⟨ha, hb⟩ | ⟨ha, hb⟩
  · rw [ha, hb]
  · rw [ha, hb]
    rw [ha, hb] at hne
    rcases lt_or_gt_of_ne hne with h | h
    · rw [if_pos h, if_neg (not_lt_of_gt h)]
    · rw [if_neg (not_lt_of_gt h), if_pos h]

variable {t : Tables} (ht : Validated t)
include ht

theorem Validated.index_of_mem {a : ResourceId} (ha : ∃ r ∈ t.resources, r.id = a) :
    ∃ r, t.resources[resourceIndex t.resources a]? = some r ∧ r.id = a := by
  obtain ⟨r, hr, rfl⟩ := ha
  obtain ⟨i, hi⟩ := List.mem_iff_getElem?.mp hr
  exact ⟨r, by rw [resourceIndex, ht.resourcesStrict.lowerBound_getElem hi, hi], rfl⟩

theorem Validated.index_lt {a : ResourceId} (ha : ∃ r ∈ t.resources, r.id = a) :
    resourceIndex t.resources a < t.resources.length := by
  obtain ⟨r, hr, -⟩ := ht.index_of_mem ha
  exact (List.getElem?_eq_some_iff.mp hr).1

theorem Validated.index_inj {a b : ResourceId} (ha : ∃ r ∈ t.resources, r.id = a)
    (hb : ∃ r ∈ t.resources, r.id = b) (h : resourceIndex t.resources a = resourceIndex t.resources b) :
    a = b := by
  obtain ⟨r, hr, rfl⟩ := ht.index_of_mem ha
  obtain ⟨r', hr', rfl⟩ := ht.index_of_mem hb
  rw [h, hr'] at hr
  rw [Option.some.inj hr]

theorem Validated.mem_bucket {a b : ResourceId} (ha : ∃ r ∈ t.resources, r.id = a) :
    b ∈ Csr.bucket (arcs t.resources t.links) (resourceIndex t.resources a) ↔
      ∃ l ∈ t.links, (l.endpointA = a ∧ l.endpointB = b) ∨ (l.endpointB = a ∧ l.endpointA = b) := by
  simp only [Csr.bucket, arcs, List.mem_map, List.mem_filter, List.mem_flatMap, decide_eq_true_eq]
  constructor
  · intro h
    obtain ⟨⟨i, c⟩, ⟨⟨l, hl, he⟩, hi⟩, rfl⟩ := h
    obtain ⟨hA, hB⟩ := ht.linkKnown l hl
    simp only [List.mem_cons, Prod.mk.injEq, List.not_mem_nil, or_false] at he
    rcases he with ⟨rfl, rfl⟩ | ⟨rfl, rfl⟩
    · exact ⟨l, hl, Or.inl ⟨ht.index_inj hA ha hi, rfl⟩⟩
    · exact ⟨l, hl, Or.inr ⟨ht.index_inj hB ha hi, rfl⟩⟩
  · intro h
    obtain ⟨l, hl, ⟨rfl, rfl⟩ | ⟨rfl, rfl⟩⟩ := h
    · exact ⟨(resourceIndex t.resources l.endpointA, l.endpointB), ⟨⟨l, hl, by simp⟩, rfl⟩, rfl⟩
    · exact ⟨(resourceIndex t.resources l.endpointB, l.endpointA), ⟨⟨l, hl, by simp⟩, rfl⟩, rfl⟩

theorem Validated.bucket_nodup (i : ℕ) : (Csr.bucket (arcs t.resources t.links) i).Nodup := by
  have hb : Csr.bucket (arcs t.resources t.links) i = t.links.flatMap (fun l ↦ Csr.bucket
      [(resourceIndex t.resources l.endpointA, l.endpointB),
        (resourceIndex t.resources l.endpointB, l.endpointA)] i) := by
    simp [Csr.bucket, arcs, List.filter_flatMap, List.map_flatMap]
  rw [hb, List.nodup_flatMap]
  constructor
  · intro l hl
    obtain ⟨hA, hB⟩ := ht.linkKnown l hl
    have hidx : resourceIndex t.resources l.endpointA ≠ resourceIndex t.resources l.endpointB :=
      fun h ↦ ht.linkDistinct l hl (ht.index_inj hA hB h)
    by_cases h₁ : resourceIndex t.resources l.endpointA = i
    · have h₂ : ¬ resourceIndex t.resources l.endpointB = i := fun h ↦ hidx (h₁.trans h.symm)
      simp [Csr.bucket, h₁, h₂]
    · by_cases h₂ : resourceIndex t.resources l.endpointB = i <;> simp [Csr.bucket, h₁, h₂]
  · refine List.Pairwise.imp_of_mem (fun {l l'} hl hl' hlt ↦ ?_) ht.linksStrict
    obtain ⟨hA, hB⟩ := ht.linkKnown l hl
    obtain ⟨hA', hB'⟩ := ht.linkKnown l' hl'
    intro x hx hx'
    simp only [Csr.bucket, List.mem_map, List.mem_filter, List.mem_cons, List.not_mem_nil, or_false,
      decide_eq_true_eq] at hx hx'
    obtain ⟨e, ⟨rfl | rfl, hi⟩, rfl⟩ := hx <;> obtain ⟨e', ⟨rfl | rfl, hi'⟩, he⟩ := hx'
    · exact hlt.ne (ends_comm_eq (Or.inl ⟨ht.index_inj hA hA' (hi.trans hi'.symm), he.symm⟩)
        (ht.linkDistinct l hl))
    · exact hlt.ne (ends_comm_eq (Or.inr ⟨ht.index_inj hA hB' (hi.trans hi'.symm), he.symm⟩)
        (ht.linkDistinct l hl))
    · exact hlt.ne (ends_comm_eq (Or.inr ⟨he.symm, ht.index_inj hB hA' (hi.trans hi'.symm)⟩)
        (ht.linkDistinct l hl))
    · exact hlt.ne (ends_comm_eq (Or.inl ⟨he.symm, ht.index_inj hB hB' (hi.trans hi'.symm)⟩)
        (ht.linkDistinct l hl))

theorem Validated.row_lt {e : ℕ × ResourceId} (he : e ∈ arcs t.resources t.links) :
    e.1 < t.resources.length := by
  obtain ⟨l, hl, hel⟩ := List.mem_flatMap.mp he
  obtain ⟨hA, hB⟩ := ht.linkKnown l hl
  simp only [List.mem_cons, List.not_mem_nil, or_false] at hel
  rcases hel with rfl | rfl
  · exact ht.index_lt hA
  · exact ht.index_lt hB

/-- The adjacency table of a built topology: the counted offsets, which sorting the rows does not move,
and the rows sorted in their own slots. -/
theorem Validated.neighbor_table {n : ℕ} (hn : n ≤ t.resources.length) :
    let c := Csr.counts t.resources.length (arcs t.resources t.links)
    ∃ ids, Csr.uniqueRows id n (Csr.offsets c)
        (Csr.fill (Csr.offsets c) default (arcs t.resources t.links)) = (Csr.offsets c, ids) ∧
      ids.length = Csr.start (Csr.offsets c) c.length ∧
      ∀ i < t.resources.length, Csr.row (Csr.offsets c) ids i =
        if i < n then sortBy id (Csr.bucket (arcs t.resources t.links) i)
        else Csr.bucket (arcs t.resources t.links) i := by
  intro c
  have hclen : c.length = t.resources.length := Csr.length_counts _ _
  have hlen : (Csr.fill (Csr.offsets c) default (arcs t.resources t.links)).length =
      Csr.start (Csr.offsets c) c.length := by
    rw [hclen]; exact Csr.length_fill _ _
  have hrow : ∀ j < c.length, Csr.row (Csr.offsets c)
      (Csr.fill (Csr.offsets c) default (arcs t.resources t.links)) j =
        Csr.bucket (arcs t.resources t.links) j :=
    fun j hj ↦ Csr.row_fill default _ (fun e he ↦ ht.row_lt he) (by omega)
  have hnodup : ∀ j < c.length, ((Csr.row (Csr.offsets c)
      (Csr.fill (Csr.offsets c) default (arcs t.resources t.links)) j).map id).Nodup := by
    intro j hj
    rw [List.map_id, hrow j hj]
    exact ht.bucket_nodup j
  obtain ⟨ids, hu, hlen', hrow'⟩ := Csr.uniqueRows_spec hlen hnodup (n := n) (by omega)
  refine ⟨ids, hu, hlen', ?_⟩
  intro i hi
  rw [hrow' i (by omega), hrow i (by omega)]

theorem Validated.neighbor_index :
    let c := Csr.counts t.resources.length (arcs t.resources t.links)
    t.neighborOffsets = Csr.offsets c ∧ t.neighborIds.length = Csr.start (Csr.offsets c) c.length ∧
      ∀ i < t.resources.length, Csr.row (Csr.offsets c) t.neighborIds i =
        sortBy id (Csr.bucket (arcs t.resources t.links) i) := by
  intro c
  obtain ⟨degree, hdeg, he⟩ := ht.index
  obtain rfl := countDegrees_eq hdeg
  have hclen : c.length = t.resources.length := Csr.length_counts _ _
  obtain ⟨ids, hu, hlen, hrow⟩ := ht.neighbor_table le_rfl
  have hoff : t.neighborOffsets = Csr.offsets c ∧ t.neighborIds = ids := by
    have hcompact := Csr.compact_eq hlen
    rw [hclen] at hcompact
    rw [he]
    simp only [indexTables]
    rw [hu]
    simp only
    rw [hcompact]
    exact ⟨rfl, rfl⟩
  refine ⟨hoff.1, hoff.2 ▸ hlen, ?_⟩
  intro i hi
  rw [hoff.2, hrow i hi, if_pos hi]

theorem Validated.row_eq {i : ℕ} (hi : i < t.resources.length) :
    Csr.row t.neighborOffsets t.neighborIds i =
      sortBy id (Csr.bucket (arcs t.resources t.links) i) := by
  obtain ⟨hoff, -, hrow⟩ := ht.neighbor_index
  rw [hoff, hrow i hi]

omit ht

/-- Two resources are adjacent when a link names both. -/
def Adjacent (links : List Link) (a b : ResourceId) : Prop :=
  ∃ l ∈ links, (l.endpointA = a ∧ l.endpointB = b) ∨ (l.endpointB = a ∧ l.endpointA = b)

theorem Adjacent.symm {links : List Link} {a b : ResourceId} (h : Adjacent links a b) :
    Adjacent links b a := by
  obtain ⟨l, hl, h | h⟩ := h
  · exact ⟨l, hl, Or.inr ⟨h.2, h.1⟩⟩
  · exact ⟨l, hl, Or.inl ⟨h.2, h.1⟩⟩

variable {s : TopologySnapshot}

theorem known_of_adjacent (hs : s.built = true) {a b : ResourceId} (h : Adjacent s.links a b) :
    ∃ r ∈ s.resources, r.id = a := by
  obtain ⟨l, hl, ⟨rfl, -⟩ | ⟨rfl, -⟩⟩ := h
  · exact ((built_validated hs).linkKnown l hl).1
  · exact ((built_validated hs).linkKnown l hl).2

theorem mem_neighbors (hs : s.built = true) {a b : ResourceId} :
    b ∈ s.neighbors a ↔ Adjacent s.links a b := by
  have hv := built_validated hs
  by_cases ha : ∃ r ∈ s.resources, r.id = a
  · obtain ⟨r, hr, rfl⟩ := ha
    obtain ⟨i, hi⟩ := List.mem_iff_getElem?.mp hr
    have hidx : resourceIndex s.resources r.id = i := hv.resourcesStrict.lowerBound_getElem hi
    have hlt : i < s.tables.resources.length := (List.getElem?_eq_some_iff.mp hi).1
    have hval : r.id.valid = true := hv.resourceValid r hr
    have hfind : SortedList.findIndex Resource.id r.id s.resources = some i :=
      hv.resourcesStrict.findIndex_getElem hi
    have hn : s.neighbors r.id = Csr.row s.tables.neighborOffsets s.tables.neighborIds i := by
      simp [TopologySnapshot.neighbors, hs, hval, hfind]
    rw [hn, hv.row_eq hlt, SortedList.mem_sortBy, ← hidx]
    exact hv.mem_bucket ⟨r, hr, rfl⟩
  · constructor
    · intro hb
      unfold TopologySnapshot.neighbors at hb
      split at hb
      · cases hb
      · split at hb
        · cases hb
        · next i hi =>
          obtain ⟨r, hr, hk, -⟩ := SortedList.findIndex_eq_some hi
          exact absurd ⟨r, List.mem_of_getElem? hr, hk⟩ ha
    · intro hb
      exact absurd (known_of_adjacent hs hb) ha

theorem mem_of_hasResource {id : ResourceId} (h : s.hasResource id = true) :
    ∃ r ∈ s.resources, r.id = id := by
  unfold TopologySnapshot.hasResource findResource at h
  split at h
  · obtain ⟨r, hr⟩ := Option.isSome_iff_exists.mp h
    exact ⟨r, mem_of_find hr⟩
  · cases h

theorem hasResource_iff (hs : s.built = true) {id : ResourceId} :
    s.hasResource id = true ↔ ∃ r ∈ s.resources, r.id = id := by
  have hv := built_validated hs
  constructor
  · exact mem_of_hasResource
  · intro h
    obtain ⟨r, hr, rfl⟩ := h
    unfold TopologySnapshot.hasResource findResource
    rw [if_pos (hv.resourceValid r hr)]
    exact (hv.resourcesStrict.find_isSome_iff).mpr ⟨r, hr, rfl⟩

end HotspotGovernor.TopologyIndex
