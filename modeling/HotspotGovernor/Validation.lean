import HotspotGovernor.TopologyIndex
import HotspotGovernor.Lib.Ancestors

namespace HotspotGovernor.Validation

open Foundation ByteIo Lib Topology TopologyIndex SortedList Ancestors

section Checks

variable {α κ : Type} [LinearOrder κ] {key : α → κ} {check : Option α → α → Status}

/-- A check that looks at the entry before its own only to refuse an equal key. -/
def Keyed (key : α → κ) (check : Option α → α → Status) : Prop :=
  ∀ p x, check (some p) x = .ok () ↔ check none x = .ok () ∧ key p ≠ key x

/-- A check that does not look at the entry before its own. -/
def Unlinked (check : Option α → α → Status) : Prop := ∀ prev x, check prev x = check none x

theorem Keyed.checkAll_ok (h : Keyed key check) {xs : List α} (hall : ∀ x ∈ xs, check none x = .ok ())
    (hstrict : Strict key xs) {prev : Option α} (hprev : ∀ p, prev = some p → ∀ x ∈ xs, key p < key x) :
    checkAll check prev xs = .ok () := by
  induction xs generalizing prev with
  | nil => rfl
  | cons x xs ih =>
    obtain ⟨hx, hxs⟩ := List.pairwise_cons.mp hstrict
    refine checkAll_cons.mpr ⟨?_, ih (fun y hy ↦ hall y (List.mem_cons_of_mem x hy)) hxs ?_⟩
    · have hfirst := hall x List.mem_cons_self
      cases prev with
      | none => exact hfirst
      | some p => exact (h p x).mpr ⟨hfirst, (hprev p rfl x List.mem_cons_self).ne⟩
    · rintro p hp
      cases hp
      exact hx

/-- A sorted list passes such a check exactly when its entries do and their keys are distinct: sorting
makes equal keys adjacent. -/
theorem Keyed.checkAll_sortBy (h : Keyed key check) (xs : List α) :
    checkAll check none (sortBy key xs) = .ok () ↔
      (∀ x ∈ xs, check none x = .ok ()) ∧ (xs.map key).Nodup := by
  constructor
  · intro hok
    constructor
    · intro x hx
      obtain ⟨prev, hprev⟩ := checkAll_forall hok (mem_sortBy.mpr hx)
      cases prev with
      | none => exact hprev
      | some p => exact ((h p x).mp hprev).1
    · have hstrict : Strict key (sortBy key xs) :=
        checkAll_strict (fun p x hx ↦ ((h p x).mp hx).2) (sortBy_pairwise xs) hok
      have hnodup : ((sortBy key xs).map key).Nodup :=
        List.pairwise_map.mpr (hstrict.imp (fun hlt ↦ hlt.ne))
      exact ((sortBy_perm xs).map key).nodup_iff.mp hnodup
  · rintro ⟨hall, hnodup⟩
    apply h.checkAll_ok (fun x hx ↦ hall x (mem_sortBy.mp hx)) (sortBy_strict hnodup)
    rintro p hp
    cases hp

theorem Unlinked.checkAll_iff (h : Unlinked check) {prev : Option α} {xs : List α} :
    checkAll check prev xs = .ok () ↔ ∀ x ∈ xs, check none x = .ok () := by
  induction xs generalizing prev with
  | nil => exact iff_of_true rfl (by simp)
  | cons x xs ih => rw [checkAll_cons, ih, h, List.forall_mem_cons]

end Checks

def ParentOf (regions : List Region) (a b : RegionId) : Prop :=
  ∃ r ∈ regions, r.id = a ∧ r.parent = b ∧ b.valid = true

def parentOf (regions : List Region) (id : RegionId) : Option RegionId :=
  (findRegion regions id).bind (fun r ↦ if r.parent.valid then some r.parent else none)

section Parents

variable {regions : List Region} (hstrict : Strict Region.id regions)
  (hvalid : ∀ r ∈ regions, r.id.valid = true)
include hstrict hvalid

theorem findRegion_of_mem {r : Region} (hr : r ∈ regions) : findRegion regions r.id = some r := by
  rw [findRegion, if_pos (hvalid r hr)]
  exact hstrict.find_eq_some hr

theorem next_iff {a b : RegionId} : Next (parentOf regions) a b ↔ ParentOf regions a b := by
  constructor
  · intro h
    obtain ⟨r, hr, hb⟩ := Option.bind_eq_some_iff.mp h
    have hmem : r ∈ regions ∧ r.id = a := by
      unfold findRegion at hr
      split at hr
      · exact mem_of_find hr
      · cases hr
    split at hb
    · next hparent =>
      obtain rfl := Option.some.inj hb
      exact ⟨r, hmem.1, hmem.2, rfl, hparent⟩
    · cases hb
  · rintro ⟨r, hr, rfl, rfl, hb⟩
    rw [Next, parentOf, findRegion_of_mem hstrict hvalid hr, Option.bind_some, if_pos hb]

omit hstrict hvalid in
/-- The walk of the source from a region is a climb, and it ends when the climb reaches the top. -/
theorem parentWalkEnds_eq (steps : ℕ) (cursor : RegionId) :
    parentWalkEnds regions steps cursor = (!cursor.valid || ends (parentOf regions) steps cursor) := by
  induction steps generalizing cursor with
  | zero => rw [parentWalkEnds, ends, Bool.or_false]
  | succ steps ih =>
    rw [parentWalkEnds]
    cases hcursor : cursor.valid with
    | false => rfl
    | true =>
      cases hfind : findRegion regions cursor with
      | none =>
        have hnone : parentOf regions cursor = none := by rw [parentOf, hfind, Option.bind_none]
        rw [ends_succ_of_none hnone]
        rfl
      | some r =>
        cases hparent : r.parent.valid with
        | false =>
          have hnone : parentOf regions cursor = none := by
            rw [parentOf, hfind, Option.bind_some, hparent, if_neg Bool.false_ne_true]
          rw [ends_succ_of_none hnone, if_pos rfl]
          simp only [ih, hparent, Bool.not_false, Bool.true_or, Bool.or_true]
        | true =>
          have hsome : parentOf regions cursor = some r.parent := by
            rw [parentOf, hfind, Option.bind_some, if_pos hparent]
          rw [ends_succ_of_some hsome, if_pos rfl]
          simp only [ih, hparent, Bool.not_true, Bool.false_or]

theorem checkCycle_iff (hparents : ∀ r ∈ regions, r.parent.valid = true → ∃ p ∈ regions, p.id = r.parent) :
    (∀ r ∈ regions, parentWalkEnds regions regions.length r.parent = true) ↔
      Acyclic (parentOf regions) := by
  constructor
  · intro hwalks a hcycle
    obtain ⟨b, hab, hba⟩ := Relation.TransGen.head'_iff.mp hcycle
    obtain ⟨r, hr, rfl, rfl, hb⟩ := (next_iff hstrict hvalid).mp hab
    have hwalk := hwalks r hr
    have hends : ends (parentOf regions) regions.length r.parent = false :=
      not_ends_of_cycle (Relation.TransGen.tail' hba hab)
    rw [parentWalkEnds_eq, hb, hends] at hwalk
    cases hwalk
  · intro hacyclic r hr
    rw [parentWalkEnds_eq]
    cases hparent : r.parent.valid with
    | false => rfl
    | true =>
      obtain ⟨p, hp, hid⟩ := hparents r hr hparent
      have hclosed : ∀ a ∈ regions.map Region.id, ∀ b, parentOf regions a = some b →
          b ∈ regions.map Region.id := by
        intro a _ b hab
        obtain ⟨r, hr, -, rfl, hb⟩ := (next_iff hstrict hvalid).mp hab
        obtain ⟨p, hp, hid⟩ := hparents r hr hb
        exact List.mem_map.mpr ⟨p, hp, hid⟩
      have hends := ends_of_acyclic hacyclic hclosed (List.mem_map.mpr ⟨p, hp, hid⟩)
      rw [List.length_map] at hends
      rw [hends]
      rfl

end Parents

theorem guard_ok {c : Prop} [Decidable c] {code : ErrorCode} {detail : String} {rest : Status} :
    (if c then Status.failure code detail else rest) = .ok () ↔ ¬c ∧ rest = .ok () := by
  split
  · next hc => exact iff_of_false (fun h ↦ by cases h) (fun h ↦ h.1 hc)
  · next hc => exact (and_iff_right hc).symm

theorem valid_of_findRegion {regions : List Region} {id : RegionId} (h : findRegion regions id ≠ none) :
    id.valid = true := by
  by_contra hid
  exact h (if_neg hid)

theorem valid_of_findResource {resources : List Resource} {id : ResourceId}
    (h : findResource resources id ≠ none) : id.valid = true := by
  by_contra hid
  exact h (if_neg hid)

theorem checkRegion_iff (r : Region) : checkRegion none r = .ok () ↔
    r.id.valid = true ∧ r.name.length ≤ Limits.kMaxRegionNameBytes := by
  simp only [checkRegion, guard_ok, Option.any_none, Bool.false_eq_true, not_false_eq_true, true_and,
    Bool.not_eq_true', Bool.not_eq_false, and_true, gt_iff_lt, not_lt]

theorem keyed_checkRegion : Keyed Region.id checkRegion := by
  intro p r
  have hcomm : p.id = r.id ↔ r.id = p.id := eq_comm
  simp only [checkRegion, guard_ok, Option.any_some, Option.any_none, decide_eq_true_eq]
  tauto

theorem unlinked_checkParent (regions : List Region) : Unlinked (checkParent regions) := fun _ _ ↦ rfl

theorem checkParent_iff (regions : List Region) (r : Region) : checkParent regions none r = .ok () ↔
    (r.parent.valid = true → find Region.id r.parent regions ≠ none) ∧ r.parent ≠ r.id := by
  simp only [checkParent, guard_ok, not_and, and_true, ne_eq]

theorem unlinked_checkCycle (regions : List Region) : Unlinked (checkCycle regions) := fun _ _ ↦ rfl

theorem checkCycle_ok (regions : List Region) (r : Region) : checkCycle regions none r = .ok () ↔
    parentWalkEnds regions regions.length r.parent = true := by
  unfold checkCycle
  split
  · next h => exact iff_of_true rfl h
  · next h => exact iff_of_false (fun hok ↦ by cases hok) h

theorem checkResource_iff (regions : List Region) (r : Resource) : checkResource regions none r = .ok () ↔
    r.id.valid = true ∧ findRegion regions r.region ≠ none ∧
      r.name.length ≤ Limits.kMaxResourceNameBytes := by
  have hvalid := @valid_of_findRegion regions r.region
  simp only [checkResource, guard_ok, Option.any_none, Bool.false_eq_true, not_false_eq_true, true_and,
    not_or, Bool.not_eq_true', Bool.not_eq_false, and_true, gt_iff_lt, not_lt]
  tauto

theorem keyed_checkResource (regions : List Region) : Keyed Resource.id (checkResource regions) := by
  intro p r
  have hcomm : p.id = r.id ↔ r.id = p.id := eq_comm
  simp only [checkResource, guard_ok, Option.any_some, Option.any_none, decide_eq_true_eq]
  tauto

theorem samePair_iff (p l : Link) : samePair p l = true ↔ p.ends = l.ends := by
  constructor
  · intro h
    by_cases hne : p.endpointA = p.endpointB
    · simp only [samePair, Bool.or_eq_true, Bool.and_eq_true, decide_eq_true_eq] at h
      simp only [Link.ends, hne]
      rcases h with ⟨ha, hb⟩ | ⟨ha, hb⟩ <;> simp [← ha, ← hb, hne]
    · apply ends_comm_eq _ hne
      simpa [samePair] using h
  · intro h
    by_contra hsame
    exact ends_ne_of_not_samePair (Bool.not_eq_true _ ▸ hsame) h

theorem checkLink_iff (resources : List Resource) (l : Link) : checkLink resources none l = .ok () ↔
    l.endpointA ≠ l.endpointB ∧ findResource resources l.endpointA ≠ none ∧
      findResource resources l.endpointB ≠ none := by
  have hva := @valid_of_findResource resources l.endpointA
  have hvb := @valid_of_findResource resources l.endpointB
  simp only [checkLink, guard_ok, Option.any_none, Bool.false_eq_true, not_false_eq_true, not_or,
    Bool.not_eq_true', Bool.not_eq_false, and_true]
  tauto

theorem keyed_checkLink (resources : List Resource) : Keyed Link.ends (checkLink resources) := by
  intro p l
  have hpair := samePair_iff p l
  simp only [checkLink, guard_ok, Option.any_some, Option.any_none]
  tauto

def degreeOf (links : List Link) (id : ResourceId) : ℕ :=
  links.countP (fun l ↦ l.endpointA = id ∨ l.endpointB = id)

/-- The links join two different resources of the list. -/
def Joined (resources : List Resource) (links : List Link) : Prop :=
  ∀ l ∈ links, l.endpointA ≠ l.endpointB ∧ (∃ r ∈ resources, r.id = l.endpointA) ∧
    ∃ r ∈ resources, r.id = l.endpointB

section Degrees

variable {resources : List Resource} {links : List Link} (hstrict : Strict Resource.id resources)
include hstrict

theorem resourceIndex_eq_iff {a : ResourceId} (ha : ∃ r ∈ resources, r.id = a) {i : ℕ} {r : Resource}
    (hi : resources[i]? = some r) : resourceIndex resources a = i ↔ a = r.id := by
  obtain ⟨r', hr', rfl⟩ := ha
  obtain ⟨j, hj⟩ := List.mem_iff_getElem?.mp hr'
  have hindex : resourceIndex resources r'.id = j := hstrict.lowerBound_getElem hj
  have hindex' : resourceIndex resources r.id = i := hstrict.lowerBound_getElem hi
  constructor
  · rintro rfl
    rw [hindex, hj] at hi
    rw [Option.some.inj hi]
  · intro h
    rw [h, hindex']

theorem countP_arcs (hjoined : Joined resources links) {i : ℕ} {r : Resource} (hi : resources[i]? = some r) :
    (arcs resources links).countP (fun e ↦ e.1 = i) = degreeOf links r.id := by
  induction links with
  | nil => rfl
  | cons l links ih =>
    obtain ⟨hne, ha, hb⟩ := hjoined l List.mem_cons_self
    have hrest := ih (fun l' hl' ↦ hjoined l' (List.mem_cons_of_mem l hl'))
    have hia := resourceIndex_eq_iff hstrict ha hi
    have hib := resourceIndex_eq_iff hstrict hb hi
    have harcs : arcs resources (l :: links) = (resourceIndex resources l.endpointA, l.endpointB) ::
        (resourceIndex resources l.endpointB, l.endpointA) :: arcs resources links := rfl
    have hdegree : degreeOf (l :: links) r.id =
        degreeOf links r.id + if l.endpointA = r.id ∨ l.endpointB = r.id then 1 else 0 := by
      simp only [degreeOf, List.countP_cons, decide_eq_true_eq]
    rw [harcs, List.countP_cons, List.countP_cons, hrest, hdegree]
    simp only [hia, hib, decide_eq_true_eq]
    by_cases hra : l.endpointA = r.id
    · have hrb : l.endpointB ≠ r.id := fun h ↦ hne (hra.trans h.symm)
      simp [hra, hrb]
    · simp [hra]

theorem row_lt (hjoined : Joined resources links) {e : ℕ × ResourceId} (he : e ∈ arcs resources links) :
    e.1 < resources.length := by
  obtain ⟨l, hl, hel⟩ := List.mem_flatMap.mp he
  obtain ⟨-, ⟨r, hr, hra⟩, r', hr', hrb⟩ := hjoined l hl
  obtain ⟨i, hi⟩ := List.mem_iff_getElem?.mp hr
  obtain ⟨j, hj⟩ := List.mem_iff_getElem?.mp hr'
  simp only [List.mem_cons, List.not_mem_nil, or_false] at hel
  rcases hel with rfl | rfl
  · rw [(resourceIndex_eq_iff hstrict ⟨r, hr, hra⟩ hi).mpr hra.symm]
    exact (List.getElem?_eq_some_iff.mp hi).1
  · rw [(resourceIndex_eq_iff hstrict ⟨r', hr', hrb⟩ hj).mpr hrb.symm]
    exact (List.getElem?_eq_some_iff.mp hj).1

omit hstrict in
theorem foldlM_bumpDegree_le {es : List (ℕ × ResourceId)} {degree degree' : List ℕ}
    (hstart : ∀ row, degree.getD row 0 ≤ Limits.kMaxNeighborsPerResource)
    (h : es.foldlM (fun d e ↦ bumpDegree d e.1) degree = .ok degree') (row : ℕ) :
    degree'.getD row 0 ≤ Limits.kMaxNeighborsPerResource := by
  induction es generalizing degree with
  | nil =>
    obtain rfl := Except.ok.inj h
    exact hstart row
  | cons e es ih =>
    rw [List.foldlM_cons] at h
    obtain ⟨d, hd, h⟩ := bind_eq_ok h
    refine ih (fun k ↦ ?_) h
    simp only [bumpDegree] at hd
    split at hd
    · cases hd
    · next hle =>
      obtain rfl := Except.ok.inj hd
      by_cases hk : e.1 = k
      · rw [← hk]
        exact Nat.not_lt.mp hle
      · have hmod := getD_modify_succ degree e.1 k
        rw [if_neg hk] at hmod
        exact hmod.trans (hstart k)

theorem countDegrees_iff (hjoined : Joined resources links) :
    (∃ degree, countDegrees resources links = .ok degree) ↔
      ∀ r ∈ resources, degreeOf links r.id ≤ Limits.kMaxNeighborsPerResource := by
  have hzero : ∀ row, (List.replicate resources.length 0).getD row 0 = 0 := by
    intro row
    rw [List.getD_eq_getElem?_getD, List.getElem?_replicate]
    split <;> rfl
  constructor
  · rintro ⟨degree, hdegree⟩ r hr
    obtain ⟨i, hi⟩ := List.mem_iff_getElem?.mp hr
    have hle := foldlM_bumpDegree_le (fun row ↦ by rw [hzero]; exact Nat.zero_le _) hdegree i
    rw [countDegrees_eq hdegree, Csr.counts_getD _ (List.getElem?_eq_some_iff.mp hi).1] at hle
    rw [← countP_arcs hstrict hjoined hi, List.countP_eq_length_filter]
    rwa [Csr.bucket, List.length_map] at hle
  · intro hall
    apply foldlM_bumpDegree_ok
    intro row
    rw [hzero, Nat.zero_add]
    by_cases hrow : row < resources.length
    · rw [countP_arcs hstrict hjoined (List.getElem?_eq_getElem hrow)]
      exact hall _ (List.getElem_mem hrow)
    · have hnone : (arcs resources links).countP (fun e ↦ e.1 = row) = 0 := by
        rw [List.countP_eq_zero]
        intro e he hrow'
        have hlt := row_lt hstrict hjoined he
        rw [of_decide_eq_true hrow'] at hlt
        exact hrow hlt
      rw [hnone]
      exact Nat.zero_le _

end Degrees

/-- Two links that join the same resources, in either direction. -/
def Parallel (l l' : Link) : Prop :=
  (l.endpointA = l'.endpointA ∧ l.endpointB = l'.endpointB) ∨
    (l.endpointA = l'.endpointB ∧ l.endpointB = l'.endpointA)

/-- What a topology has to be, in whatever order its entries come. -/
structure WellFormed (regions : List Region) (resources : List Resource) (links : List Link) : Prop where
  regionCount : regions.length ≤ Limits.kMaxRegions
  resourceCount : resources.length ≤ Limits.kMaxResources
  linkCount : links.length ≤ Limits.kMaxLinks
  regionIds : (∀ r ∈ regions, r.id.valid = true) ∧ (regions.map Region.id).Nodup
  parents : ∀ r ∈ regions, r.parent.valid = true → ∃ p ∈ regions, p.id = r.parent
  acyclic : ∀ a, ¬Relation.TransGen (ParentOf regions) a a
  resourceIds : (∀ r ∈ resources, r.id.valid = true) ∧ (resources.map Resource.id).Nodup
  homes : ∀ r ∈ resources, ∃ g ∈ regions, g.id = r.region
  joined : Joined resources links
  pairs : links.Pairwise (fun l l' ↦ ¬Parallel l l')
  degrees : ∀ r ∈ resources, degreeOf links r.id ≤ Limits.kMaxNeighborsPerResource

def Named (regions : List Region) (resources : List Resource) : Prop :=
  (∀ r ∈ regions, r.name.length ≤ Limits.kMaxRegionNameBytes) ∧
    ∀ r ∈ resources, r.name.length ≤ Limits.kMaxResourceNameBytes

section Build

variable {regions : List Region} {resources : List Resource} {links : List Link}

theorem acyclic_iff (hstrict : Strict Region.id (sortBy Region.id regions))
    (hvalid : ∀ r ∈ regions, r.id.valid = true) : Acyclic (parentOf (sortBy Region.id regions)) ↔
      ∀ a, ¬Relation.TransGen (ParentOf regions) a a := by
  have hnext : Next (parentOf (sortBy Region.id regions)) = ParentOf regions := by
    funext a b
    rw [next_iff hstrict (fun r hr ↦ hvalid r (mem_sortBy.mp hr))]
    simp only [ParentOf, mem_sortBy]
  rw [Acyclic, hnext]

theorem parent_ne_self (hvalid : ∀ r ∈ regions, r.id.valid = true)
    (hacyclic : ∀ a, ¬Relation.TransGen (ParentOf regions) a a) {r : Region} (hr : r ∈ regions) :
    r.parent ≠ r.id :=
  fun h ↦ hacyclic r.id (.single ⟨r, hr, rfl, h, hvalid r hr⟩)

theorem regionChecks_iff :
    (checkAll checkRegion none (sortBy Region.id regions) = .ok () ∧
      checkAll (checkParent (sortBy Region.id regions)) none (sortBy Region.id regions) = .ok () ∧
      checkAll (checkCycle (sortBy Region.id regions)) none (sortBy Region.id regions) = .ok ()) ↔
    (∀ r ∈ regions, r.name.length ≤ Limits.kMaxRegionNameBytes) ∧
      ((∀ r ∈ regions, r.id.valid = true) ∧ (regions.map Region.id).Nodup) ∧
      (∀ r ∈ regions, r.parent.valid = true → ∃ p ∈ regions, p.id = r.parent) ∧
      ∀ a, ¬Relation.TransGen (ParentOf regions) a a := by
  rw [keyed_checkRegion.checkAll_sortBy, (unlinked_checkParent _).checkAll_iff,
    (unlinked_checkCycle _).checkAll_iff]
  simp only [checkRegion_iff, checkParent_iff, checkCycle_ok]
  -- the other checks read the sorted list, which is strict once the first one passes
  have hcore (hnodup : (regions.map Region.id).Nodup) (hvalid : ∀ r ∈ regions, r.id.valid = true) :
      (∀ id, find Region.id id (sortBy Region.id regions) ≠ none ↔ ∃ p ∈ regions, p.id = id) ∧
      ((∀ r ∈ regions, r.parent.valid = true → ∃ p ∈ regions, p.id = r.parent) →
        ((∀ r ∈ sortBy Region.id regions, parentWalkEnds (sortBy Region.id regions)
            (sortBy Region.id regions).length r.parent = true) ↔
          ∀ a, ¬Relation.TransGen (ParentOf regions) a a)) := by
    have hstrict := sortBy_strict hnodup
    constructor
    · intro id
      rw [← Option.isSome_iff_ne_none, hstrict.find_isSome_iff]
      simp only [mem_sortBy]
    · intro hparents
      rw [checkCycle_iff hstrict (fun r hr ↦ hvalid r (mem_sortBy.mp hr)) (by simpa using hparents),
        acyclic_iff hstrict hvalid]
  constructor
  · rintro ⟨⟨hids, hnodup⟩, hparent, hcycle⟩
    have hvalid : ∀ r ∈ regions, r.id.valid = true := fun r hr ↦ (hids r hr).1
    obtain ⟨hfind, hwalks⟩ := hcore hnodup hvalid
    have hparents : ∀ r ∈ regions, r.parent.valid = true → ∃ p ∈ regions, p.id = r.parent :=
      fun r hr hp ↦ (hfind r.parent).mp ((hparent r (mem_sortBy.mpr hr)).1 hp)
    exact ⟨fun r hr ↦ (hids r hr).2, ⟨hvalid, hnodup⟩, hparents, (hwalks hparents).mp hcycle⟩
  · rintro ⟨hnames, ⟨hvalid, hnodup⟩, hparents, hacyclic⟩
    obtain ⟨hfind, hwalks⟩ := hcore hnodup hvalid
    refine ⟨⟨fun r hr ↦ ⟨hvalid r hr, hnames r hr⟩, hnodup⟩, fun r hr ↦ ?_,
      (hwalks hparents).mpr hacyclic⟩
    have hr' := mem_sortBy.mp hr
    exact ⟨fun hp ↦ (hfind r.parent).mpr (hparents r hr' hp), parent_ne_self hvalid hacyclic hr'⟩

theorem findRegion_ne_none (hregions : (∀ r ∈ regions, r.id.valid = true) ∧ (regions.map Region.id).Nodup)
    (id : RegionId) : findRegion (sortBy Region.id regions) id ≠ none ↔ ∃ g ∈ regions, g.id = id := by
  have hstrict := sortBy_strict hregions.2
  constructor
  · intro h
    have hid := valid_of_findRegion h
    rw [findRegion, if_pos hid, ← Option.isSome_iff_ne_none, hstrict.find_isSome_iff] at h
    simpa only [mem_sortBy] using h
  · rintro ⟨g, hg, rfl⟩
    rw [findRegion_of_mem hstrict (fun r hr ↦ hregions.1 r (mem_sortBy.mp hr)) (mem_sortBy.mpr hg)]
    exact Option.some_ne_none g

theorem resourceChecks_iff
    (hregions : (∀ r ∈ regions, r.id.valid = true) ∧ (regions.map Region.id).Nodup) :
    checkAll (checkResource (sortBy Region.id regions)) none (sortBy Resource.id resources) = .ok () ↔
    (∀ r ∈ resources, r.name.length ≤ Limits.kMaxResourceNameBytes) ∧
      ((∀ r ∈ resources, r.id.valid = true) ∧ (resources.map Resource.id).Nodup) ∧
      ∀ r ∈ resources, ∃ g ∈ regions, g.id = r.region := by
  rw [(keyed_checkResource _).checkAll_sortBy]
  simp only [checkResource_iff, findRegion_ne_none hregions]
  constructor
  · rintro ⟨hall, hnodup⟩
    exact ⟨fun r hr ↦ (hall r hr).2.2, ⟨fun r hr ↦ (hall r hr).1, hnodup⟩, fun r hr ↦ (hall r hr).2.1⟩
  · rintro ⟨hnames, ⟨hvalid, hnodup⟩, hhomes⟩
    exact ⟨fun r hr ↦ ⟨hvalid r hr, hhomes r hr, hnames r hr⟩, hnodup⟩

theorem findResource_ne_none
    (hresources : (∀ r ∈ resources, r.id.valid = true) ∧ (resources.map Resource.id).Nodup) (id : ResourceId) :
    findResource (sortBy Resource.id resources) id ≠ none ↔ ∃ r ∈ resources, r.id = id := by
  have hstrict := sortBy_strict hresources.2
  have hfind : find Resource.id id (sortBy Resource.id resources) ≠ none ↔ ∃ r ∈ resources, r.id = id := by
    rw [← Option.isSome_iff_ne_none, hstrict.find_isSome_iff]
    simp only [mem_sortBy]
  constructor
  · intro h
    have hid := valid_of_findResource h
    rw [findResource, if_pos hid] at h
    exact hfind.mp h
  · rintro ⟨r, hr, rfl⟩
    rw [findResource, if_pos (hresources.1 r hr)]
    exact hfind.mpr ⟨r, hr, rfl⟩

theorem ends_eq_iff {l l' : Link} : l.ends = l'.ends ↔ Parallel l l' := by
  rw [← samePair_iff]
  simp [samePair, Parallel]

theorem linkChecks_iff
    (hresources : (∀ r ∈ resources, r.id.valid = true) ∧ (resources.map Resource.id).Nodup) :
    checkAll (checkLink (sortBy Resource.id resources)) none (sortBy Link.ends links) = .ok () ↔
    Joined resources links ∧ links.Pairwise (fun l l' ↦ ¬Parallel l l') := by
  rw [(keyed_checkLink _).checkAll_sortBy, List.Nodup, List.pairwise_map]
  simp only [checkLink_iff, findResource_ne_none hresources, ne_eq, ends_eq_iff]
  rfl

theorem validateAndIndex_iff : (∃ t, validateAndIndex regions resources links = .ok t) ↔
    (checkAll checkRegion none (sortBy Region.id regions) = .ok () ∧
      checkAll (checkParent (sortBy Region.id regions)) none (sortBy Region.id regions) = .ok () ∧
      checkAll (checkCycle (sortBy Region.id regions)) none (sortBy Region.id regions) = .ok ()) ∧
    checkAll (checkResource (sortBy Region.id regions)) none (sortBy Resource.id resources) = .ok () ∧
    checkAll (checkLink (sortBy Resource.id resources)) none (sortBy Link.ends links) = .ok () ∧
    ∃ degree, countDegrees (sortBy Resource.id resources) (sortBy Link.ends links) = .ok degree := by
  unfold validateAndIndex
  constructor
  · rintro ⟨t, h⟩
    obtain ⟨_, hids, h⟩ := bind_eq_ok h
    obtain ⟨_, hparents, h⟩ := bind_eq_ok h
    obtain ⟨_, hcycles, h⟩ := bind_eq_ok h
    obtain ⟨_, hresources, h⟩ := bind_eq_ok h
    obtain ⟨_, hlinks, h⟩ := bind_eq_ok h
    obtain ⟨degree, hdegree, -⟩ := bind_eq_ok h
    exact ⟨⟨hids, hparents, hcycles⟩, hresources, hlinks, degree, hdegree⟩
  · rintro ⟨⟨hids, hparents, hcycles⟩, hresources, hlinks, degree, hdegree⟩
    dsimp only
    rw [hids, hparents, hcycles, hresources, hlinks, hdegree]
    exact ⟨_, rfl⟩

theorem degreeOf_sortBy (links : List Link) (id : ResourceId) :
    degreeOf (sortBy Link.ends links) id = degreeOf links id := (sortBy_perm links).countP_eq _

theorem buildTables_iff : (∃ t, buildTables regions resources links = .ok t) ↔
    Named regions resources ∧ WellFormed regions resources links := by
  have hdegrees (hresources : (resources.map Resource.id).Nodup) (hjoined : Joined resources links) :
      (∃ degree, countDegrees (sortBy Resource.id resources) (sortBy Link.ends links) = .ok degree) ↔
        ∀ r ∈ resources, degreeOf links r.id ≤ Limits.kMaxNeighborsPerResource := by
    have hsorted : Joined (sortBy Resource.id resources) (sortBy Link.ends links) := by
      intro l hl
      simp only [mem_sortBy]
      exact hjoined l (mem_sortBy.mp hl)
    rw [countDegrees_iff (sortBy_strict hresources) hsorted]
    simp only [mem_sortBy, degreeOf_sortBy]
  have hguards : (∃ t, buildTables regions resources links = .ok t) ↔
      regions.length ≤ Limits.kMaxRegions ∧ resources.length ≤ Limits.kMaxResources ∧
        links.length ≤ Limits.kMaxLinks ∧ ∃ t, validateAndIndex regions resources links = .ok t := by
    unfold buildTables
    split_ifs with hr hs hl
    · exact iff_of_false (by rintro ⟨t, h⟩; cases h) (fun h ↦ absurd h.1 (Nat.not_le.mpr hr))
    · exact iff_of_false (by rintro ⟨t, h⟩; cases h) (fun h ↦ absurd h.2.1 (Nat.not_le.mpr hs))
    · exact iff_of_false (by rintro ⟨t, h⟩; cases h) (fun h ↦ absurd h.2.2.1 (Nat.not_le.mpr hl))
    · simp only [Nat.not_lt.mp hr, Nat.not_lt.mp hs, Nat.not_lt.mp hl, true_and]
  rw [hguards, validateAndIndex_iff, regionChecks_iff]
  constructor
  · rintro ⟨hr, hs, hl, ⟨hnamed, hregions, hparents, hacyclic⟩, hresources, hlinks, hdegree⟩
    obtain ⟨hnamed', hids, hhomes⟩ := (resourceChecks_iff hregions).mp hresources
    obtain ⟨hjoined, hpairs⟩ := (linkChecks_iff hids).mp hlinks
    exact ⟨⟨hnamed, hnamed'⟩, hr, hs, hl, hregions, hparents, hacyclic, hids, hhomes, hjoined, hpairs,
      (hdegrees hids.2 hjoined).mp hdegree⟩
  · rintro ⟨hnames, h⟩
    exact ⟨h.regionCount, h.resourceCount, h.linkCount, ⟨hnames.1, h.regionIds, h.parents, h.acyclic⟩,
      (resourceChecks_iff h.regionIds).mpr ⟨hnames.2, h.resourceIds, h.homes⟩,
      (linkChecks_iff h.resourceIds).mpr ⟨h.joined, h.pairs⟩, (hdegrees h.resourceIds.2 h.joined).mpr h.degrees⟩

theorem WellFormed.perm {regions' : List Region} {resources' : List Resource} {links' : List Link}
    (h : WellFormed regions resources links) (hr : regions.Perm regions') (hs : resources.Perm resources')
    (hl : links.Perm links') : WellFormed regions' resources' links' where
  regionCount := hr.length_eq ▸ h.regionCount
  resourceCount := hs.length_eq ▸ h.resourceCount
  linkCount := hl.length_eq ▸ h.linkCount
  regionIds := ⟨fun r hmem ↦ h.regionIds.1 r (hr.mem_iff.mpr hmem),
    (hr.map Region.id).nodup_iff.mp h.regionIds.2⟩
  parents := by simpa only [hr.mem_iff] using h.parents
  acyclic := by
    have heq : ParentOf regions' = ParentOf regions := by
      funext a b
      simp only [ParentOf, hr.mem_iff]
    rw [heq]
    exact h.acyclic
  resourceIds := ⟨fun r hmem ↦ h.resourceIds.1 r (hs.mem_iff.mpr hmem),
    (hs.map Resource.id).nodup_iff.mp h.resourceIds.2⟩
  homes := by simpa only [hr.mem_iff, hs.mem_iff] using h.homes
  joined := by simpa only [Joined, hl.mem_iff, hs.mem_iff] using h.joined
  pairs := by
    have hpairs := h.pairs
    simp only [← ends_eq_iff] at hpairs ⊢
    exact hl.pairwise hpairs (fun {_ _} hne heq ↦ hne heq.symm)
  degrees := by
    intro r hmem
    rw [degreeOf, ← hl.countP_eq]
    exact h.degrees r (hs.mem_iff.mpr hmem)

theorem buildTables_eq {t : Tables} (h : buildTables regions resources links = .ok t) :
    ∃ degree, countDegrees (sortBy Resource.id resources) (sortBy Link.ends links) = .ok degree ∧
      t = indexTables (sortBy Region.id regions) (sortBy Resource.id resources) (sortBy Link.ends links)
        degree := by
  unfold buildTables at h
  split_ifs at h
  · cases h
  · cases h
  · cases h
  · unfold validateAndIndex at h
    obtain ⟨_, -, h⟩ := bind_eq_ok h
    obtain ⟨_, -, h⟩ := bind_eq_ok h
    obtain ⟨_, -, h⟩ := bind_eq_ok h
    obtain ⟨_, -, h⟩ := bind_eq_ok h
    obtain ⟨_, -, h⟩ := bind_eq_ok h
    obtain ⟨degree, hdegree, h⟩ := bind_eq_ok h
    exact ⟨degree, hdegree, (Except.ok.inj h).symm⟩

theorem wellFormed_of_built {s : TopologySnapshot} (h : s.built = true) :
    WellFormed s.tables.regions s.tables.resources s.tables.links ∧ Strict Region.id s.tables.regions := by
  obtain ⟨regions, resources, links, hb⟩ := s.indexed h
  obtain ⟨-, hwell⟩ := buildTables_iff.mp ⟨_, hb⟩
  obtain ⟨degree, -, ht⟩ := buildTables_eq hb
  rw [ht]
  exact ⟨hwell.perm (sortBy_perm _).symm (sortBy_perm _).symm (sortBy_perm _).symm,
    sortBy_strict hwell.regionIds.2⟩

end Build

/-- The loop that looks for a cycle: where it is and how many steps it has counted, or how it left. -/
inductive CycleWalk
  | running (cursor : RegionId) (steps : ℕ)
  | ended
  | cycle
  deriving DecidableEq

def CycleWalk.step (regions : List Region) : CycleWalk → CycleWalk
  | .running cursor steps =>
    if cursor.valid then
      if steps + 1 > regions.length then .cycle
      else match findRegion regions cursor with
        | none => .ended
        | some parent => .running parent.parent (steps + 1)
    else .ended
  | .ended => .ended
  | .cycle => .cycle

theorem CycleWalk.halts (regions : List Region) (cursor : RegionId) {steps : ℕ}
    (h : steps ≤ regions.length) : ∃ turns ≤ regions.length - steps + 1,
      (CycleWalk.step regions)^[turns] (.running cursor steps) =
        if parentWalkEnds regions (regions.length - steps) cursor then .ended else .cycle := by
  obtain ⟨left, hleft⟩ : ∃ left, regions.length - steps = left := ⟨_, rfl⟩
  rw [hleft]
  induction left generalizing cursor steps with
  | zero =>
    refine ⟨1, le_refl _, ?_⟩
    rw [Function.iterate_one, CycleWalk.step, parentWalkEnds, if_pos (show steps + 1 > regions.length by omega)]
    cases cursor.valid <;> rfl
  | succ left ih =>
    cases hcursor : cursor.valid with
    | false =>
      refine ⟨1, by omega, ?_⟩
      rw [Function.iterate_one, CycleWalk.step, parentWalkEnds, hcursor]
      rfl
    | true =>
      cases hfind : findRegion regions cursor with
      | none =>
        refine ⟨1, by omega, ?_⟩
        rw [Function.iterate_one, CycleWalk.step, parentWalkEnds, hcursor, hfind,
          if_neg (show ¬steps + 1 > regions.length by omega)]
        rfl
      | some parent =>
        obtain ⟨turns, hturns, heq⟩ := ih parent.parent (show steps + 1 ≤ regions.length by omega) (by omega)
        refine ⟨turns + 1, by omega, ?_⟩
        rw [Function.iterate_succ_apply, CycleWalk.step, parentWalkEnds, hcursor, hfind,
          if_neg (show ¬steps + 1 > regions.length by omega)]
        exact heq

/-- The loop that lists the regions above a resource. -/
inductive ChainWalk
  | running (cursor : RegionId) (steps : ℕ) (chain : List RegionId)
  | done (chain : List RegionId)
  deriving DecidableEq

def ChainWalk.step (regions : List Region) : ChainWalk → ChainWalk
  | .running cursor steps chain =>
    if cursor.valid ∧ steps ≤ regions.length then
      match findRegion regions cursor with
      | none => .done (chain ++ [cursor])
      | some entry => .running entry.parent (steps + 1) (chain ++ [cursor])
    else .done chain
  | .done chain => .done chain

theorem ChainWalk.halts (regions : List Region) (cursor : RegionId) (chain : List RegionId) {steps : ℕ}
    (h : steps ≤ regions.length + 1) : ∃ turns ≤ regions.length + 1 - steps + 1,
      (ChainWalk.step regions)^[turns] (.running cursor steps chain) =
        .done (chain ++ regionWalk regions (regions.length + 1 - steps) cursor) := by
  obtain ⟨left, hleft⟩ : ∃ left, regions.length + 1 - steps = left := ⟨_, rfl⟩
  rw [hleft]
  induction left generalizing cursor steps chain with
  | zero =>
    refine ⟨1, le_refl _, ?_⟩
    rw [Function.iterate_one, ChainWalk.step, if_neg (by omega), regionWalk, List.append_nil]
  | succ left ih =>
    have hsteps : steps ≤ regions.length := by omega
    cases hcursor : cursor.valid with
    | false =>
      refine ⟨1, by omega, ?_⟩
      rw [Function.iterate_one, ChainWalk.step, if_neg (by simp [hcursor]), regionWalk, hcursor,
        if_neg Bool.false_ne_true, List.append_nil]
    | true =>
      cases hfind : findRegion regions cursor with
      | none =>
        refine ⟨1, by omega, ?_⟩
        rw [Function.iterate_one, ChainWalk.step, if_pos ⟨hcursor, hsteps⟩, regionWalk, if_pos hcursor, hfind]
      | some entry =>
        obtain ⟨turns, hturns, heq⟩ := ih entry.parent (chain ++ [cursor])
          (show steps + 1 ≤ regions.length + 1 by omega) (by omega)
        refine ⟨turns + 1, by omega, ?_⟩
        rw [Function.iterate_succ_apply, ChainWalk.step, if_pos ⟨hcursor, hsteps⟩, regionWalk, if_pos hcursor,
          hfind]
        rw [List.append_assoc, List.singleton_append] at heq
        exact heq

inductive TopologyCall
  | addRegion (id : RegionId) (name : Bytes) (parent : RegionId)
  | addResource (id : ResourceId) (region : RegionId) (kind : ResourceKind) (name : Bytes)
  | addLink (id : LinkId) (a b : ResourceId)
  deriving DecidableEq

def TopologyCall.apply (s : TopologySnapshot) : TopologyCall → TopologySnapshot
  | .addRegion id name parent => s.addRegion id name parent
  | .addResource id region kind name => s.addResource id region kind name
  | .addLink id a b => s.addLink id a b

def assembled (calls : List TopologyCall) : TopologySnapshot := calls.foldl TopologyCall.apply default

def TopologyCall.region? : TopologyCall → Option Region
  | .addRegion id name parent => some ⟨id, name.take Limits.kMaxRegionNameBytes, parent⟩
  | _ => none

def TopologyCall.resource? : TopologyCall → Option Resource
  | .addResource id region kind name => some ⟨id, region, kind, name.take Limits.kMaxResourceNameBytes⟩
  | _ => none

def TopologyCall.link? : TopologyCall → Option Link
  | .addLink id a b => some ⟨id, a, b⟩
  | _ => none

theorem assembled_tables (calls : List TopologyCall) : (assembled calls).tables =
    { regions := calls.filterMap TopologyCall.region?, resources := calls.filterMap TopologyCall.resource?,
      links := calls.filterMap TopologyCall.link? } := by
  induction calls using List.reverseRecOn with
  | nil => rfl
  | append_singleton calls call ih =>
    have hstep : assembled (calls ++ [call]) = TopologyCall.apply (assembled calls) call := by
      rw [assembled, List.foldl_append]
      rfl
    rw [hstep]
    cases call <;> simp [TopologyCall.apply, TopologySnapshot.addRegion, TopologySnapshot.addResource,
      TopologySnapshot.addLink, ih, TopologyCall.region?, TopologyCall.resource?, TopologyCall.link?]

theorem named_added (calls : List TopologyCall) :
    Named (calls.filterMap TopologyCall.region?) (calls.filterMap TopologyCall.resource?) := by
  constructor
  · intro r hr
    obtain ⟨call, -, hcall⟩ := List.mem_filterMap.mp hr
    cases call with
    | addRegion id name parent =>
      obtain rfl := Option.some.inj hcall
      exact List.length_take_le _ _
    | _ => cases hcall
  · intro r hr
    obtain ⟨call, -, hcall⟩ := List.mem_filterMap.mp hr
    cases call with
    | addResource id region kind name =>
      obtain rfl := Option.some.inj hcall
      exact List.length_take_le _ _
    | _ => cases hcall

theorem build_isOk_iff (s : TopologySnapshot) : (∃ s', s.build = .ok s') ↔
    ∃ t, buildTables s.tables.regions s.tables.resources s.tables.links = .ok t := by
  constructor
  · intro h
    obtain ⟨s', hs'⟩ := h
    obtain ⟨t, ht, -⟩ := TopologySnapshot.build_iff.mp hs'
    exact ⟨t, ht⟩
  · intro h
    obtain ⟨t, ht⟩ := h
    exact ⟨_, TopologySnapshot.build_iff.mpr ⟨t, ht, rfl⟩⟩

/-- A topology builds exactly when what was added to it is well formed, and both loops over the parents
leave within one turn for each region and one more, whatever the regions are. -/
theorem build_accepts_well_formed (calls : List TopologyCall) :
    ((∃ s, (assembled calls).build = .ok s) ↔
      WellFormed (calls.filterMap TopologyCall.region?) (calls.filterMap TopologyCall.resource?)
        (calls.filterMap TopologyCall.link?)) ∧
    ∀ (regions : List Region) (cursor : RegionId),
      (∃ turns ≤ regions.length + 1, (CycleWalk.step regions)^[turns] (.running cursor 0) =
        if parentWalkEnds regions regions.length cursor then .ended else .cycle) ∧
      ∃ turns ≤ regions.length + 2, (ChainWalk.step regions)^[turns] (.running cursor 0 []) =
        .done (regionWalk regions (regions.length + 1) cursor) := by
  constructor
  · rw [build_isOk_iff, assembled_tables, buildTables_iff]
    exact and_iff_right (named_added calls)
  · intro regions cursor
    exact ⟨CycleWalk.halts regions cursor (Nat.zero_le _), ChainWalk.halts regions cursor [] (Nat.zero_le _)⟩

end HotspotGovernor.Validation
