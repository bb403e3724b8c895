import Mathlib.Data.List.Sort

namespace HotspotGovernor.Lib.SortedList

variable {α κ : Type} [LinearOrder κ] (key : α → κ)

/-- The partition point of a range: the number of leading elements whose key is below `k`. -/
def lowerBound (k : κ) : List α → ℕ
  | [] => 0
  | x :: xs => if key x < k then lowerBound k xs + 1 else 0

/-- Search by partition point, followed by the equality test on the element found there. -/
def find (k : κ) (xs : List α) : Option α :=
  xs[lowerBound key k xs]?.filter (fun x ↦ key x = k)

def findIndex (k : κ) (xs : List α) : Option ℕ :=
  (find key k xs).map (fun _ ↦ lowerBound key k xs)

def update (k : κ) (f : α → α) (xs : List α) : List α :=
  match findIndex key k xs with
  | none => xs
  | some i => xs.modify i f

def insert (x : α) (xs : List α) : List α := xs.insertIdx (lowerBound key (key x) xs) x

def sortBy (xs : List α) : List α := xs.insertionSort (fun a b ↦ key a ≤ key b)

/-- Keep the first element of every run of consecutive equal keys that starts at `a`. -/
def uniqueFrom (a : α) : List α → List α
  | [] => [a]
  | b :: xs => if key b = key a then uniqueFrom a xs else a :: uniqueFrom b xs

def unique : List α → List α
  | [] => []
  | a :: xs => uniqueFrom key a xs

/-- Strictly increasing keys, so that a key names at most one element. -/
def Strict (xs : List α) : Prop := xs.Pairwise (fun a b ↦ key a < key b)

instance (xs : List α) : Decidable (Strict key xs) := inferInstanceAs (Decidable (xs.Pairwise _))

variable {key}

@[simp] theorem lowerBound_nil (k : κ) : lowerBound key k [] = 0 := rfl

theorem find_cons (k : κ) (x : α) (xs : List α) :
    find key k (x :: xs) =
      if key x < k then find key k xs else if key x = k then some x else none := by
  by_cases h : key x < k
  · simp [find, lowerBound, h]
  · by_cases he : key x = k <;> simp [find, lowerBound, h, he, Option.filter]

theorem mem_of_find {k : κ} {xs : List α} {x : α} (h : find key k xs = some x) :
    x ∈ xs ∧ key x = k := by
  obtain ⟨hx, hk⟩ := Option.filter_eq_some_iff.mp h
  exact ⟨List.mem_of_getElem? hx, by simpa using hk⟩

theorem Strict.find_eq_some {xs : List α} (hs : Strict key xs) {x : α} (hx : x ∈ xs) :
    find key (key x) xs = some x := by
  induction xs with
  | nil => cases hx
  | cons y ys ih =>
    obtain ⟨hy, hys⟩ := List.pairwise_cons.mp hs
    rw [find_cons]
    rcases List.mem_cons.mp hx with rfl | hx
    · simp
    · rw [if_pos (hy x hx), ih hys hx]

theorem Strict.find_eq_some_iff {xs : List α} (hs : Strict key xs) {k : κ} {x : α} :
    find key k xs = some x ↔ x ∈ xs ∧ key x = k := by
  refine ⟨mem_of_find, ?_⟩
  intro h
  obtain ⟨hx, rfl⟩ := h
  exact hs.find_eq_some hx

theorem Strict.find_isSome_iff {xs : List α} (hs : Strict key xs) {k : κ} :
    (find key k xs).isSome ↔ ∃ x ∈ xs, key x = k := by
  simp only [Option.isSome_iff_exists, hs.find_eq_some_iff]

theorem Strict.inj {xs : List α} (hs : Strict key xs) {x y : α} (hx : x ∈ xs) (hy : y ∈ xs)
    (h : key x = key y) : x = y := by
  have hfx := hs.find_eq_some hx
  rw [h, hs.find_eq_some hy] at hfx
  exact (Option.some.inj hfx).symm

theorem Strict.nodup {xs : List α} (hs : Strict key xs) : xs.Nodup :=
  List.Pairwise.imp (fun {_ _} h he ↦ absurd (he ▸ h) (lt_irrefl _)) hs

theorem findIndex_eq_some {k : κ} {xs : List α} {i : ℕ} (h : findIndex key k xs = some i) :
    ∃ x, xs[i]? = some x ∧ key x = k ∧ find key k xs = some x := by
  simp only [findIndex, Option.map_eq_some_iff] at h
  obtain ⟨x, hx, rfl⟩ := h
  obtain ⟨hi, hk⟩ := Option.filter_eq_some_iff.mp hx
  exact ⟨x, hi, by simpa using hk, hx⟩

theorem Strict.findIndex_getElem {xs : List α} (hs : Strict key xs) {i : ℕ} {x : α}
    (hx : xs[i]? = some x) : findIndex key (key x) xs = some i := by
  have hf := hs.find_eq_some (List.mem_of_getElem? hx)
  obtain ⟨j, hj⟩ : ∃ j, findIndex key (key x) xs = some j :=
    ⟨_, by rw [findIndex, hf]; rfl⟩
  obtain ⟨y, hy, _, hfy⟩ := findIndex_eq_some hj
  rw [hf] at hfy
  obtain rfl := Option.some.inj hfy
  obtain ⟨hi, hxi⟩ := List.getElem?_eq_some_iff.mp hx
  obtain ⟨hj', hxj⟩ := List.getElem?_eq_some_iff.mp hy
  have he : j = i := (List.Nodup.getElem_inj_iff hs.nodup).mp (hxj.trans hxi.symm)
  rw [hj, he]

theorem Strict.lowerBound_getElem {xs : List α} (hs : Strict key xs) {i : ℕ} {x : α}
    (hx : xs[i]? = some x) : lowerBound key (key x) xs = i := by
  have h := hs.findIndex_getElem hx
  simp only [findIndex, Option.map_eq_some_iff] at h
  obtain ⟨_, -, h⟩ := h
  exact h

theorem find_eq_none_of_findIndex {k : κ} {xs : List α} (h : findIndex key k xs = none) :
    find key k xs = none := by
  simpa [findIndex] using h

theorem lowerBound_congr {ys : List α} : ∀ {xs : List α}, xs.map key = ys.map key →
    ∀ k, lowerBound key k xs = lowerBound key k ys := by
  induction ys with
  | nil => intro xs h k; simp [List.map_eq_nil_iff.mp h]
  | cons y ys ih =>
    intro xs h k
    cases xs with
    | nil => simp at h
    | cons x xs =>
      simp only [List.map_cons, List.cons.injEq] at h
      simp only [lowerBound, h.1, ih h.2 k]

theorem map_key_update {k : κ} {f : α → α} (hf : ∀ x, key (f x) = key x) (xs : List α) :
    (update key k f xs).map key = xs.map key := by
  unfold update
  split
  · rfl
  · apply List.ext_getElem?
    intro j
    simp only [List.getElem?_map, List.getElem?_modify, Option.map_eq_map, Option.map_map]
    congr 1
    funext x
    simp only [Function.comp_apply]
    split <;> simp [hf]

theorem Strict.of_map_key {xs ys : List α} (hs : Strict key xs)
    (h : ys.map key = xs.map key) : Strict key ys := by
  have hx : (xs.map key).Pairwise (· < ·) := List.pairwise_map.mpr hs
  rw [← h] at hx
  exact List.pairwise_map.mp hx

theorem Strict.update {xs : List α} (hs : Strict key xs) {k : κ} {f : α → α}
    (hf : ∀ x, key (f x) = key x) : Strict key (update key k f xs) :=
  hs.of_map_key (map_key_update hf xs)

theorem getElem?_update (k : κ) (f : α → α) (xs : List α) (j : ℕ) :
    (update key k f xs)[j]? =
      if findIndex key k xs = some j then xs[j]?.map f else xs[j]? := by
  unfold update
  cases findIndex key k xs with
  | none => simp
  | some i => by_cases h : i = j <;> simp [h]

theorem find_update {k k' : κ} {f : α → α} (hf : ∀ x, key (f x) = key x) (xs : List α) :
    find key k' (update key k f xs) =
      if k' = k then (find key k xs).map f else find key k' xs := by
  have hlb := lowerBound_congr (map_key_update (k := k) hf xs) k'
  rw [find, hlb, getElem?_update]
  by_cases hk : k' = k
  · subst hk
    rw [if_pos rfl]
    cases hi : findIndex key k' xs with
    | none =>
      have hn := find_eq_none_of_findIndex hi
      rw [hn]
      simpa [find] using hn
    | some i =>
      obtain ⟨x, hx, hkx, hfx⟩ := findIndex_eq_some hi
      obtain rfl : lowerBound key k' xs = i := by simpa [findIndex, hfx] using hi
      simp [hx, hfx, Option.filter, hf, hkx]
  · rw [if_neg hk]
    split
    · next hi =>
      obtain ⟨x, hx, hkx, -⟩ := findIndex_eq_some hi
      have hkk : ¬ key x = k' := fun h ↦ hk (h.symm.trans hkx)
      simp [find, hx, Option.filter, hf, hkk]
    · rfl

theorem insert_cons (x y : α) (ys : List α) :
    insert key x (y :: ys) = if key y < key x then y :: insert key x ys else x :: y :: ys := by
  unfold insert
  rw [lowerBound]
  split <;> simp [List.insertIdx]

theorem mem_insert {x y : α} {xs : List α} : y ∈ insert key x xs ↔ y = x ∨ y ∈ xs := by
  induction xs with
  | nil => simp [insert]
  | cons z zs ih =>
    rw [insert_cons]
    split
    · simp only [List.mem_cons, ih]; tauto
    · simp

theorem Strict.insert {xs : List α} (hs : Strict key xs) {x : α}
    (hx : find key (key x) xs = none) : Strict key (insert key x xs) := by
  induction xs with
  | nil => simp [SortedList.insert, Strict]
  | cons y ys ih =>
    obtain ⟨hy, hys⟩ := List.pairwise_cons.mp hs
    rw [insert_cons]
    rw [find_cons] at hx
    split at hx
    · next h =>
      rw [if_pos h]
      refine List.pairwise_cons.mpr ⟨?_, ih hys hx⟩
      intro z hz
      rcases mem_insert.mp hz with rfl | hz
      · exact h
      · exact hy z hz
    · next h =>
      rw [if_neg h]
      have hlt : key x < key y := by
        rcases lt_trichotomy (key x) (key y) with hl | he | hg
        · exact hl
        · simp [he] at hx
        · exact absurd hg h
      refine List.pairwise_cons.mpr ⟨?_, hs⟩
      intro z hz
      rcases List.mem_cons.mp hz with rfl | hz
      · exact hlt
      · exact hlt.trans (hy z hz)

theorem Strict.find_insert {xs : List α} (hs : Strict key xs) {x : α}
    (hx : find key (key x) xs = none) (k : κ) :
    find key k (SortedList.insert key x xs) = if k = key x then some x else find key k xs := by
  have hi := hs.insert hx
  split
  · next h => subst h; exact hi.find_eq_some (mem_insert.mpr (Or.inl rfl))
  · next h =>
    apply Option.ext
    intro y
    rw [hi.find_eq_some_iff, hs.find_eq_some_iff, mem_insert]
    constructor
    · intro h
      obtain ⟨rfl | hy, rfl⟩ := h
      · exact absurd rfl h
      · exact ⟨hy, rfl⟩
    · intro h
      obtain ⟨hy, rfl⟩ := h
      exact ⟨Or.inr hy, rfl⟩

section Order

local instance total_le : Std.Total (fun a b : α ↦ key a ≤ key b) := ⟨fun a b ↦ le_total (key a) (key b)⟩

local instance isTrans_le : IsTrans α (fun a b : α ↦ key a ≤ key b) := ⟨fun _ _ _ h h' ↦ le_trans h h'⟩

theorem sortBy_pairwise (xs : List α) : (sortBy key xs).Pairwise (fun a b ↦ key a ≤ key b) :=
  List.pairwise_insertionSort _ xs

theorem sublist_sortBy {xs ys : List α} (hys : ys.Pairwise (fun a b ↦ key a ≤ key b))
    (h : ys.Sublist xs) : ys.Sublist (sortBy key xs) := List.sublist_insertionSort hys h

end Order

theorem sortBy_perm (xs : List α) : (sortBy key xs).Perm xs := List.perm_insertionSort _ xs

@[simp] theorem mem_sortBy {x : α} {xs : List α} : x ∈ sortBy key xs ↔ x ∈ xs :=
  (sortBy_perm xs).mem_iff

@[simp] theorem length_sortBy (xs : List α) : (sortBy key xs).length = xs.length :=
  (sortBy_perm xs).length_eq

theorem filter_sortBy {p : α → Bool} (hp : ∀ a b, p a = true → p b = true → key a = key b) (xs : List α) :
    (sortBy key xs).filter p = xs.filter p := by
  have hpair : (xs.filter p).Pairwise (fun a b ↦ key a ≤ key b) := by
    rw [List.pairwise_filter]
    exact List.pairwise_of_forall (fun a b ha hb ↦ (hp a b ha hb).le)
  have hsub := (sublist_sortBy hpair List.filter_sublist).filter p
  simp only [List.filter_filter, Bool.and_self] at hsub
  exact (hsub.eq_of_length ((sortBy_perm xs).filter p).length_eq.symm).symm

theorem sortBy_eq_self {xs : List α} (h : xs.Pairwise (fun a b ↦ key a ≤ key b)) : sortBy key xs = xs :=
  h.insertionSort_eq

theorem takeWhile_drop_lowerBound {xs : List α} (h : xs.Pairwise (fun a b ↦ key a ≤ key b)) (k : κ) :
    (xs.drop (lowerBound key k xs)).takeWhile (fun x ↦ key x = k) = xs.filter (fun x ↦ key x = k) := by
  induction xs with
  | nil => rfl
  | cons x xs ih =>
    obtain ⟨hx, hxs⟩ := List.pairwise_cons.mp h
    by_cases hlt : key x < k
    · rw [lowerBound, if_pos hlt, List.drop_succ_cons, ih hxs, List.filter_cons_of_neg]
      simpa using hlt.ne
    · rw [lowerBound, if_neg hlt, List.drop_zero]
      by_cases he : key x = k
      · have hzero : lowerBound key k xs = 0 := by
          cases xs with
          | nil => rfl
          | cons y ys => rw [lowerBound, if_neg (not_lt.mpr (he ▸ hx y List.mem_cons_self))]
        rw [List.takeWhile_cons_of_pos (by simpa using he), List.filter_cons_of_pos (by simpa using he),
          ← ih hxs, hzero, List.drop_zero]
      · rw [List.takeWhile_cons_of_neg (by simpa using he), eq_comm, List.filter_eq_nil_iff]
        intro y hy
        have hgt : k < key x := lt_of_le_of_ne (not_lt.mp hlt) (Ne.symm he)
        rw [decide_eq_true_eq]
        rcases List.mem_cons.mp hy with rfl | hy
        · exact he
        · exact (hgt.trans_le (hx y hy)).ne'

theorem sortBy_strict {xs : List α} (h : (xs.map key).Nodup) : Strict key (sortBy key xs) := by
  have hn : ((sortBy key xs).map key).Nodup := ((sortBy_perm xs).map key).nodup_iff.mpr h
  have hle : (sortBy key xs).Pairwise (fun a b ↦ key a ≤ key b) := sortBy_pairwise xs
  refine (hle.and (List.pairwise_map.mp hn)).imp ?_
  intro a b h
  obtain ⟨hle, hne⟩ := h
  exact lt_of_le_of_ne hle hne

theorem uniqueFrom_subset {a y : α} {xs : List α} (h : y ∈ uniqueFrom key a xs) :
    y = a ∨ y ∈ xs := by
  induction xs generalizing a with
  | nil => simpa [uniqueFrom] using h
  | cons b xs ih =>
    simp only [uniqueFrom] at h
    split at h
    · rcases ih h with h | h
      · exact Or.inl h
      · exact Or.inr (List.mem_cons_of_mem _ h)
    · rcases List.mem_cons.mp h with h | h
      · exact Or.inl h
      · rcases ih h with h | h <;> simp [h]

theorem exists_mem_uniqueFrom {a x : α} {xs : List α} (h : x = a ∨ x ∈ xs) :
    ∃ y ∈ uniqueFrom key a xs, key y = key x := by
  induction xs generalizing a x with
  | nil =>
    rcases h with rfl | h
    · exact ⟨x, by simp [uniqueFrom], rfl⟩
    · cases h
  | cons b xs ih =>
    simp only [uniqueFrom]
    split
    · next he =>
      rcases h with rfl | h
      · exact ih (Or.inl rfl)
      · rcases List.mem_cons.mp h with rfl | h
        · rw [he]
          exact ih (Or.inl rfl)
        · exact ih (Or.inr h)
    · rcases h with rfl | h
      · exact ⟨x, List.mem_cons_self, rfl⟩
      · obtain ⟨y, hy, hk⟩ := ih (List.mem_cons.mp h)
        exact ⟨y, List.mem_cons_of_mem _ hy, hk⟩

theorem mem_unique_sortBy_id {k : κ} {xs : List κ} : k ∈ unique id (sortBy id xs) ↔ k ∈ xs := by
  have hmem : k ∈ sortBy id xs ↔ k ∈ xs := mem_sortBy
  rw [← hmem]
  cases sortBy id xs with
  | nil => simp [unique]
  | cons a ys =>
    rw [unique, List.mem_cons]
    constructor
    · exact uniqueFrom_subset
    · intro h
      obtain ⟨y, hy, hk⟩ : ∃ y ∈ uniqueFrom id a ys, id y = id k := exists_mem_uniqueFrom h
      rwa [show y = k from hk] at hy

theorem uniqueFrom_strict {a : α} {xs : List α}
    (h : (a :: xs).Pairwise (fun a b ↦ key a ≤ key b)) : Strict key (uniqueFrom key a xs) := by
  induction xs generalizing a with
  | nil => simp [uniqueFrom, Strict]
  | cons b xs ih =>
    obtain ⟨ha, hb⟩ := List.pairwise_cons.mp h
    simp only [uniqueFrom]
    split
    · exact ih (List.pairwise_cons.mpr ⟨fun z hz ↦ ha z (by simp [hz]), hb.of_cons⟩)
    · next hne =>
      refine List.pairwise_cons.mpr ⟨?_, ih hb⟩
      intro z hz
      have hab : key a < key b := lt_of_le_of_ne (ha b (by simp)) (fun h ↦ hne h.symm)
      rcases uniqueFrom_subset hz with rfl | hz
      · exact hab
      · exact hab.trans_le ((List.pairwise_cons.mp hb).1 z hz)

theorem unique_sortBy_strict (xs : List α) : Strict key (unique key (sortBy key xs)) := by
  have h : (sortBy key xs).Pairwise (fun a b ↦ key a ≤ key b) := sortBy_pairwise xs
  cases hs : sortBy key xs with
  | nil => simp [unique, Strict]
  | cons a ys => rw [hs] at h; exact uniqueFrom_strict h

theorem uniqueFrom_eq_self {a : α} {xs : List α} (h : Strict key (a :: xs)) :
    uniqueFrom key a xs = a :: xs := by
  induction xs generalizing a with
  | nil => rfl
  | cons b xs ih =>
    obtain ⟨ha, hb⟩ := List.pairwise_cons.mp h
    have hne : ¬ key b = key a := fun he ↦ absurd (ha b (by simp)) (by simp [he])
    simp only [uniqueFrom, hne, if_false, ih hb]

theorem Strict.unique_eq_self {xs : List α} (h : Strict key xs) : unique key xs = xs := by
  cases xs with
  | nil => rfl
  | cons a xs => exact uniqueFrom_eq_self h

end HotspotGovernor.Lib.SortedList
