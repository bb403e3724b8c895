import HotspotGovernor.Lib.SortedList
import Mathlib.Data.List.Induction

namespace HotspotGovernor.Lib.Csr

open SortedList

variable {α : Type}

def start (offsets : List ℕ) (i : ℕ) : ℕ := offsets.getD i 0

def row (offsets : List ℕ) (ids : List α) (i : ℕ) : List α :=
  (ids.drop (start offsets i)).take (start offsets (i + 1) - start offsets i)

def counts (n : ℕ) (arcs : List (ℕ × α)) : List ℕ :=
  arcs.foldl (fun c e ↦ c.modify e.1 (· + 1)) (List.replicate n 0)

/-- Prefix sums: `offsets[0] = 0` and `offsets[i + 1] = offsets[i] + counts[i]`. -/
def offsets (counts : List ℕ) : List ℕ := counts.scanl (· + ·) 0

def place (st : List ℕ × List α) (e : ℕ × α) : List ℕ × List α :=
  (st.1.modify e.1 (· + 1), st.2.set (st.1.getD e.1 0) e.2)

def fill (offsets : List ℕ) (blank : α) (arcs : List (ℕ × α)) : List α :=
  (arcs.foldl place (offsets.dropLast, List.replicate (offsets.getLastD 0) blank)).2

section Sorting

variable {κ : Type} [LinearOrder κ] (key : α → κ)

def sortRow (offsets : List ℕ) (ids : List α) (i : ℕ) : List α :=
  ids.take (start offsets i) ++ sortBy key (row offsets ids i) ++ ids.drop (start offsets (i + 1))

def sortRows (n : ℕ) (offsets : List ℕ) (ids : List α) : List α :=
  (List.range n).foldl (sortRow key offsets) ids

/-- Sort one row in place, remove its repeats and move its end to the new end; the next row is
then read from that end on. -/
def uniqueRow (st : List ℕ × List α) (i : ℕ) : List ℕ × List α :=
  let sorted := sortBy key (row st.1 st.2 i)
  let kept := unique key sorted
  (st.1.set (i + 1) (start st.1 i + kept.length),
    st.2.take (start st.1 i) ++ (kept ++ sorted.drop kept.length) ++ st.2.drop (start st.1 (i + 1)))

def uniqueRows (n : ℕ) (offsets : List ℕ) (ids : List α) : List ℕ × List α :=
  (List.range n).foldl (uniqueRow key) (offsets, ids)

end Sorting

def compactRow (offsets : List ℕ) (ids : List α) (st : List ℕ × List α) (i : ℕ) : List ℕ × List α :=
  let out := st.2 ++ row offsets ids i
  (st.1 ++ [out.length], out)

def compact (n : ℕ) (offsets : List ℕ) (ids : List α) : List ℕ × List α :=
  (List.range n).foldl (compactRow offsets ids) ([0], [])

def bucket (arcs : List (ℕ × α)) (i : ℕ) : List α :=
  (arcs.filter (fun e ↦ e.1 = i)).map Prod.snd

theorem counts_getD {n : ℕ} (arcs : List (ℕ × α)) {i : ℕ} (hi : i < n) :
    (counts n arcs).getD i 0 = (bucket arcs i).length := by
  have h : ∀ (arcs : List (ℕ × α)) (c : List ℕ), i < c.length →
      (arcs.foldl (fun c e ↦ c.modify e.1 (· + 1)) c).getD i 0 =
        c.getD i 0 + (bucket arcs i).length := by
    intro arcs
    induction arcs with
    | nil => intro c _; simp [bucket]
    | cons e arcs ih =>
      intro c hc
      rw [List.foldl_cons, ih _ (by simpa using hc)]
      by_cases he : e.1 = i
      · subst he
        simp [bucket, List.getD_eq_getElem?_getD, hc]
        omega
      · simp [bucket, List.getD_eq_getElem?_getD, he]
  rw [counts, h arcs _ (by simpa using hi)]
  simp [List.getD_eq_getElem?_getD, hi]

@[simp] theorem length_counts (n : ℕ) (arcs : List (ℕ × α)) : (counts n arcs).length = n := by
  have h : ∀ (arcs : List (ℕ × α)) (c : List ℕ),
      (arcs.foldl (fun c e ↦ c.modify e.1 (· + 1)) c).length = c.length := by
    intro arcs
    induction arcs with
    | nil => intro c; rfl
    | cons e arcs ih => intro c; rw [List.foldl_cons, ih]; simp
  rw [counts, h]
  simp

@[simp] theorem length_offsets (c : List ℕ) : (offsets c).length = c.length + 1 := by
  simp [offsets]

theorem start_zero (c : List ℕ) : start (offsets c) 0 = 0 := by
  cases c <;> simp [start, offsets, List.scanl]

theorem start_succ {c : List ℕ} {i : ℕ} (hi : i < c.length) :
    start (offsets c) (i + 1) = start (offsets c) i + c.getD i 0 := by
  have h := List.getElem?_succ_scanl (f := (· + ·)) (b := 0) (l := c) (i := i)
  have h₀ : i < (c.scanl (· + ·) 0).length := by simp; omega
  simp only [start, offsets, List.getD_eq_getElem?_getD, h]
  simp [List.getElem?_eq_getElem h₀, List.getElem?_eq_getElem hi]

theorem start_mono {c : List ℕ} {i j : ℕ} (hij : i ≤ j) (hj : j ≤ c.length) :
    start (offsets c) i ≤ start (offsets c) j := by
  induction j with
  | zero => rw [Nat.le_zero.mp hij]
  | succ j ih =>
    rcases Nat.lt_or_ge i (j + 1) with h | h
    · have := ih (by omega) (by omega)
      have hs := start_succ (c := c) (i := j) (by omega)
      omega
    · rw [Nat.le_antisymm hij h]

theorem getLastD_offsets (c : List ℕ) : (offsets c).getLastD 0 = start (offsets c) c.length := by
  have h : (offsets c).length - 1 = c.length := by simp
  rw [start, List.getLastD_eq_getLast?, List.getLast?_eq_getElem?, h, List.getD_eq_getElem?_getD]

theorem slot_ne {c : List ℕ} {i j k l : ℕ} (hi : i < c.length) (hj : j < c.length) (hij : i ≠ j)
    (hk : k < c.getD i 0) (hl : l < c.getD j 0) :
    start (offsets c) i + k ≠ start (offsets c) j + l := by
  have hsi := start_succ hi
  have hsj := start_succ hj
  rcases Nat.lt_or_gt_of_ne hij with h | h
  · have := start_mono (c := c) (i := i + 1) (j := j) (by omega) (by omega)
    omega
  · have := start_mono (c := c) (i := j + 1) (j := i) (by omega) (by omega)
    omega

theorem getElem?_row {c : List ℕ} (ids : List α) {i : ℕ} (hi : i < c.length) (k : ℕ) :
    (row (offsets c) ids i)[k]? =
      if k < c.getD i 0 then ids[start (offsets c) i + k]? else none := by
  simp only [row, start_succ hi, Nat.add_sub_cancel_left, List.getElem?_take, List.getElem?_drop]

/-- What the fill loop has done after the arcs `done`: each cursor stands behind the values placed
in its row, and those values are in order. -/
structure Filled (c : List ℕ) (done : List (ℕ × α)) (st : List ℕ × List α) : Prop where
  cursors : st.1.length = c.length
  slots : st.2.length = start (offsets c) c.length
  cursor : ∀ i < c.length, st.1.getD i 0 = start (offsets c) i + (bucket done i).length
  value : ∀ i < c.length, ∀ k < (bucket done i).length,
    st.2[start (offsets c) i + k]? = (bucket done i)[k]?

theorem bucket_append_singleton (done : List (ℕ × α)) (e : ℕ × α) (i : ℕ) :
    bucket (done ++ [e]) i = if e.1 = i then bucket done i ++ [e.2] else bucket done i := by
  by_cases h : e.1 = i <;> simp [bucket, h]

theorem Filled.slot_lt {c : List ℕ} {done : List (ℕ × α)} {st : List ℕ × List α}
    (h : Filled c done st) {i : ℕ} (hi : i < c.length) (hroom : (bucket done i).length < c.getD i 0) :
    start (offsets c) i + (bucket done i).length < st.2.length := by
  have hs := start_succ hi
  have hend := start_mono (c := c) (i := i + 1) (j := c.length) (by omega) le_rfl
  rw [h.slots]
  omega

theorem Filled.place {c : List ℕ} {done : List (ℕ × α)} {st : List ℕ × List α}
    (h : Filled c done st) {e : ℕ × α} (he : e.1 < c.length)
    (hroom : ∀ i < c.length, (bucket (done ++ [e]) i).length ≤ c.getD i 0) :
    Filled c (done ++ [e]) (place st e) := by
  have hpos : (bucket done e.1).length < c.getD e.1 0 := by
    have := hroom e.1 he
    rw [bucket_append_singleton, if_pos rfl, List.length_append, List.length_singleton] at this
    omega
  have hold : ∀ i < c.length, (bucket done i).length ≤ c.getD i 0 := by
    intro i hi
    have := hroom i hi
    rw [bucket_append_singleton] at this
    split at this
    · rw [List.length_append] at this; omega
    · exact this
  have hslot := h.slot_lt he hpos
  have hcur := h.cursor e.1 he
  refine ⟨by simpa [Csr.place] using h.cursors, by simpa [Csr.place] using h.slots, ?_, ?_⟩
  · intro i hi
    have hc := h.cursor i hi
    have hlt : i < st.1.length := by rw [h.cursors]; exact hi
    rw [bucket_append_singleton]
    by_cases hei : e.1 = i
    · subst hei
      simp only [List.getD_eq_getElem?_getD, List.getElem?_eq_getElem hlt, Option.getD_some] at hc
      simp [Csr.place, List.getD_eq_getElem?_getD, hlt, hc]
      omega
    · simpa [Csr.place, List.getD_eq_getElem?_getD, hei] using hc
  · intro i hi k hk
    simp only [Csr.place, hcur]
    rw [bucket_append_singleton] at hk ⊢
    by_cases hei : e.1 = i
    · subst hei
      rw [if_pos rfl] at hk ⊢
      rw [List.length_append, List.length_singleton] at hk
      rcases Nat.lt_or_ge k (bucket done e.1).length with hk' | hk'
      · rw [List.getElem?_set_ne (by omega), h.value _ he _ hk', List.getElem?_append_left hk']
      · obtain rfl : k = (bucket done e.1).length := by omega
        rw [List.getElem?_set_self hslot]
        simp
    · rw [if_neg hei] at hk ⊢
      have hk' := hold i hi
      rw [List.getElem?_set_ne (slot_ne he hi hei hpos (by omega)), h.value i hi k hk]

theorem filled_foldl {c : List ℕ} (st : List ℕ × List α) (h₀ : Filled c [] st)
    (arcs : List (ℕ × α)) (hrow : ∀ e ∈ arcs, e.1 < c.length)
    (hroom : ∀ i < c.length, (bucket arcs i).length ≤ c.getD i 0) :
    Filled c arcs (arcs.foldl Csr.place st) := by
  induction arcs using List.reverseRecOn with
  | nil => exact h₀
  | append_singleton done e ih =>
    have hdone := ih (fun x hx ↦ hrow x (by simp [hx])) (fun i hi ↦ by
      have := hroom i hi
      rw [bucket_append_singleton] at this
      split at this
      · rw [List.length_append] at this; omega
      · exact this)
    rw [List.foldl_append]
    exact hdone.place (hrow e (by simp)) hroom

theorem filled_start {n : ℕ} (blank : α) (arcs : List (ℕ × α)) :
    Filled (counts n arcs) ([] : List (ℕ × α)) ((offsets (counts n arcs)).dropLast,
      List.replicate ((offsets (counts n arcs)).getLastD 0) blank) := by
  refine ⟨by simp, by rw [List.length_replicate, getLastD_offsets], ?_, by simp [bucket]⟩
  intro i hi
  rw [List.getD_eq_getElem?_getD, List.getElem?_dropLast, if_pos (by simp at hi ⊢; omega), start,
    List.getD_eq_getElem?_getD]
  rfl

theorem length_bucket_append (done rest : List (ℕ × α)) (i : ℕ) :
    (bucket (done ++ rest) i).length = (bucket done i).length + (bucket rest i).length := by
  simp [bucket]

theorem place_in_range {n : ℕ} (blank : α) {arcs done rest : List (ℕ × α)} {e : ℕ × α}
    (hrow : ∀ e ∈ arcs, e.1 < n) (hsplit : arcs = done ++ e :: rest) :
    let st := done.foldl place ((offsets (counts n arcs)).dropLast,
      List.replicate ((offsets (counts n arcs)).getLastD 0) blank)
    e.1 < st.1.length ∧ st.1.getD e.1 0 < st.2.length := by
  intro st
  have hn : (counts n arcs).length = n := length_counts n arcs
  have he : e.1 < n := hrow e (by rw [hsplit]; simp)
  have hcount : ∀ i < n, (bucket done i).length + (bucket (e :: rest) i).length = (counts n arcs).getD i 0 := by
    intro i hi
    rw [counts_getD arcs hi, ← length_bucket_append, ← hsplit]
  have hfilled : Filled (counts n arcs) done st := by
    refine filled_foldl _ (filled_start blank arcs) done (fun x hx ↦ ?_) (fun i hi ↦ ?_)
    · rw [hn]
      exact hrow x (by rw [hsplit]; simp [hx])
    · have hi' := hcount i (hn ▸ hi)
      omega
  have hroom : (bucket done e.1).length < (counts n arcs).getD e.1 0 := by
    have hhead : 0 < (bucket (e :: rest) e.1).length := by simp [bucket]
    have hi' := hcount e.1 he
    omega
  have he' : e.1 < (counts n arcs).length := by omega
  rw [hfilled.cursors, hfilled.cursor e.1 he']
  exact ⟨he', hfilled.slot_lt he' hroom⟩

theorem row_fill {n : ℕ} (blank : α) (arcs : List (ℕ × α)) (hrow : ∀ e ∈ arcs, e.1 < n)
    {i : ℕ} (hi : i < n) :
    row (offsets (counts n arcs)) (fill (offsets (counts n arcs)) blank arcs) i = bucket arcs i := by
  have hn : (counts n arcs).length = n := length_counts n arcs
  have h := filled_foldl _ (filled_start blank arcs) arcs (by rwa [hn]) (fun j hj ↦ by
    rw [hn] at hj
    rw [counts_getD arcs hj])
  apply List.ext_getElem?
  intro k
  rw [getElem?_row _ (by omega), counts_getD arcs hi]
  split
  · next hk => exact h.value i (by omega) k hk
  · next hk => rw [List.getElem?_eq_none (by omega)]

theorem length_fill {n : ℕ} (blank : α) (arcs : List (ℕ × α)) :
    (fill (offsets (counts n arcs)) blank arcs).length = start (offsets (counts n arcs)) n := by
  have h : ∀ (arcs : List (ℕ × α)) (st : List ℕ × List α),
      (arcs.foldl Csr.place st).2.length = st.2.length := by
    intro arcs
    induction arcs with
    | nil => intro st; rfl
    | cons e arcs ih => intro st; rw [List.foldl_cons, ih]; simp [Csr.place]
  rw [fill, h, List.length_replicate, getLastD_offsets, length_counts]

theorem start_counts {n : ℕ} {arcs : List (ℕ × α)} (hrow : ∀ e ∈ arcs, e.1 < n) :
    start (offsets (counts n arcs)) n = arcs.length := by
  have h : ∀ i ≤ n, start (offsets (counts n arcs)) i = arcs.countP (fun e ↦ e.1 < i) := by
    intro i hi
    induction i with
    | zero => rw [start_zero, List.countP_eq_zero.mpr (by simp)]
    | succ i ih =>
      rw [start_succ (by rw [length_counts]; omega), ih (by omega), counts_getD arcs (by omega), bucket,
        List.length_map, ← List.countP_eq_length_filter]
      clear ih hi hrow
      induction arcs with
      | nil => rfl
      | cons e arcs ih =>
        simp only [List.countP_cons, decide_eq_true_eq]
        split_ifs <;> omega
  rw [h n le_rfl, List.countP_eq_length.mpr (fun e he ↦ by simpa using hrow e he)]

theorem row_in_range {c : List ℕ} {i length : ℕ} (hi : i < c.length)
    (hlength : length = start (offsets c) c.length) : i + 1 < (offsets c).length ∧
      start (offsets c) i ≤ start (offsets c) (i + 1) ∧ start (offsets c) (i + 1) ≤ length := by
  rw [length_offsets, hlength]
  exact ⟨by omega, start_mono (by omega) (by omega), start_mono (by omega) le_rfl⟩

section Sorting

variable {κ : Type} [LinearOrder κ] {key : α → κ}

theorem row_splice {c : List ℕ} {ids seg : List α} (hlen : ids.length = start (offsets c) c.length)
    {i : ℕ} (hi : i < c.length) (hseg : seg.length = c.getD i 0) {j : ℕ} (hj : j < c.length) :
    row (offsets c) (ids.take (start (offsets c) i) ++ seg ++ ids.drop (start (offsets c) (i + 1))) j =
      if j = i then seg else row (offsets c) ids j := by
  have hsi := start_succ hi
  have hsj := start_succ hj
  have hend := start_mono (c := c) (i := i + 1) (j := c.length) (by omega) le_rfl
  have htake : (ids.take (start (offsets c) i)).length = start (offsets c) i := by
    rw [List.length_take]; omega
  have hget : ∀ m, (ids.take (start (offsets c) i) ++ seg ++
      ids.drop (start (offsets c) (i + 1)))[m]? =
      if m < start (offsets c) i then ids[m]?
      else if m < start (offsets c) (i + 1) then seg[m - start (offsets c) i]? else ids[m]? := by
    intro m
    rw [List.append_assoc]
    rcases Nat.lt_or_ge m (start (offsets c) i) with h | h
    · rw [List.getElem?_append_left (by omega), if_pos h, List.getElem?_take, if_pos h]
    · rw [List.getElem?_append_right (by omega), htake, if_neg (by omega)]
      rcases Nat.lt_or_ge m (start (offsets c) (i + 1)) with h' | h'
      · rw [List.getElem?_append_left (by omega), if_pos h']
      · rw [List.getElem?_append_right (by omega), if_neg (by omega), List.getElem?_drop]
        congr 1
        omega
  apply List.ext_getElem?
  intro k
  rw [getElem?_row _ hj, hget]
  by_cases hji : j = i
  · subst hji
    rw [if_pos rfl]
    split
    · rw [if_neg (by omega), if_pos (by omega), Nat.add_sub_cancel_left]
    · rw [List.getElem?_eq_none (by omega)]
  · rw [if_neg hji, getElem?_row _ hj]
    split
    · rcases Nat.lt_or_gt_of_ne hji with h | h
      · have := start_mono (c := c) (i := j + 1) (j := i) (by omega) (by omega)
        rw [if_pos (by omega)]
      · have := start_mono (c := c) (i := i + 1) (j := j) (by omega) (by omega)
        rw [if_neg (by omega), if_neg (by omega)]
    · rfl

theorem length_splice {c : List ℕ} {ids seg : List α} (hlen : ids.length = start (offsets c) c.length)
    {i : ℕ} (hi : i < c.length) (hseg : seg.length = c.getD i 0) :
    (ids.take (start (offsets c) i) ++ seg ++ ids.drop (start (offsets c) (i + 1))).length =
      start (offsets c) c.length := by
  have hsi := start_succ hi
  have hend := start_mono (c := c) (i := i + 1) (j := c.length) (by omega) le_rfl
  simp only [List.length_append, List.length_take, List.length_drop]
  omega

theorem length_row {c : List ℕ} {ids : List α} (hlen : ids.length = start (offsets c) c.length)
    {i : ℕ} (hi : i < c.length) : (row (offsets c) ids i).length = c.getD i 0 := by
  have hsi := start_succ hi
  have hend := start_mono (c := c) (i := i + 1) (j := c.length) (by omega) le_rfl
  simp only [row, List.length_take, List.length_drop]
  omega

theorem uniqueRow_eq {c : List ℕ} {ids : List α} (hlen : ids.length = start (offsets c) c.length)
    {i : ℕ} (hi : i < c.length) (hnodup : ((row (offsets c) ids i).map key).Nodup) :
    uniqueRow key (offsets c, ids) i =
      (offsets c, ids.take (start (offsets c) i) ++ sortBy key (row (offsets c) ids i) ++
        ids.drop (start (offsets c) (i + 1))) := by
  have hu := (sortBy_strict hnodup).unique_eq_self
  have hl : start (offsets c) i + (row (offsets c) ids i).length = start (offsets c) (i + 1) := by
    rw [length_row hlen hi, start_succ hi]
  have hs : (offsets c).set (i + 1) (start (offsets c) (i + 1)) = offsets c := by
    apply List.ext_getElem?
    intro j
    by_cases hj : i + 1 = j
    · subst hj
      have hlt : i + 1 < (offsets c).length := by simp; omega
      rw [List.getElem?_set_self hlt, start, List.getD_eq_getElem?_getD,
        List.getElem?_eq_getElem hlt, Option.getD_some]
    · rw [List.getElem?_set_ne hj]
  simp only [uniqueRow, hu, length_sortBy, hl, hs]
  have hsorted : (sortBy key (row (offsets c) ids i)).length = (row (offsets c) ids i).length :=
    length_sortBy _
  rw [← hsorted, List.drop_length, List.append_nil]

theorem uniqueRows_spec {c : List ℕ} {ids : List α} (hlen : ids.length = start (offsets c) c.length)
    (hnodup : ∀ i < c.length, ((row (offsets c) ids i).map key).Nodup) {n : ℕ} (hn : n ≤ c.length) :
    ∃ ids', uniqueRows key n (offsets c) ids = (offsets c, ids') ∧
      ids'.length = start (offsets c) c.length ∧
      ∀ j < c.length, row (offsets c) ids' j =
        if j < n then sortBy key (row (offsets c) ids j) else row (offsets c) ids j := by
  induction n with
  | zero => exact ⟨ids, rfl, hlen, fun j _ ↦ by simp⟩
  | succ n ih =>
    obtain ⟨ids', he, hl, hrow⟩ := ih (by omega)
    have hni : n < c.length := by omega
    have hrn : row (offsets c) ids' n = row (offsets c) ids n := by
      rw [hrow n hni, if_neg (by omega)]
    have hseg : (sortBy key (row (offsets c) ids' n)).length = c.getD n 0 := by
      rw [length_sortBy, length_row hl hni]
    refine ⟨_, ?_, length_splice hl hni hseg, ?_⟩
    · rw [uniqueRows, List.range_succ, List.foldl_append, ← uniqueRows, he]
      exact uniqueRow_eq hl hni (by rw [hrn]; exact hnodup n hni)
    · intro j hj
      rw [row_splice hl hni hseg hj]
      by_cases hjn : j = n
      · subst hjn; rw [if_pos rfl, if_pos (by omega), hrn]
      · rw [if_neg hjn, hrow j hj]
        by_cases h : j < n
        · rw [if_pos h, if_pos (by omega)]
        · rw [if_neg h, if_neg (by omega)]

theorem sortRows_spec {c : List ℕ} {ids : List α} (hlen : ids.length = start (offsets c) c.length)
    {n : ℕ} (hn : n ≤ c.length) :
    (sortRows key n (offsets c) ids).length = start (offsets c) c.length ∧
      ∀ j < c.length, row (offsets c) (sortRows key n (offsets c) ids) j =
        if j < n then sortBy key (row (offsets c) ids j) else row (offsets c) ids j := by
  induction n with
  | zero => exact ⟨hlen, fun j _ ↦ by simp [sortRows]⟩
  | succ n ih =>
    obtain ⟨hl, hrow⟩ := ih (by omega)
    have hni : n < c.length := by omega
    have hseg : (sortBy key (row (offsets c) (sortRows key n (offsets c) ids) n)).length = c.getD n 0 := by
      rw [length_sortBy, length_row hl hni]
    have hstep : sortRows key (n + 1) (offsets c) ids =
        sortRow key (offsets c) (sortRows key n (offsets c) ids) n := by
      rw [sortRows, List.range_succ, List.foldl_append, ← sortRows]
      rfl
    rw [hstep, sortRow]
    refine ⟨length_splice hl hni hseg, ?_⟩
    intro j hj
    rw [row_splice hl hni hseg hj]
    by_cases hjn : j = n
    · subst hjn
      rw [if_pos rfl, if_pos (by omega), hrow j hj, if_neg (by omega)]
    · rw [if_neg hjn, hrow j hj]
      by_cases h : j < n
      · rw [if_pos h, if_pos (by omega)]
      · rw [if_neg h, if_neg (by omega)]

theorem length_sortRows_fill {n : ℕ} (blank : α) (arcs : List (ℕ × α)) {i : ℕ} (hi : i ≤ n) :
    (sortRows key i (offsets (counts n arcs)) (fill (offsets (counts n arcs)) blank arcs)).length =
      start (offsets (counts n arcs)) (counts n arcs).length := by
  have hn : (counts n arcs).length = n := length_counts n arcs
  refine (sortRows_spec ?_ (by omega)).1
  rw [hn]
  exact length_fill blank arcs

theorem row_sortRows_fill {n : ℕ} (blank : α) (arcs : List (ℕ × α)) (hrow : ∀ e ∈ arcs, e.1 < n)
    {i : ℕ} (hi : i < n) :
    row (offsets (counts n arcs))
        (sortRows key n (offsets (counts n arcs)) (fill (offsets (counts n arcs)) blank arcs)) i =
      sortBy key (bucket arcs i) := by
  have hn : (counts n arcs).length = n := length_counts n arcs
  have hlen : (fill (offsets (counts n arcs)) blank arcs).length =
      start (offsets (counts n arcs)) (counts n arcs).length := by
    rw [hn]
    exact length_fill blank arcs
  rw [(sortRows_spec hlen (by omega)).2 i (by omega), if_pos hi, row_fill blank arcs hrow hi]

end Sorting

theorem take_append_row {c : List ℕ} {ids : List α} {i : ℕ} (hi : i < c.length) :
    ids.take (start (offsets c) i) ++ row (offsets c) ids i =
      ids.take (start (offsets c) (i + 1)) := by
  rw [row, start_succ hi, Nat.add_sub_cancel_left, ← List.take_add]

theorem compact_eq {c : List ℕ} {ids : List α} (hlen : ids.length = start (offsets c) c.length) :
    compact c.length (offsets c) ids = (offsets c, ids) := by
  have h : ∀ n ≤ c.length, (List.range n).foldl (compactRow (offsets c) ids) ([0], []) =
      ((offsets c).take (n + 1), ids.take (start (offsets c) n)) := by
    intro n hn
    induction n with
    | zero =>
      rw [start_zero]
      cases c <;> simp [offsets, List.scanl]
    | succ n ih =>
      have hni : n < c.length := by omega
      have hend := start_mono (c := c) (i := n + 1) (j := c.length) (by omega) le_rfl
      have hlt : n + 1 < (offsets c).length := by simp; omega
      rw [List.range_succ, List.foldl_append, ih (by omega)]
      simp only [List.foldl_cons, List.foldl_nil, compactRow, take_append_row hni]
      rw [List.length_take, Nat.min_eq_left (by omega), List.take_add_one (i := n + 1),
        List.getElem?_eq_getElem hlt, start, List.getD_eq_getElem?_getD,
        List.getElem?_eq_getElem hlt]
      rfl
  rw [compact, h c.length le_rfl, ← hlen, List.take_length, List.take_of_length_le (by simp)]

end HotspotGovernor.Lib.Csr
