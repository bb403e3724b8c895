import Mathlib.Data.List.Induction
import Mathlib.Data.List.Nodup
import Mathlib.Data.Nat.Basic

namespace HotspotGovernor.Lib.Upsert

variable {α β κ : Type}

/-- An entry takes the place of the first one with its key. With a new key it comes last, and when the
list is full the first one makes room. -/
def upsert [DecidableEq κ] (key : α → κ) (limit : ℕ) (entries : List α) (x : α) : List α :=
  match entries.findIdx? (fun e ↦ key e = key x) with
  | some i => entries.set i x
  | none => (if entries.length ≥ limit then entries.drop 1 else entries) ++ [x]

def Underflows (limit : ℕ) (entries : List α) : Prop := entries = [] ∧ entries.length ≥ limit

def Evicts (key : α → κ) (limit : ℕ) (entries : List α) (e x : α) : Prop :=
  (∀ y ∈ entries, key y ≠ key x) ∧ entries.length ≥ limit ∧ entries.head? = some e

inductive Upserts (key : α → κ) (limit : ℕ) (x : α) : List α → List α → Prop
  | replaced (pre post : List α) (old : α) (hold : key old = key x) (hpre : ∀ e ∈ pre, key e ≠ key x) :
      Upserts key limit x (pre ++ old :: post) (pre ++ x :: post)
  | appended (entries : List α) (hnew : ∀ e ∈ entries, key e ≠ key x) (hroom : entries.length < limit) :
      Upserts key limit x entries (entries ++ [x])
  | evicted (first : α) (rest : List α) (hnew : ∀ e ∈ first :: rest, key e ≠ key x)
      (hfull : (first :: rest).length ≥ limit) : Upserts key limit x (first :: rest) (rest ++ [x])
  | underflowed (hfull : limit = 0) : Upserts key limit x [] [x]

section

variable [DecidableEq κ] (key : α → κ) (limit : ℕ) (entries : List α) (x : α)

theorem upserts : Upserts key limit x entries (upsert key limit entries x) := by
  unfold upsert
  split
  · next i hi =>
    obtain ⟨hlt, hkey, hbefore⟩ := List.findIdx?_eq_some_iff_getElem.mp hi
    have hpre : ∀ e ∈ entries.take i, key e ≠ key x := by
      intro e he
      obtain ⟨j, hj, rfl⟩ := List.getElem_of_mem he
      rw [List.length_take] at hj
      rw [List.getElem_take]
      simpa using hbefore j (by omega)
    have hset : entries.set i x = entries.take i ++ x :: entries.drop (i + 1) := by
      rw [List.set_eq_take_append_cons_drop, if_pos hlt]
    have hsplit : entries = entries.take i ++ entries[i] :: entries.drop (i + 1) := by
      rw [← List.drop_eq_getElem_cons hlt, List.take_append_drop]
    rw [hset]
    nth_rewrite 1 [hsplit]
    exact .replaced _ _ _ (by simpa using hkey) hpre
  · next hnone =>
    have hnew : ∀ e ∈ entries, key e ≠ key x := by simpa using List.findIdx?_eq_none_iff.mp hnone
    split
    · next hfull =>
      cases entries with
      | nil => exact .underflowed (Nat.le_zero.mp hfull)
      | cons first rest => exact .evicted first rest hnew hfull
    · next hroom => exact .appended entries hnew (not_le.mp hroom)

end

section

variable {key : α → κ} {limit : ℕ} {entries entries' : List α} {x e : α}

theorem Upserts.mem_self (h : Upserts key limit x entries entries') : x ∈ entries' := by
  cases h <;> simp

theorem Upserts.mem (h : Upserts key limit x entries entries') (he : e ∈ entries') : e ∈ entries ∨ e = x := by
  cases h with
  | replaced pre post old hold hpre =>
    rcases List.mem_append.mp he with he | he
    · exact Or.inl (List.mem_append_left _ he)
    rcases List.mem_cons.mp he with he | he
    · exact Or.inr he
    · exact Or.inl (List.mem_append_right _ (List.mem_cons_of_mem _ he))
  | appended _ hnew hroom => exact (List.mem_append.mp he).imp_right List.mem_singleton.mp
  | evicted first rest hnew hfull =>
    exact (List.mem_append.mp he).imp (List.mem_cons_of_mem _) List.mem_singleton.mp
  | underflowed hfull => exact Or.inr (List.mem_singleton.mp he)

theorem Upserts.length_le (h : Upserts key limit x entries entries') : entries.length ≤ entries'.length := by
  cases h <;> simp

theorem Upserts.length_le_limit (h : Upserts key limit x entries entries') (hlimit : 0 < limit)
    (hle : entries.length ≤ limit) : entries'.length ≤ limit := by
  cases h with
  | replaced pre post old hold hpre => simpa using hle
  | appended _ hnew hroom =>
    rw [List.length_append, List.length_singleton]
    exact hroom
  | evicted first rest hnew hfull => simpa using hle
  | underflowed hfull => exact hlimit

theorem Upserts.kept (h : Upserts key limit x entries entries') (he : e ∈ entries) (hkey : key x ≠ key e) :
    e ∈ entries' ∨ Evicts key limit entries e x := by
  cases h with
  | replaced pre post old hold hpre =>
    left
    rcases List.mem_append.mp he with he | he
    · exact List.mem_append_left _ he
    rcases List.mem_cons.mp he with rfl | he
    · exact absurd hold.symm hkey
    · exact List.mem_append_right _ (List.mem_cons_of_mem _ he)
  | appended _ hnew hroom => exact Or.inl (List.mem_append_left _ he)
  | evicted first rest hnew hfull =>
    rcases List.mem_cons.mp he with rfl | he
    · exact Or.inr ⟨hnew, hfull, rfl⟩
    · exact Or.inl (List.mem_append_left _ he)
  | underflowed hfull => cases he

theorem Upserts.pairwise {r : α → α → Prop} (h : Upserts key limit x entries entries')
    (hbefore : ∀ e, key e ≠ key x → r e x) (hafter : ∀ old e, key old = key x → r old e → r x e)
    (hr : entries.Pairwise r) : entries'.Pairwise r := by
  cases h with
  | replaced pre post old hold hpre =>
    obtain ⟨hp, hrest, hcross⟩ := List.pairwise_append.mp hr
    obtain ⟨hhead, htail⟩ := List.pairwise_cons.mp hrest
    refine List.pairwise_append.mpr ⟨hp, List.pairwise_cons.mpr ⟨?_, htail⟩, ?_⟩
    · intro e he
      exact hafter old e hold (hhead e he)
    · intro a ha b hb
      rcases List.mem_cons.mp hb with rfl | hb
      · exact hbefore a (hpre a ha)
      · exact hcross a ha b (List.mem_cons_of_mem _ hb)
  | appended _ hnew hroom =>
    refine List.pairwise_append.mpr ⟨hr, List.pairwise_singleton _ _, ?_⟩
    intro a ha b hb
    rw [List.mem_singleton.mp hb]
    exact hbefore a (hnew a ha)
  | evicted first rest hnew hfull =>
    refine List.pairwise_append.mpr ⟨(List.pairwise_cons.mp hr).2, List.pairwise_singleton _ _, ?_⟩
    intro a ha b hb
    rw [List.mem_singleton.mp hb]
    exact hbefore a (hnew a (List.mem_cons_of_mem _ ha))
  | underflowed hfull => exact List.pairwise_singleton _ _

end

section

variable [DecidableEq κ] {key : α → κ} {limit : ℕ} {entries : List α} {e : α}

theorem mem_foldl {xs : List α} (he : e ∈ xs.foldl (upsert key limit) entries) : e ∈ entries ∨ e ∈ xs := by
  induction xs generalizing entries with
  | nil => exact Or.inl he
  | cons x xs ih =>
    rcases ih he with h | h
    · rcases (upserts key limit entries x).mem h with h | rfl
      · exact Or.inl h
      · exact Or.inr List.mem_cons_self
    · exact Or.inr (List.mem_cons_of_mem _ h)

theorem length_le_foldl (xs : List α) : entries.length ≤ (xs.foldl (upsert key limit) entries).length := by
  induction xs generalizing entries with
  | nil => exact le_rfl
  | cons x xs ih => exact le_trans (upserts key limit entries x).length_le ih

theorem foldl_ne_nil {xs : List α} (h : xs ≠ []) : xs.foldl (upsert key limit) entries ≠ [] := by
  cases xs with
  | nil => exact absurd rfl h
  | cons x xs =>
    have hpos := List.length_pos_of_mem (upserts key limit entries x).mem_self
    exact List.ne_nil_of_length_pos (lt_of_lt_of_le hpos (length_le_foldl xs))

theorem length_foldl_le (xs : List α) (hlimit : 0 < limit) (hle : entries.length ≤ limit) :
    (xs.foldl (upsert key limit) entries).length ≤ limit := by
  induction xs generalizing entries with
  | nil => exact hle
  | cons x xs ih => exact ih ((upserts key limit entries x).length_le_limit hlimit hle)

theorem kept_foldl {xs : List α} (he : e ∈ entries) (hkeys : ∀ x ∈ xs, key x ≠ key e) :
    e ∈ xs.foldl (upsert key limit) entries ∨
      ∃ mid x post, xs = mid ++ x :: post ∧ Evicts key limit (mid.foldl (upsert key limit) entries) e x := by
  induction xs generalizing entries with
  | nil => exact Or.inl he
  | cons x xs ih =>
    rcases (upserts key limit entries x).kept he (hkeys x List.mem_cons_self) with hmem | hout
    · rcases ih hmem (fun y hy ↦ hkeys y (List.mem_cons_of_mem _ hy)) with h | ⟨mid, y, post, rfl, hout⟩
      · exact Or.inl h
      · exact Or.inr ⟨x :: mid, y, post, rfl, hout⟩
    · exact Or.inr ⟨[], x, xs, rfl, hout⟩

theorem pairwise_foldl {r : α → α → Prop} {xs : List α}
    (hbefore : ∀ x ∈ xs, ∀ e, key e ≠ key x → r e x)
    (hafter : ∀ x ∈ xs, ∀ old e, key old = key x → r old e → r x e) (hr : entries.Pairwise r) :
    (xs.foldl (upsert key limit) entries).Pairwise r := by
  induction xs generalizing entries with
  | nil => exact hr
  | cons x xs ih =>
    refine ih (fun y hy ↦ hbefore y (List.mem_cons_of_mem _ hy))
      (fun y hy ↦ hafter y (List.mem_cons_of_mem _ hy)) ?_
    exact (upserts key limit entries x).pairwise (hbefore x List.mem_cons_self) (hafter x List.mem_cons_self) hr

end

section

variable [DecidableEq κ] (key : α → κ) (limit : ℕ) (entries xs : List α)

theorem map_upsert (f : β → α) (marked : List β) (y : β) :
    (upsert (fun b ↦ key (f b)) limit marked y).map f = upsert key limit (marked.map f) (f y) := by
  have hfind : (marked.map f).findIdx? (fun e ↦ key e = key (f y)) =
      marked.findIdx? (fun b ↦ key (f b) = key (f y)) := List.findIdx?_map
  unfold upsert
  rw [hfind, List.length_map]
  cases marked.findIdx? (fun b ↦ key (f b) = key (f y)) with
  | some i => exact List.map_set
  | none =>
    dsimp only
    rw [List.map_append, apply_ite (List.map f), List.map_drop, List.map_singleton]

theorem map_foldl_upsert (f : β → α) (marked ys : List β) :
    (ys.foldl (upsert (fun b ↦ key (f b)) limit) marked).map f =
      (ys.map f).foldl (upsert key limit) (marked.map f) := by
  induction ys generalizing marked with
  | nil => rfl
  | cons y ys ih => rw [List.foldl_cons, ih, map_upsert, List.map_cons, List.foldl_cons]

/-- The list after a run, where what the run put in is told from what was there before. -/
def marked : List (α × Bool) :=
  (xs.map (fun x ↦ (x, true))).foldl (upsert (fun e ↦ key e.1) limit) (entries.map (fun e ↦ (e, false)))

def gained : List α := ((marked key limit entries xs).filter Prod.snd).map Prod.fst

theorem marked_fst : (marked key limit entries xs).map Prod.fst = xs.foldl (upsert key limit) entries := by
  unfold marked
  rw [map_foldl_upsert, List.map_map, List.map_map]
  exact congrArg₂ (List.foldl (upsert key limit)) (List.map_id entries) (List.map_id xs)

theorem marked_pairwise : (marked key limit entries xs).Pairwise (fun a b ↦ key a.1 = key b.1 → b.2 = false) := by
  refine pairwise_foldl ?_ ?_ ?_
  · intro x _ e hne heq
    exact absurd heq hne
  · intro x _ old e hold hr heq
    exact hr (hold.trans heq)
  · rw [List.pairwise_map]
    exact List.pairwise_of_forall fun _ _ _ ↦ rfl

theorem gained_nodup : ((gained key limit entries xs).map key).Nodup := by
  unfold gained
  rw [List.map_map, List.Nodup, List.pairwise_map, List.pairwise_filter]
  refine (marked_pairwise key limit entries xs).imp fun {a b} hr _ hb heq ↦ ?_
  rw [hr heq] at hb
  cases hb

end

end HotspotGovernor.Lib.Upsert
