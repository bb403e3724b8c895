import Mathlib.Data.List.Nodup
import Mathlib.Data.List.Perm.Subperm
import Mathlib.Logic.Relation

namespace HotspotGovernor.Lib.Ancestors

open Relation

variable {α : Type} (next : α → Option α)

def Next (a b : α) : Prop := next a = some b

def Acyclic : Prop := ∀ a, ¬TransGen (Next next) a a

/-- An element followed by the ones above it, nearest first, at most `n` of them. -/
def climb : ℕ → α → List α
  | 0, _ => []
  | n + 1, a => a :: match next a with
    | none => []
    | some b => climb n b

def ends : ℕ → α → Bool
  | 0, _ => false
  | n + 1, a => match next a with
    | none => true
    | some b => ends n b

/-- An element followed by everything above it, up to the top. -/
inductive Lineage : α → List α → Prop
  | top {a : α} : next a = none → Lineage a [a]
  | above {a b : α} {rest : List α} : next a = some b → Lineage b rest → Lineage a (a :: rest)

variable {next}

theorem climb_succ_of_none {a : α} (h : next a = none) (n : ℕ) : climb next (n + 1) a = [a] := by
  rw [climb, h]

theorem climb_succ_of_some {a b : α} (h : next a = some b) (n : ℕ) :
    climb next (n + 1) a = a :: climb next n b := by
  rw [climb, h]

theorem ends_succ_of_none {a : α} (h : next a = none) (n : ℕ) : ends next (n + 1) a = true := by
  rw [ends, h]

theorem ends_succ_of_some {a b : α} (h : next a = some b) (n : ℕ) :
    ends next (n + 1) a = ends next n b := by
  rw [ends, h]

theorem reflTransGen_of_mem_climb {n : ℕ} {a x : α} (hx : x ∈ climb next n a) :
    ReflTransGen (Next next) a x := by
  induction n generalizing a with
  | zero => cases hx
  | succ n ih =>
    cases hnext : next a with
    | none =>
      rw [climb_succ_of_none hnext, List.mem_singleton] at hx
      rw [hx]
    | some b =>
      rw [climb_succ_of_some hnext] at hx
      rcases List.mem_cons.mp hx with rfl | hx
      · exact .refl
      · exact .head hnext (ih hx)

theorem nodup_climb (h : Acyclic next) (n : ℕ) (a : α) : (climb next n a).Nodup := by
  induction n generalizing a with
  | zero => exact List.nodup_nil
  | succ n ih =>
    cases hnext : next a with
    | none =>
      rw [climb_succ_of_none hnext]
      exact List.nodup_singleton a
    | some b =>
      rw [climb_succ_of_some hnext, List.nodup_cons]
      refine ⟨fun hmem ↦ ?_, ih b⟩
      exact h a (TransGen.head' hnext (reflTransGen_of_mem_climb hmem))

theorem climb_subset {nodes : List α} (hclosed : ∀ a ∈ nodes, ∀ b, next a = some b → b ∈ nodes) {n : ℕ}
    {a : α} (ha : a ∈ nodes) : climb next n a ⊆ nodes := by
  intro x hx
  have hreach := reflTransGen_of_mem_climb hx
  clear hx
  induction hreach with
  | refl => exact ha
  | tail _ hstep ih => exact hclosed _ ih _ hstep

theorem length_climb_of_not_ends {n : ℕ} {a : α} (h : ends next n a = false) :
    (climb next (n + 1) a).length = n + 1 := by
  induction n generalizing a with
  | zero =>
    cases hnext : next a with
    | none => rw [climb_succ_of_none hnext, List.length_singleton]
    | some b => rw [climb_succ_of_some hnext, climb, List.length_singleton]
  | succ n ih =>
    cases hnext : next a with
    | none =>
      rw [ends_succ_of_none hnext] at h
      cases h
    | some b =>
      rw [ends_succ_of_some hnext] at h
      rw [climb_succ_of_some hnext, List.length_cons, ih h]

theorem ends_of_acyclic (h : Acyclic next) {nodes : List α}
    (hclosed : ∀ a ∈ nodes, ∀ b, next a = some b → b ∈ nodes) {a : α} (ha : a ∈ nodes) :
    ends next nodes.length a = true := by
  by_contra hfalse
  have hlength := length_climb_of_not_ends (Bool.not_eq_true _ ▸ hfalse)
  have hsub := List.subperm_of_subset (nodup_climb h (nodes.length + 1) a) (climb_subset hclosed ha)
  have hle := hsub.length_le
  omega

theorem not_ends_of_cycle {n : ℕ} {a : α} (h : TransGen (Next next) a a) : ends next n a = false := by
  induction n generalizing a with
  | zero => rfl
  | succ n ih =>
    obtain ⟨b, hab, hba⟩ := TransGen.head'_iff.mp h
    have hb : TransGen (Next next) b b := TransGen.tail' hba hab
    rw [ends_succ_of_some hab, ih hb]

theorem lineage_climb {n : ℕ} {a : α} (h : ends next n a = true) :
    Lineage next a (climb next n a) := by
  induction n generalizing a with
  | zero => cases h
  | succ n ih =>
    cases hnext : next a with
    | none =>
      rw [climb_succ_of_none hnext]
      exact .top hnext
    | some b =>
      rw [ends_succ_of_some hnext] at h
      rw [climb_succ_of_some hnext]
      exact .above hnext (ih h)

theorem length_climb_le (n : ℕ) (a : α) : (climb next n a).length ≤ n := by
  induction n generalizing a with
  | zero => exact Nat.le_refl 0
  | succ n ih =>
    cases hnext : next a with
    | none =>
      rw [climb_succ_of_none hnext, List.length_singleton]
      omega
    | some b =>
      rw [climb_succ_of_some hnext, List.length_cons]
      exact Nat.succ_le_succ (ih b)

theorem ends_succ {n : ℕ} {a : α} (h : ends next n a = true) : ends next (n + 1) a = true := by
  induction n generalizing a with
  | zero => cases h
  | succ n ih =>
    cases hnext : next a with
    | none => exact ends_succ_of_none hnext _
    | some b =>
      rw [ends_succ_of_some hnext] at h ⊢
      exact ih h

theorem Lineage.head {a : α} {l : List α} (h : Lineage next a l) : l[0]? = some a := by
  cases h with
  | top _ => rfl
  | above _ _ => rfl

theorem Lineage.unique {a : α} {l l' : List α} (h : Lineage next a l) (h' : Lineage next a l') : l = l' := by
  induction h generalizing l' with
  | top hnone =>
    cases h' with
    | top _ => rfl
    | above hsome _ =>
      rw [hnone] at hsome
      cases hsome
  | above hsome _ ih =>
    cases h' with
    | top hnone =>
      rw [hnone] at hsome
      cases hsome
    | above hsome' hrest =>
      rw [hsome] at hsome'
      obtain rfl := Option.some.inj hsome'
      rw [ih hrest]

theorem Lineage.drop {a x : α} {l : List α} (h : Lineage next a l) {k : ℕ} (hx : l[k]? = some x) :
    Lineage next x (l.drop k) := by
  induction h generalizing k with
  | top hnone =>
    cases k with
    | zero =>
      obtain rfl := Option.some.inj hx
      exact .top hnone
    | succ k => cases hx
  | above hsome hrest ih =>
    cases k with
    | zero =>
      obtain rfl := Option.some.inj hx
      exact .above hsome hrest
    | succ k => exact ih hx

end HotspotGovernor.Lib.Ancestors
