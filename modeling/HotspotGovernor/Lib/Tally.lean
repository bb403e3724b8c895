import Mathlib.Algebra.Order.Ring.Nat
import Mathlib.Data.List.Basic
import Mathlib.Tactic.Common

namespace HotspotGovernor.Lib.Tally

variable {E : Type}

def tally (weight : E → ℕ) (past : List E) : ℕ := past.foldl (fun n e ↦ n + weight e) 0

def unit (kind : E → Bool) (e : E) : ℕ := if kind e then 1 else 0

/-- A counter of 64 bits that stays at its largest value. -/
def saturated (n : ℕ) : UInt64 := UInt64.ofNat (min n (2 ^ 64 - 1))

theorem tally_snoc {weight : E → ℕ} (past : List E) (e : E) :
    tally weight (past ++ [e]) = tally weight past + weight e := by
  unfold tally
  rw [List.foldl_append]
  rfl

theorem saturated_toNat (n : ℕ) : (saturated n).toNat = min n (2 ^ 64 - 1) := by
  unfold saturated
  rw [UInt64.toNat_ofNat']
  omega

theorem saturated_toNat_eq (x : UInt64) : saturated x.toNat = x := by
  rw [← UInt64.toNat_inj, saturated_toNat]
  exact min_eq_left (Nat.le_pred_of_lt x.toNat_lt)

theorem saturated_eq_iff {x : UInt64} {n : ℕ} : x = saturated n ↔ x.toNat = min n (2 ^ 64 - 1) := by
  rw [← UInt64.toNat_inj, saturated_toNat]

theorem countP_set {α : Type} {p : α → Bool} {xs : List α} {i : ℕ} {x : α} (hx : xs[i]? = some x) (y : α) :
    (xs.set i y).countP p + unit p x = xs.countP p + unit p y := by
  induction xs generalizing i with
  | nil => cases hx
  | cons first xs ih =>
    cases i with
    | zero =>
      obtain rfl := Option.some.inj hx
      rw [List.set_cons_zero, List.countP_cons, List.countP_cons]
      unfold unit
      omega
    | succ i =>
      have hrest := @ih i hx
      rw [List.set_cons_succ, List.countP_cons, List.countP_cons]
      omega

end HotspotGovernor.Lib.Tally
