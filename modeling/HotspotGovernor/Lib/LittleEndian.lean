import Mathlib.Algebra.Order.Ring.Nat

namespace HotspotGovernor.Lib.LittleEndian

/-- The `width` low-order bytes of `v`, least significant first. -/
def split : ℕ → ℕ → List UInt8
  | 0, _ => []
  | width + 1, v => UInt8.ofNat (v % 256) :: split width (v / 256)

def combine : List UInt8 → ℕ
  | [] => 0
  | b :: bs => b.toNat + 256 * combine bs

@[simp] theorem length_split (width v : ℕ) : (split width v).length = width := by
  induction width generalizing v with
  | zero => rfl
  | succ width ih => simp [split, ih]

theorem combine_split (width v : ℕ) : combine (split width v) = v % 256 ^ width := by
  induction width generalizing v with
  | zero => simp [split, combine, Nat.mod_one]
  | succ width ih =>
    have hb : (UInt8.ofNat (v % 256)).toNat = v % 256 := by
      simp [UInt8.toNat_ofNat']
    rw [split, combine, ih, hb, Nat.pow_succ, Nat.mul_comm (256 ^ width) 256, Nat.mod_mul]

theorem combine_lt (bytes : List UInt8) : combine bytes < 256 ^ bytes.length := by
  induction bytes with
  | nil => simp [combine]
  | cons b bs ih =>
    have hb := b.toNat_lt
    rw [combine, List.length_cons, Nat.pow_succ]
    omega

theorem split_combine (bytes : List UInt8) : split bytes.length (combine bytes) = bytes := by
  induction bytes with
  | nil => rfl
  | cons b bs ih =>
    have hb := b.toNat_lt
    have hlow : combine (b :: bs) % 256 = b.toNat := by
      rw [combine]
      omega
    have hhigh : combine (b :: bs) / 256 = combine bs := by
      rw [combine]
      omega
    rw [List.length_cons, split, hlow, hhigh, ih, UInt8.ofNat_toNat]

end HotspotGovernor.Lib.LittleEndian
