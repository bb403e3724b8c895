import HotspotGovernor.Lib.LittleEndian
import Mathlib.Logic.Function.Iterate

namespace HotspotGovernor.Lib.Crc

open LittleEndian Function

variable {w : ℕ} (poly : BitVec w)

/-- One round of a reflected CRC of width `w`: the low bit leaves, and takes the polynomial in. -/
def round (c : BitVec w) : BitVec w := if c.getLsbD 0 then (c >>> 1) ^^^ poly else c >>> 1

theorem round_xor (a b : BitVec w) : round poly (a ^^^ b) = round poly a ^^^ round poly b := by
  simp only [round, BitVec.getLsbD_xor, BitVec.ushiftRight_xor_distrib]
  cases a.getLsbD 0 with
  | false =>
    cases b.getLsbD 0 with
    | false => simp
    | true => simp [BitVec.xor_assoc]
  | true =>
    cases b.getLsbD 0 with
    | false =>
      simp only [Bool.true_bne, Bool.not_false, if_true, Bool.false_eq_true, if_false]
      rw [BitVec.xor_assoc, BitVec.xor_comm (b >>> 1), BitVec.xor_assoc]
    | true =>
      have hcancel : ∀ x y : BitVec w, x ^^^ poly ^^^ (y ^^^ poly) = x ^^^ y := by
        intro x y
        rw [BitVec.xor_comm y poly, ← BitVec.xor_assoc, BitVec.xor_assoc x, BitVec.xor_self, BitVec.xor_zero]
      simp [hcancel]

theorem iterate_xor (n : ℕ) (a b : BitVec w) :
    (round poly)^[n] (a ^^^ b) = (round poly)^[n] a ^^^ (round poly)^[n] b := by
  induction n generalizing a b with
  | zero => rfl
  | succ n ih => rw [iterate_succ_apply, iterate_succ_apply, iterate_succ_apply, round_xor, ih]

variable {poly}

theorem eq_zero_of_round (hpoly : poly.msb = true) {c : BitVec w} (h : round poly c = 0#w) : c = 0#w := by
  simp only [round] at h
  cases hlow : c.getLsbD 0 with
  | true =>
    rw [hlow, if_pos rfl, BitVec.xor_eq_zero_iff] at h
    have hmsb : (c >>> 1).msb = false := by simp [BitVec.msb_ushiftRight]
    rw [h, hpoly] at hmsb
    cases hmsb
  | false =>
    rw [hlow, if_neg Bool.false_ne_true] at h
    apply BitVec.eq_of_getLsbD_eq
    intro i hi
    cases i with
    | zero => simpa using hlow
    | succ i =>
      have hbit : (c >>> 1).getLsbD i = c.getLsbD (i + 1) := by
        rw [BitVec.getLsbD_ushiftRight, Nat.add_comm]
      rw [← hbit, h, BitVec.getLsbD_zero, BitVec.getLsbD_zero]

theorem round_injective (hpoly : poly.msb = true) : Injective (round poly) := by
  intro a b h
  have hzero : round poly (a ^^^ b) = 0#w := by
    rw [round_xor, h, BitVec.xor_self]
  exact BitVec.xor_eq_zero_iff.mp (eq_zero_of_round hpoly hzero)

theorem iterate_shift {n : ℕ} {c : BitVec w} (h : ∀ i < n, c.getLsbD i = false) :
    (round poly)^[n] c = c >>> n := by
  induction n with
  | zero => simp
  | succ n ih =>
    have hlow : (c >>> n).getLsbD 0 = false := by
      rw [BitVec.getLsbD_ushiftRight, Nat.add_zero]
      exact h n (Nat.lt_succ_self n)
    rw [iterate_succ_apply', ih (fun i hi ↦ h i (Nat.lt_succ_of_lt hi)), round, hlow, if_neg Bool.false_ne_true,
      BitVec.shiftRight_add]

variable (poly)

/-- The register after one more byte: the byte goes in at the low end, then eight rounds. -/
def step (c : BitVec w) (b : UInt8) : BitVec w := (round poly)^[8] (c ^^^ BitVec.ofNat w b.toNat)

def run (c : BitVec w) (bytes : List UInt8) : BitVec w := bytes.foldl (step poly) c

def word (bytes : List UInt8) : BitVec w := BitVec.ofNat w (combine bytes)

theorem low_clear (m : ℕ) : ∀ i < 8, (BitVec.ofNat w (2 ^ 8 * m)).getLsbD i = false := by
  intro i hi
  rw [BitVec.getLsbD_ofNat, Nat.testBit_two_pow_mul]
  simp [Nat.not_le.mpr hi]

theorem ofNat_add_high {low : ℕ} (hlow : low < 2 ^ 8) (m : ℕ) :
    BitVec.ofNat w (2 ^ 8 * m + low) = BitVec.ofNat w low ^^^ BitVec.ofNat w (2 ^ 8 * m) := by
  apply BitVec.eq_of_getLsbD_eq
  intro i hi
  rw [BitVec.getLsbD_xor, BitVec.getLsbD_ofNat, BitVec.getLsbD_ofNat, BitVec.getLsbD_ofNat,
    Nat.testBit_two_pow_mul_add m hlow, Nat.testBit_two_pow_mul]
  by_cases hlt : i < 8
  · simp [hlt, Nat.not_le.mpr hlt]
  · have hge : 8 ≤ i := Nat.not_lt.mp hlt
    have hzero : low.testBit i = false :=
      Nat.testBit_lt_two_pow (hlow.trans_le (Nat.pow_le_pow_right (by decide) hge))
    simp [hlt, hge, hzero]

theorem iterate_high {m : ℕ} (hm : 2 ^ 8 * m < 2 ^ w) :
    (round poly)^[8] (BitVec.ofNat w (2 ^ 8 * m)) = BitVec.ofNat w m := by
  rw [iterate_shift (low_clear m)]
  apply BitVec.eq_of_toNat_eq
  rw [BitVec.toNat_ushiftRight, BitVec.toNat_ofNat, BitVec.toNat_ofNat, Nat.mod_eq_of_lt hm,
    Nat.mod_eq_of_lt (by omega), Nat.shiftRight_eq_div_pow, Nat.mul_div_cancel_left _ (by decide)]

theorem step_eq_table (hw : 8 ≤ w) (c : BitVec w) (b : UInt8) :
    step poly c b = (round poly)^[8] ((c ^^^ BitVec.ofNat w b.toNat) &&& BitVec.ofNat w 255) ^^^ (c >>> 8) := by
  set x := c ^^^ BitVec.ofNat w b.toNat with hx
  have hb := b.toNat_lt
  have hpow : 2 ^ 8 ≤ 2 ^ w := Nat.pow_le_pow_right (by decide) hw
  have hlow : (x &&& BitVec.ofNat w 255).toNat = x.toNat % 2 ^ 8 := by
    rw [BitVec.toNat_and, BitVec.toNat_ofNat, Nat.mod_eq_of_lt (by omega)]
    exact Nat.and_two_pow_sub_one_eq_mod x.toNat 8
  have hsplit : x = (x &&& BitVec.ofNat w 255) ^^^ BitVec.ofNat w (2 ^ 8 * (x.toNat / 2 ^ 8)) := by
    have hsum := ofNat_add_high (w := w) (Nat.mod_lt x.toNat (by decide : 0 < 2 ^ 8)) (x.toNat / 2 ^ 8)
    rw [Nat.div_add_mod, BitVec.ofNat_toNat, BitVec.setWidth_eq] at hsum
    rw [← hlow, BitVec.ofNat_toNat, BitVec.setWidth_eq] at hsum
    exact hsum
  have hhigh : BitVec.ofNat w (x.toNat / 2 ^ 8) = c >>> 8 := by
    have hbyte : BitVec.ofNat w b.toNat >>> 8 = 0#w := by
      apply BitVec.eq_of_toNat_eq
      rw [BitVec.toNat_ushiftRight, BitVec.toNat_ofNat, Nat.mod_eq_of_lt (by omega), BitVec.toNat_zero,
        Nat.shiftRight_eq_div_pow]
      omega
    have hshift : x >>> 8 = c >>> 8 := by
      rw [hx, BitVec.ushiftRight_xor_distrib, hbyte, BitVec.xor_zero]
    rw [← hshift]
    apply BitVec.eq_of_toNat_eq
    rw [BitVec.toNat_ushiftRight, BitVec.toNat_ofNat, Nat.shiftRight_eq_div_pow, Nat.mod_eq_of_lt]
    exact lt_of_le_of_lt (Nat.div_le_self _ _) x.isLt
  have hfit : 2 ^ 8 * (x.toNat / 2 ^ 8) < 2 ^ w := lt_of_le_of_lt (Nat.mul_div_le _ _) x.isLt
  rw [step, ← hx, hsplit, iterate_xor, iterate_high poly hfit, ← hsplit, hhigh]

theorem run_eq (c : BitVec w) {bytes : List UInt8} (h : 8 * bytes.length ≤ w) :
    run poly c bytes = (round poly)^[8 * bytes.length] (c ^^^ word bytes) := by
  induction bytes generalizing c with
  | nil => simp [run, word, combine]
  | cons b bytes ih =>
    rw [List.length_cons] at h
    have hfit : 2 ^ 8 * combine bytes < 2 ^ w := by
      have hlt := combine_lt bytes
      calc 2 ^ 8 * combine bytes
          < 2 ^ 8 * 256 ^ bytes.length := by omega
        _ = 2 ^ (8 * (bytes.length + 1)) := by
          rw [show (256 : ℕ) = 2 ^ 8 from rfl, ← pow_mul, ← pow_add]
          congr 1
          omega
        _ ≤ 2 ^ w := Nat.pow_le_pow_right (by decide) h
    have hword : (word (b :: bytes) : BitVec w) =
        BitVec.ofNat w b.toNat ^^^ BitVec.ofNat w (2 ^ 8 * combine bytes) := by
      rw [word, combine, Nat.add_comm]
      exact ofNat_add_high b.toNat_lt _
    have hrun : run poly c (b :: bytes) = run poly (step poly c b) bytes := rfl
    rw [hrun, ih _ (by omega), hword, List.length_cons, Nat.mul_succ, iterate_add_apply, ← BitVec.xor_assoc,
      iterate_xor poly 8, iterate_high poly hfit, step, word]

variable {poly}

theorem word_injective {u v : List UInt8} (hlen : u.length = v.length) (h : 8 * u.length ≤ w)
    (he : (word u : BitVec w) = word v) : u = v := by
  have hsmall : ∀ x : List UInt8, x.length = u.length → combine x < 2 ^ w := by
    intro x hx
    refine (combine_lt x).trans_le ?_
    rw [show (256 : ℕ) = 2 ^ 8 from rfl, ← pow_mul]
    exact Nat.pow_le_pow_right (by decide) (by omega)
  have hval := congrArg BitVec.toNat he
  rw [word, word, BitVec.toNat_ofNat, BitVec.toNat_ofNat, Nat.mod_eq_of_lt (hsmall u rfl),
    Nat.mod_eq_of_lt (hsmall v hlen.symm)] at hval
  rw [← split_combine u, ← split_combine v, hval, hlen]

theorem run_append (c : BitVec w) (u v : List UInt8) : run poly c (u ++ v) = run poly (run poly c u) v :=
  List.foldl_append

theorem run_injective (hpoly : poly.msb = true) (bytes : List UInt8) :
    Injective (fun c ↦ run poly c bytes) := by
  induction bytes with
  | nil => exact fun _ _ h ↦ h
  | cons b bytes ih =>
    intro c c' h
    have hstep : step poly c b = step poly c' b := ih h
    exact (BitVec.xor_left_inj _).mp ((round_injective hpoly).iterate 8 hstep)

theorem window_ne (hpoly : poly.msb = true) (c : BitVec w) {u v : List UInt8} (hlen : u.length = v.length)
    (h : 8 * u.length ≤ w) (hne : u ≠ v) : run poly c u ≠ run poly c v := by
  intro he
  rw [run_eq poly c h, run_eq poly c (hlen ▸ h), hlen] at he
  have hsum := (round_injective hpoly).iterate (8 * v.length) he
  exact hne (word_injective hlen h ((BitVec.xor_right_inj c).mp hsum))

theorem burst_ne (hpoly : poly.msb = true) (c : BitVec w) (front back : List UInt8) {u v : List UInt8}
    (hlen : u.length = v.length) (h : 8 * u.length ≤ w) (hne : u ≠ v) :
    run poly c (front ++ u ++ back) ≠ run poly c (front ++ v ++ back) := by
  intro he
  rw [run_append, run_append, run_append, run_append] at he
  exact window_ne hpoly _ hlen h hne (run_injective hpoly back he)

theorem run_residue {c k : BitVec w} {bytes : List UInt8} (h : 8 * bytes.length ≤ w)
    (hword : word bytes = c ^^^ k) : run poly c bytes = (round poly)^[8 * bytes.length] k := by
  rw [run_eq poly c h, hword, ← BitVec.xor_assoc, BitVec.xor_self, BitVec.zero_xor]

end HotspotGovernor.Lib.Crc
