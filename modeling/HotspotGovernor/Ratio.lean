import HotspotGovernor.Hotspots
import Mathlib.Data.Rat.Floor
import Mathlib.Tactic.Positivity
import Mathlib.Tactic.Linarith
import Mathlib.Tactic.FieldSimp
import Mathlib.Tactic.NormNum

namespace HotspotGovernor.Ratio

open Foundation Lib Detection Sampling Hotspots

/-- A floating format on the range the overflow branch computes in. Only a crude relative error is
asked for: the 53, 64 and 113 bit formats a `long double` can have, in any rounding mode, are all
far closer. -/
structure Rounding where
  fl : ℚ → ℚ
  close : ∀ x, |fl x - x| ≤ |x| / 2 ^ 10

namespace Rounding

variable (r : Rounding)

theorem le {x : ℚ} (hx : 0 ≤ x) : r.fl x ≤ x * (1 + 1 / 2 ^ 10) := by
  have h := (abs_le.mp (r.close x)).2
  rw [abs_of_nonneg hx] at h
  linarith

theorem ge {x : ℚ} (hx : 0 ≤ x) : x * (1 - 1 / 2 ^ 10) ≤ r.fl x := by
  have h := (abs_le.mp (r.close x)).1
  rw [abs_of_nonneg hx] at h
  linarith

theorem nonneg {x : ℚ} (hx : 0 ≤ x) : 0 ≤ r.fl x := by
  refine le_trans ?_ (r.ge hx)
  apply mul_nonneg hx
  norm_num

/-- The quotient as the source forms it: both operands converted, then multiplied, then divided,
each step rounded. -/
def quotient (part whole : ℕ) : ℚ := r.fl (r.fl (r.fl part * 1000000) / r.fl whole)

theorem quotient_nonneg (part whole : ℕ) : 0 ≤ r.quotient part whole := by
  apply r.nonneg
  apply div_nonneg (r.nonneg _) (r.nonneg (by positivity))
  exact mul_nonneg (r.nonneg (by positivity)) (by norm_num)

theorem quotient_lt {part whole : ℕ} (hw : 0 < whole) (hle : part ≤ whole) :
    r.quotient part whole < 2 ^ 20 := by
  have hw' : (0 : ℚ) < whole := by exact_mod_cast hw
  have hle' : (part : ℚ) ≤ whole := by exact_mod_cast hle
  have hpart : r.fl part ≤ whole * (1 + 1 / 2 ^ 10) :=
    (r.le (by positivity)).trans (mul_le_mul_of_nonneg_right hle' (by norm_num))
  have hpos : 0 < r.fl whole := lt_of_lt_of_le (mul_pos hw' (by norm_num)) (r.ge hw'.le)
  have hscaled : r.fl (r.fl part * 1000000) ≤
      whole * (1 + 1 / 2 ^ 10) * 1000000 * (1 + 1 / 2 ^ 10) := by
    refine (r.le (mul_nonneg (r.nonneg (by positivity)) (by norm_num))).trans ?_
    gcongr
  have hdiv : r.fl (r.fl part * 1000000) / r.fl whole ≤
      (1 + 1 / 2 ^ 10) * 1000000 * (1 + 1 / 2 ^ 10) / (1 - 1 / 2 ^ 10) := by
    rw [div_le_iff₀ hpos]
    refine hscaled.trans ?_
    have hge := r.ge hw'.le
    rw [div_mul_eq_mul_div, le_div_iff₀ (by norm_num)]
    nlinarith
  have hq : 0 ≤ r.fl (r.fl part * 1000000) / r.fl whole :=
    div_nonneg (r.nonneg (mul_nonneg (r.nonneg (by positivity)) (by norm_num))) hpos.le
  calc r.quotient part whole
      ≤ r.fl (r.fl part * 1000000) / r.fl whole * (1 + 1 / 2 ^ 10) := r.le hq
    _ ≤ (1 + 1 / 2 ^ 10) * 1000000 * (1 + 1 / 2 ^ 10) / (1 - 1 / 2 ^ 10) * (1 + 1 / 2 ^ 10) :=
      mul_le_mul_of_nonneg_right hdiv (by norm_num)
    _ < 2 ^ 20 := by norm_num

end Rounding

/-- `ratioPpm` with the overflow branch left in floating point. -/
def ratioPpmIn (r : Rounding) (part whole : UInt64) : Option UInt32 :=
  if whole = 0 then none
  else
    let q := part / whole
    if q ≥ kUInt32Max.toUInt64 then some kUInt32Max
    else
      let rem := part % whole
      let scaled := (mulOk rem kPpmScale).getD
        (UInt64.ofNat ⌊r.quotient rem.toNat whole.toNat⌋₊)
      let total := q * kPpmScale + scaled / whole
      if total > kUInt32Max.toUInt64 then some kUInt32Max else some total.toUInt32

theorem satAdd_toNat (a b : UInt64) : (satAdd a b).toNat = min (a.toNat + b.toNat) (2 ^ 64 - 1) := by
  have ha := a.toNat_lt
  have hb := b.toNat_lt
  have hmax : kUInt64Max.toNat = 2 ^ 64 - 1 := by rfl
  have hsub : (kUInt64Max - b).toNat = 2 ^ 64 - 1 - b.toNat := by
    rw [UInt64.toNat_sub_of_le _ _ (UInt64.le_iff_toNat_le.mpr (by omega)), hmax]
  simp only [satAdd, addOk, UInt64.lt_iff_toNat_lt, hsub]
  split
  · rw [Option.getD_none, hmax]
    omega
  · rw [Option.getD_some, UInt64.toNat_add]
    omega

theorem toNat_pos {x : UInt64} (h : x ≠ 0) : 0 < x.toNat := by
  apply Nat.pos_of_ne_zero
  intro h0
  exact h (UInt64.toNat_inj.mp h0)

theorem mulOk_eq (a b : UInt64) :
    mulOk a b = if a.toNat * b.toNat < 2 ^ 64 then some (a * b) else none := by
  have ha := a.toNat_lt
  have hb := b.toNat_lt
  have hmax : kUInt64Max.toNat = 2 ^ 64 - 1 := by rfl
  by_cases hz : a = 0
  · simp [mulOk, hz]
  · have hpos := toNat_pos hz
    have hiff : kUInt64Max / a < b ↔ ¬a.toNat * b.toNat < 2 ^ 64 := by
      rw [UInt64.lt_iff_toNat_lt, UInt64.toNat_div, hmax, Nat.div_lt_iff_lt_mul hpos, mul_comm]
      omega
    simp only [mulOk, hiff, ne_eq, hz, not_false_eq_true, true_and]
    split <;> simp_all

/-- The overflow branch contributes nothing, whatever it is rounded to: its quotient is below
`2 ^ 20`, the branch is only taken for a larger `whole`, and the source divides once more. -/
theorem overflow_div {s rem whole : UInt64} (hs : s.toNat ≤ 2 ^ 20)
    (hle : rem.toNat < whole.toNat) (hover : 2 ^ 64 ≤ rem.toNat * 1000000) : s / whole = 0 := by
  apply UInt64.toNat_inj.mp
  rw [UInt64.toNat_div]
  apply Nat.div_eq_of_lt
  omega

theorem scaled_div {rem whole s : UInt64} (hlt : rem.toNat < whole.toNat) (hs : s.toNat ≤ 2 ^ 20) :
    ((mulOk rem kPpmScale).getD s / whole).toNat =
      if rem.toNat * 1000000 < 2 ^ 64 then rem.toNat * 1000000 / whole.toNat else 0 := by
  have hk : kPpmScale.toNat = 1000000 := by rfl
  rw [mulOk_eq, hk]
  split
  · rename_i hfit
    rw [Option.getD_some, UInt64.toNat_div, UInt64.toNat_mul, hk, Nat.mod_eq_of_lt hfit]
  · rename_i hover
    rw [Option.getD_none, overflow_div hs hlt (by omega)]
    rfl

theorem quotient_toNat (r : Rounding) {part whole : ℕ} (hlt : part < whole) :
    (UInt64.ofNat ⌊r.quotient part whole⌋₊).toNat ≤ 2 ^ 20 := by
  have h := (Nat.floor_lt (r.quotient_nonneg part whole)).mpr
    (show r.quotient part whole < (2 ^ 20 : ℕ) by exact_mod_cast r.quotient_lt (by omega) hlt.le)
  rw [UInt64.toNat_ofNat']
  exact (Nat.mod_le _ _).trans h.le

theorem exactQuotient_toNat {part whole : ℕ} (hlt : part < whole) :
    (UInt64.ofNat (part * kPpmScale.toNat / whole)).toNat ≤ 2 ^ 20 := by
  have hk : kPpmScale.toNat = 1000000 := by rfl
  rw [UInt64.toNat_ofNat', hk]
  refine (Nat.mod_le _ _).trans ((Nat.div_le_div_right (Nat.mul_le_mul_right _ hlt.le)).trans ?_)
  rw [Nat.mul_div_cancel_left _ (by omega)]
  norm_num

theorem rem_lt (part : UInt64) {whole : UInt64} (hw : whole ≠ 0) : (part % whole).toNat < whole.toNat := by
  rw [UInt64.toNat_mod]
  exact Nat.mod_lt _ (toNat_pos hw)

theorem ratioPpmIn_eq (r : Rounding) (part whole : UInt64) :
    ratioPpmIn r part whole = ratioPpm part whole := by
  by_cases hw : whole = 0
  · simp [ratioPpmIn, ratioPpm, hw]
  · have hlt := rem_lt part hw
    have h : (mulOk (part % whole) kPpmScale).getD
          (UInt64.ofNat ⌊r.quotient (part % whole).toNat whole.toNat⌋₊) / whole =
        (mulOk (part % whole) kPpmScale).getD
          (UInt64.ofNat ((part % whole).toNat * kPpmScale.toNat / whole.toNat)) / whole := by
      apply UInt64.toNat_inj.mp
      rw [scaled_div hlt (quotient_toNat r hlt), scaled_div hlt (exactQuotient_toNat hlt)]
    simp only [ratioPpmIn, ratioPpm, h]

def exactPpm (part whole : ℕ) : ℕ := min (part * 1000000 / whole) (2 ^ 32 - 1)

theorem exactPpm_mono {part part' whole : ℕ} (h : part ≤ part') :
    exactPpm part whole ≤ exactPpm part' whole := by
  have hdiv : part * 1000000 / whole ≤ part' * 1000000 / whole :=
    Nat.div_le_div_right (Nat.mul_le_mul_right _ h)
  simp only [exactPpm]
  omega

theorem le_exactPpm {share part whole : ℕ} (hw : 0 < whole) (hs : share < 2 ^ 32)
    (h : share * whole ≤ part * 1000000) : share ≤ exactPpm part whole := by
  have hdiv : share ≤ part * 1000000 / whole := (Nat.le_div_iff_mul_le hw).mpr h
  simp only [exactPpm]
  omega

/-- What `ratioPpm` computes: the remainder counts only while its product with the scale fits. -/
def codePpm (part whole : ℕ) : ℕ :=
  min (part / whole * 1000000 +
    if part % whole * 1000000 < 2 ^ 64 then part % whole * 1000000 / whole else 0) (2 ^ 32 - 1)

theorem div_scale (part : ℕ) {whole : ℕ} (hw : 0 < whole) :
    part * 1000000 / whole = part / whole * 1000000 + part % whole * 1000000 / whole := by
  have h : part * 1000000 = part % whole * 1000000 + whole * (part / whole * 1000000) := by
    conv_lhs => rw [← Nat.mod_add_div part whole]
    ring
  rw [h, Nat.add_mul_div_left _ _ hw, add_comm]

theorem saturate_toNat (total : UInt64) :
    (if total > kUInt32Max.toUInt64 then kUInt32Max else total.toUInt32).toNat =
      min total.toNat (2 ^ 32 - 1) := by
  have hm : kUInt32Max.toUInt64.toNat = 2 ^ 32 - 1 := by rfl
  have hm' : kUInt32Max.toNat = 2 ^ 32 - 1 := by rfl
  by_cases h : total > kUInt32Max.toUInt64
  · rw [if_pos h, hm']
    rw [gt_iff_lt, UInt64.lt_iff_toNat_lt, hm] at h
    omega
  · rw [if_neg h, UInt64.toNat_toUInt32]
    rw [gt_iff_lt, UInt64.lt_iff_toNat_lt, hm] at h
    omega

theorem ratioPpm_spec (part : UInt64) {whole : UInt64} (hw : whole ≠ 0) :
    ∃ v, ratioPpm part whole = some v ∧ v.toNat = codePpm part.toNat whole.toNat := by
  have hm : kUInt32Max.toUInt64.toNat = 2 ^ 32 - 1 := by rfl
  have hk : kPpmScale.toNat = 1000000 := by rfl
  have hlt := rem_lt part hw
  have hfrac := scaled_div hlt (exactQuotient_toNat hlt)
  simp only [UInt64.toNat_mod, hk] at hlt hfrac
  by_cases hq : part / whole ≥ kUInt32Max.toUInt64
  · refine ⟨kUInt32Max, by simp only [ratioPpm, if_neg hw, if_pos hq], ?_⟩
    rw [ge_iff_le, UInt64.le_iff_toNat_le, hm, UInt64.toNat_div] at hq
    have hm' : kUInt32Max.toNat = 2 ^ 32 - 1 := by rfl
    rw [hm', codePpm]
    omega
  · simp only [ratioPpm, if_neg hw, if_neg hq, ← apply_ite some]
    refine ⟨_, rfl, ?_⟩
    rw [ge_iff_le, UInt64.le_iff_toNat_le, hm, UInt64.toNat_div] at hq
    have hsmall : part.toNat % whole.toNat * 1000000 / whole.toNat ≤ 1000000 := by
      apply Nat.div_le_of_le_mul
      exact Nat.mul_le_mul_right _ hlt.le
    have hprod : part.toNat / whole.toNat * 1000000 < 2 ^ 64 := by
      clear hm hk hfrac
      omega
    have hsum : ∀ f ≤ 1000000, part.toNat / whole.toNat * 1000000 + f < 2 ^ 64 := by
      clear hm hk hfrac
      omega
    have hbound : (if part.toNat % whole.toNat * 1000000 < 2 ^ 64 then
        part.toNat % whole.toNat * 1000000 / whole.toNat else 0) ≤ 1000000 :=
      ite_le_sup _ _ _ |>.trans (sup_le hsmall (Nat.zero_le _))
    rw [saturate_toNat, codePpm, UInt64.toNat_add, UInt64.toNat_mul, UInt64.toNat_div, hk,
      UInt64.toNat_mod, hfrac, Nat.mod_eq_of_lt hprod, Nat.mod_eq_of_lt (hsum _ hbound)]

/-- The remainder's product with the scale fits 64 bits, or the whole part alone saturates. -/
def Fits (part whole : ℕ) : Prop :=
  part % whole * 1000000 < 2 ^ 64 ∨ 2 ^ 32 - 1 ≤ part / whole * 1000000

instance (part whole : ℕ) : Decidable (Fits part whole) := inferInstanceAs (Decidable (_ ∨ _))

theorem codePpm_le {part whole : ℕ} (hw : 0 < whole) : codePpm part whole ≤ exactPpm part whole := by
  have hscale := div_scale part hw
  by_cases hfit : part % whole * 1000000 < 2 ^ 64
  · simp only [codePpm, exactPpm, hscale, hfit, if_true, le_refl]
  · simp only [codePpm, exactPpm, hscale, hfit, if_false]
    apply min_le_min_right
    apply Nat.add_le_add_left (Nat.zero_le _)

theorem codePpm_of_not_fits {part whole : ℕ} (h : ¬Fits part whole) :
    codePpm part whole = part / whole * 1000000 := by
  rw [Fits, not_or] at h
  rw [codePpm, if_neg h.1]
  omega

theorem codePpm_eq_iff {part whole : ℕ} (hw : 0 < whole) (hmax : whole < 2 ^ 64) :
    codePpm part whole = exactPpm part whole ↔ Fits part whole := by
  have hscale := div_scale part hw
  by_cases hfit : part % whole * 1000000 < 2 ^ 64
  · simp only [codePpm, exactPpm, hscale, Fits, hfit, if_true, true_or]
  · -- the lost fraction is at least one part per million
    have hlost : 1 ≤ part % whole * 1000000 / whole := (Nat.one_le_div_iff hw).mpr (by omega)
    simp only [codePpm, exactPpm, hscale, Fits, hfit, if_false, false_or]
    omega

theorem hotspotOf_sharePpm (scene : Scene) (component : List ℕ) (hw : scene.tally.fabricCapacity ≠ 0) :
    (scene.hotspotOf component).sharePpm.toNat =
      codePpm (scene.componentCapacity component).toNat scene.tally.fabricCapacity.toNat := by
  obtain ⟨v, hv, heq⟩ := ratioPpm_spec (scene.componentCapacity component) hw
  have hshare : (scene.hotspotOf component).sharePpm = v := by
    change (ratioPpm _ _).getD 0 = v
    rw [hv, Option.getD_some]
  rw [hshare, heq]

/-- The ratio is exact, in every rounding of the overflow branch, exactly when the remainder's product
fits or the ratio saturates anyway. A part that fits is never ranked below a smaller one, and a
component that holds its global share is given that share unless the fraction is lost. -/
theorem ratioPpmIn_exact_iff (r : Rounding) (part whole : UInt64) (hw : whole ≠ 0) :
    ((∃ v, ratioPpmIn r part whole = some v ∧ v.toNat = exactPpm part.toNat whole.toNat) ↔
      Fits part.toNat whole.toNat) ∧
    (∀ smaller v v', smaller ≤ part → Fits part.toNat whole.toNat →
      ratioPpmIn r smaller whole = some v → ratioPpmIn r part whole = some v' → v ≤ v') ∧
    ∀ (scene : Scene) (component : List ℕ), scene.componentCapacity component = part →
      scene.tally.fabricCapacity = whole →
      scene.thresholds.globalSharePpm.toNat * whole.toNat ≤ part.toNat * 1000000 →
      (scene.thresholds.globalSharePpm ≤ (scene.hotspotOf component).sharePpm ↔
        Fits part.toNat whole.toNat ∨
          scene.thresholds.globalSharePpm.toNat ≤ part.toNat / whole.toNat * 1000000) := by
  have hpos := toNat_pos hw
  obtain ⟨v, hv, heq⟩ := ratioPpm_spec part hw
  refine ⟨?_, ?_, ?_⟩
  · rw [ratioPpmIn_eq, ← codePpm_eq_iff hpos whole.toNat_lt, ← heq]
    constructor
    · rintro ⟨w, hw', hexact⟩
      rw [hv, Option.some_inj] at hw'
      rw [hw', hexact]
    · intro h
      exact ⟨v, hv, h⟩
  · intro smaller w w' hle hfit hsmall hpart
    obtain ⟨u, hu, hueq⟩ := ratioPpm_spec smaller hw
    rw [ratioPpmIn_eq, hu, Option.some_inj] at hsmall
    rw [ratioPpmIn_eq, hv, Option.some_inj] at hpart
    subst hsmall hpart
    rw [UInt32.le_iff_toNat_le, hueq, heq, (codePpm_eq_iff hpos whole.toNat_lt).mpr hfit]
    exact (codePpm_le hpos).trans (exactPpm_mono (UInt64.le_iff_toNat_le.mp hle))
  · rintro scene component rfl rfl hshare
    rw [UInt32.le_iff_toNat_le, hotspotOf_sharePpm scene component hw]
    by_cases hfit : Fits (scene.componentCapacity component).toNat scene.tally.fabricCapacity.toNat
    · rw [(codePpm_eq_iff hpos (UInt64.toNat_lt _)).mpr hfit]
      simp only [hfit, true_or, iff_true]
      exact le_exactPpm hpos (UInt32.toNat_lt _) hshare
    · simp only [codePpm_of_not_fits hfit, hfit, false_or]

def Rounding.exact : Rounding := ⟨id, fun x ↦ by simpa using div_nonneg (abs_nonneg x) (by norm_num)⟩

theorem ratioPpmIn_exact_third :
    ∃ v, ratioPpmIn Rounding.exact 1 3 = some v ∧ v.toNat = exactPpm 1 3 :=
  (ratioPpmIn_exact_iff Rounding.exact 1 3 (by decide)).1.mpr (by decide)

/-- Half of a large fabric is reported as nothing. -/
theorem ratioPpmIn_half_lost :
    (∀ r, ratioPpmIn r 4611686018427387904 9223372036854775808 = some 0) ∧
      exactPpm 4611686018427387904 9223372036854775808 = 500000 := by
  refine ⟨fun r ↦ ?_, by decide⟩
  rw [ratioPpmIn_eq]
  decide

end HotspotGovernor.Ratio
