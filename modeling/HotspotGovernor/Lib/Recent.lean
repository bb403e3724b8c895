import Mathlib.Data.List.Induction
import Mathlib.Tactic.Common

namespace HotspotGovernor.Lib.Recent

variable {α : Type} {p : α → Prop}

/-- The longest end of a list all of whose elements have a property. -/
structure Stretch (p : α → Prop) (whole earlier window : List α) : Prop where
  split : whole = earlier ++ window
  holds : ∀ x ∈ window, p x
  maximal : ∀ x, earlier.getLast? = some x → ¬ p x

variable {whole earlier window : List α} {x : α}

theorem Stretch.snoc (h : Stretch p whole earlier window) (hx : p x) :
    Stretch p (whole ++ [x]) earlier (window ++ [x]) := by
  refine ⟨by rw [h.split, List.append_assoc], ?_, h.maximal⟩
  intro y hy
  rcases List.mem_append.mp hy with hy | hy
  · exact h.holds y hy
  · rw [List.mem_singleton.mp hy]
    exact hx

theorem Stretch.reset (whole : List α) (hx : ¬ p x) : Stretch p (whole ++ [x]) (whole ++ [x]) [] := by
  refine ⟨(List.append_nil _).symm, fun y hy ↦ absurd hy List.not_mem_nil, ?_⟩
  intro y hy
  rw [List.getLast?_concat] at hy
  rw [← Option.some.inj hy]
  exact hx

theorem Stretch.window_unique {earlier' window' : List α} (h : Stretch p whole earlier window)
    (h' : Stretch p whole earlier' window') : window = window' := by
  rcases List.append_eq_append_iff.mp (h.split.symm.trans h'.split) with
    ⟨xs, hearlier, hwindow⟩ | ⟨xs, hearlier, hwindow⟩
  · rcases List.eq_nil_or_concat xs with rfl | ⟨ys, x, rfl⟩
    · exact hwindow
    · refine absurd (h.holds x ?_) (h'.maximal x ?_)
      · rw [hwindow]
        simp
      · rw [hearlier]
        simp
  · rcases List.eq_nil_or_concat xs with rfl | ⟨ys, x, rfl⟩
    · exact hwindow.symm
    · refine absurd (h'.holds x ?_) (h.maximal x ?_)
      · rw [hwindow]
        simp
      · rw [hearlier]
        simp

end HotspotGovernor.Lib.Recent
