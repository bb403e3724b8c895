import Mathlib.Algebra.GroupWithZero.Nat
import Mathlib.Data.List.Count
import Mathlib.Data.List.Infix
import Mathlib.Data.List.TakeWhile

namespace HotspotGovernor.Lib.Lines

section

variable {α : Type} (weight : α → ℕ)

/-- The entries that fit, each in its turn, into so many places and so much room. -/
def firstFit : ℕ → ℕ → List α → List α
  | _, _, [] => []
  | 0, _, _ :: _ => []
  | places + 1, room, entry :: entries =>
    if weight entry ≤ room then entry :: firstFit places (room - weight entry) entries
    else firstFit (places + 1) room entries

variable {weight} {places room : ℕ} {entries : List α}

theorem firstFit_sublist : (firstFit weight places room entries).Sublist entries := by
  induction entries generalizing places room with
  | nil => rw [firstFit]
  | cons entry entries ih =>
    cases places with
    | zero => exact List.nil_sublist _
    | succ places =>
      rw [firstFit]
      split
      · exact ih.cons_cons entry
      · exact ih.cons entry

theorem length_firstFit_le : (firstFit weight places room entries).length ≤ places := by
  induction entries generalizing places room with
  | nil => exact Nat.zero_le _
  | cons entry entries ih =>
    cases places with
    | zero => exact Nat.le_refl _
    | succ places =>
      rw [firstFit]
      split
      · exact Nat.succ_le_succ ih
      · exact ih

theorem sum_firstFit_le : ((firstFit weight places room entries).map weight).sum ≤ room := by
  induction entries generalizing places room with
  | nil => exact Nat.zero_le _
  | cons entry entries ih =>
    cases places with
    | zero => exact Nat.zero_le _
    | succ places =>
      rw [firstFit]
      split
      · next hfits =>
        have hrest := @ih places (room - weight entry)
        rw [List.map_cons, List.sum_cons]
        omega
      · exact ih

theorem firstFit_eq_self_iff :
    firstFit weight places room entries = entries ↔
      entries.length ≤ places ∧ (entries.map weight).sum ≤ room := by
  constructor
  · intro h
    have hlength := @length_firstFit_le _ weight places room entries
    have hsum := @sum_firstFit_le _ weight places room entries
    rw [h] at hlength hsum
    exact ⟨hlength, hsum⟩
  · rintro ⟨hlength, hsum⟩
    induction entries generalizing places room with
    | nil => rw [firstFit]
    | cons entry entries ih =>
      rw [List.length_cons] at hlength
      rw [List.map_cons, List.sum_cons] at hsum
      cases places with
      | zero => omega
      | succ places =>
        rw [firstFit, if_pos (by omega), ih (by omega) (by omega)]

theorem length_firstFit_lt_iff : (firstFit weight places room entries).length < entries.length ↔
    ¬ (entries.length ≤ places ∧ (entries.map weight).sum ≤ room) := by
  rw [← firstFit_eq_self_iff, Nat.lt_iff_le_and_ne]
  have hsub := @firstFit_sublist _ weight places room entries
  constructor
  · rintro ⟨-, hne⟩ heq
    exact hne (congrArg List.length heq)
  · intro hne
    exact ⟨hsub.length_le, fun heq ↦ hne (hsub.eq_of_length heq)⟩

end

section

variable {α : Type} [DecidableEq α] {sep : α} {text : List α}

def following (sep : α) (lines : List (List α)) : List α := lines.flatMap (sep :: ·)

omit [DecidableEq α] in
theorem following_cons (line : List α) (lines : List (List α)) :
    following sep (line :: lines) = sep :: (line ++ following sep lines) := rfl

omit [DecidableEq α] in
theorem intercalate_cons (first : List α) (lines : List (List α)) :
    [sep].intercalate (first :: lines) = first ++ following sep lines := by
  induction lines generalizing first with
  | nil => simp [following]
  | cons second lines ih =>
    rw [List.intercalate_cons_cons, ih, following, following, List.flatMap_cons, List.append_assoc]
    rfl

theorem count_following (lines : List (List α)) :
    (following sep lines).count sep = (lines.map (·.count sep + 1)).sum := by
  induction lines with
  | nil => rfl
  | cons line lines ih =>
    rw [following_cons, List.count_cons_self, List.count_append, List.map_cons, List.sum_cons, ih]
    omega

omit [DecidableEq α] in
theorem intercalate_concat {lines : List (List α)} (h : lines ≠ []) (line : List α) :
    [sep].intercalate (lines ++ [line]) = [sep].intercalate lines ++ sep :: line := by
  induction lines with
  | nil => exact absurd rfl h
  | cons first lines ih =>
    cases lines with
    | nil => simp [List.intercalate]
    | cons second lines =>
      have hrest := ih (List.cons_ne_nil second lines)
      simp only [List.cons_append] at hrest ⊢
      simp only [List.intercalate_cons_cons, hrest, List.append_assoc]

def findLastOf (sep : α) : List α → Option ℕ
  | [] => none
  | a :: text =>
    match findLastOf sep text with
    | some i => some (i + 1)
    | none => if a = sep then some 0 else none

theorem findLastOf_eq_none : findLastOf sep text = none ↔ sep ∉ text := by
  induction text with
  | nil => simp [findLastOf]
  | cons a text ih =>
    rw [findLastOf]
    cases hfind : findLastOf sep text with
    | none =>
      have hmem := ih.mp hfind
      by_cases ha : a = sep
      · simp [ha]
      · simp [ha, hmem, Ne.symm ha]
    | some i =>
      have hmem : sep ∈ text := by
        by_contra hmem
        rw [ih.mpr hmem] at hfind
        cases hfind
      simp [hmem]

theorem exists_of_findLastOf {i : ℕ} (h : findLastOf sep text = some i) :
    ∃ rest, text = text.take i ++ sep :: rest ∧ sep ∉ rest := by
  induction text generalizing i with
  | nil => cases h
  | cons a text ih =>
    rw [findLastOf] at h
    cases hfind : findLastOf sep text with
    | none =>
      rw [hfind] at h
      obtain ⟨rfl, hi⟩ := Option.ite_none_right_eq_some.mp h
      cases hi
      exact ⟨text, rfl, findLastOf_eq_none.mp hfind⟩
    | some k =>
      rw [hfind] at h
      cases h
      obtain ⟨rest, hrest, hmem⟩ := ih hfind
      refine ⟨rest, ?_, hmem⟩
      rw [List.take_succ_cons, List.cons_append, ← hrest]

theorem lt_of_findLastOf {i : ℕ} (h : findLastOf sep text = some i) : i < text.length := by
  obtain ⟨rest, hrest, -⟩ := exists_of_findLastOf h
  have hlength := congrArg List.length hrest
  rw [List.length_append, List.length_take, List.length_cons] at hlength
  omega

theorem findLastOf_append (front back : List α) : findLastOf sep (front ++ back) =
    match findLastOf sep back with
    | some i => some (front.length + i)
    | none => findLastOf sep front := by
  induction front with
  | nil =>
    rw [List.nil_append]
    cases findLastOf sep back with
    | none => rfl
    | some i => simp
  | cons a front ih =>
    rw [List.cons_append, findLastOf, ih]
    cases findLastOf sep back with
    | none => rw [findLastOf]
    | some i => simp only [List.length_cons, Nat.add_right_comm]

theorem count_take_of_findLastOf {n i : ℕ} (h : findLastOf sep (text.take n) = some i) :
    (text.take i).count sep + 1 = (text.take n).count sep := by
  have hlt := lt_of_findLastOf h
  obtain ⟨rest, hrest, hmem⟩ := exists_of_findLastOf h
  rw [List.length_take] at hlt
  rw [List.take_take, Nat.min_eq_left (by omega)] at hrest
  rw [hrest, List.count_append, List.count_cons_self, List.count_eq_zero_of_not_mem hmem]

/-- A cut behind so many entries leaves no separator of the line on which it falls. -/
def CutClean (sep : α) : ℕ → List (List α) → Prop
  | _, [] => True
  | room, line :: lines =>
    if room ≤ line.length then sep ∉ line.take room else CutClean sep (room - line.length - 1) lines

instance decidableCutClean (sep : α) : (room : ℕ) → (lines : List (List α)) →
    Decidable (CutClean sep room lines)
  | _, [] => inferInstanceAs (Decidable True)
  | room, line :: lines =>
    have := decidableCutClean sep (room - line.length - 1) lines
    inferInstanceAs (Decidable (if room ≤ line.length then sep ∉ line.take room
      else CutClean sep (room - line.length - 1) lines))

theorem exists_findLastOf_following {n : ℕ} {lines : List (List α)} (h : n < (following sep lines).length) :
    ∃ i, findLastOf sep ((following sep lines).take (n + 1)) = some i := by
  cases hfind : findLastOf sep ((following sep lines).take (n + 1)) with
  | some i => exact ⟨i, rfl⟩
  | none =>
    cases lines with
    | nil => exact absurd h (Nat.not_lt_zero n)
    | cons line lines =>
      rw [following, List.flatMap_cons, List.cons_append, List.take_succ_cons] at hfind
      exact absurd List.mem_cons_self (findLastOf_eq_none.mp hfind)

/-- What is left of a cut that is taken back to the last separator is whole lines exactly when the cut left
none of the line it fell on. The induction follows the lines up to that one. -/
theorem take_following_iff {room i : ℕ} {lines : List (List α)} (hlt : room + 1 < (following sep lines).length)
    (hlast : findLastOf sep ((following sep lines).take (room + 1)) = some i) :
    (∃ whole, whole <+: lines ∧ (following sep lines).take i = following sep whole) ↔
      CutClean sep room lines := by
  induction lines generalizing room i with
  | nil => exact absurd hlt (Nat.not_lt_zero _)
  | cons line lines ih =>
    rw [following_cons, List.take_succ_cons, findLastOf] at hlast
    rw [following_cons, List.length_cons, List.length_append] at hlt
    rw [following_cons, CutClean]
    by_cases hroom : room ≤ line.length
    · rw [if_pos hroom]
      rw [List.take_append_of_le_length hroom] at hlast
      cases hfind : findLastOf sep (line.take room) with
      | none =>
        rw [hfind] at hlast
        obtain rfl : 0 = i := by simpa using hlast
        exact iff_of_true ⟨[], List.nil_prefix, rfl⟩ (findLastOf_eq_none.mp hfind)
      | some k =>
        rw [hfind] at hlast
        obtain rfl := Option.some.inj hlast
        have hk := lt_of_findLastOf hfind
        rw [List.length_take] at hk
        have hmem : sep ∈ line.take room := by
          by_contra hmem
          rw [findLastOf_eq_none.mpr hmem] at hfind
          cases hfind
        refine iff_of_false ?_ (not_not.mpr hmem)
        rintro ⟨whole, hwhole, htake⟩
        have hlength := congrArg List.length htake
        rw [List.length_take, List.length_cons, List.length_append] at hlength
        cases whole with
        | nil =>
          change _ = 0 at hlength
          omega
        | cons other whole =>
          rw [(List.cons_prefix_cons.mp hwhole).1, following_cons, List.length_cons, List.length_append] at hlength
          omega
    · rw [if_neg hroom]
      obtain ⟨m, rfl⟩ := Nat.exists_eq_add_of_lt (Nat.lt_of_not_le hroom)
      have hrest : m + 1 < (following sep lines).length := by omega
      obtain ⟨k, hk⟩ := exists_findLastOf_following (Nat.lt_of_succ_lt hrest)
      rw [Nat.add_assoc, List.take_length_add_append, findLastOf_append, hk] at hlast
      obtain rfl := Option.some.inj hlast
      have hm : line.length + m + 1 - line.length - 1 = m := by omega
      rw [hm, ← ih hrest hk, List.take_succ_cons, List.take_length_add_append]
      constructor
      · rintro ⟨whole, hwhole, htake⟩
        cases whole with
        | nil => cases htake
        | cons other whole =>
          obtain ⟨rfl, hrest⟩ := List.cons_prefix_cons.mp hwhole
          exact ⟨whole, hrest, List.append_cancel_left (List.cons.inj htake).2⟩
      · rintro ⟨whole, hwhole, htake⟩
        refine ⟨line :: whole, List.cons_prefix_cons.mpr ⟨rfl, hwhole⟩, ?_⟩
        rw [htake, following_cons]

end

end HotspotGovernor.Lib.Lines
