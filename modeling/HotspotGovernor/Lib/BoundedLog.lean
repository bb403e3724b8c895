import Mathlib.Data.List.Induction
import Mathlib.Data.List.TakeWhile
import Mathlib.Order.Basic

namespace HotspotGovernor.Lib.BoundedLog

variable {α : Type} [BEq α] [LawfulBEq α]

/-- A log of bounded length that keeps the first occurrence of every entry: what comes when it is full
is lost. -/
def note (bound : ℕ) (log : List α) (entry : α) : List α :=
  if bound ≤ log.length then log else if entry ∈ log then log else log ++ [entry]

theorem eraseDups_concat (entries : List α) (entry : α) :
    (entries ++ [entry]).eraseDups =
      if entry ∈ entries then entries.eraseDups else entries.eraseDups ++ [entry] := by
  rw [List.eraseDups_append]
  split
  · next h => simp [List.removeAll, h]
  · next h => simp [List.removeAll, h, List.eraseDups_cons]

theorem length_eraseDups_le (entries : List α) : entries.eraseDups.length ≤ entries.length := by
  induction entries using List.reverseRecOn with
  | nil => simp
  | append_singleton entries entry ih =>
    rw [eraseDups_concat, List.length_append, List.length_singleton]
    split
    · omega
    · rw [List.length_append, List.length_singleton]
      omega

theorem foldl_note (bound : ℕ) (entries : List α) :
    entries.foldl (note bound) [] = entries.eraseDups.take bound := by
  induction entries using List.reverseRecOn with
  | nil => simp
  | append_singleton entries entry ih =>
    rw [List.foldl_append, ih, eraseDups_concat, List.foldl_cons, List.foldl_nil, note]
    by_cases hfull : bound ≤ entries.eraseDups.length
    · rw [if_pos (by rw [List.length_take]; omega)]
      split
      · rfl
      · rw [List.take_append_of_le_length hfull]
    · have htake : entries.eraseDups.take bound = entries.eraseDups := List.take_of_length_le (by omega)
      rw [htake, if_neg hfull]
      simp only [List.mem_eraseDups]
      split
      · rw [htake]
      · rw [List.take_of_length_le]
        rw [List.length_append, List.length_singleton]
        omega

omit [BEq α] [LawfulBEq α] in
theorem first_of_kind {entries : List α} {kind : α → Bool} (h : ∃ entry ∈ entries, kind entry = true) :
    ∃ first rest, entries = entries.takeWhile (fun entry ↦ !kind entry) ++ first :: rest ∧ kind first = true := by
  have hdrop : entries.dropWhile (fun entry ↦ !kind entry) ≠ [] := by
    obtain ⟨entry, hmem, hkind⟩ := h
    rw [Ne, List.dropWhile_eq_nil_iff]
    intro hall
    have hno := hall entry hmem
    rw [hkind] at hno
    cases hno
  obtain ⟨first, rest, hcons⟩ := List.exists_cons_of_ne_nil hdrop
  refine ⟨first, rest, ?_, ?_⟩
  · rw [← hcons, List.takeWhile_append_dropWhile]
  · have hhead := List.head_dropWhile_not (fun entry ↦ !kind entry) hdrop
    simpa [hcons] using hhead

/-- Of the entries of one kind the log holds one exactly when fewer than the bound distinct entries
come before the first of them. -/
theorem exists_mem_foldl_note {bound : ℕ} {entries : List α} {kind : α → Bool}
    (h : ∃ entry ∈ entries, kind entry = true) :
    (∃ entry ∈ entries.foldl (note bound) [], kind entry = true) ↔
      (entries.takeWhile (fun entry ↦ !kind entry)).eraseDups.length < bound := by
  set front := entries.takeWhile (fun entry ↦ !kind entry) with hfront
  have hother : ∀ entry ∈ front, kind entry = false := by
    intro entry hentry
    simpa using List.mem_takeWhile_imp hentry
  obtain ⟨first, rest, hsplit, hfirst⟩ := first_of_kind h
  have hnew : first ∉ front := by
    intro hmem
    rw [hother first hmem] at hfirst
    cases hfirst
  obtain ⟨tail, htail⟩ : ∃ tail, entries.eraseDups = front.eraseDups ++ first :: tail := by
    have hkeep : (first :: rest).removeAll front = first :: rest.removeAll front := by
      rw [List.removeAll, List.filter_cons_of_pos (by simpa using hnew), List.removeAll]
    rw [hsplit, List.eraseDups_append, hkeep, List.eraseDups_cons]
    exact ⟨_, rfl⟩
  rw [foldl_note, htail]
  constructor
  · rintro ⟨entry, hmem, hkind⟩
    by_contra hfull
    rw [List.take_append_of_le_length (not_lt.mp hfull)] at hmem
    rw [hother entry (List.mem_eraseDups.mp (List.mem_of_mem_take hmem))] at hkind
    cases hkind
  · intro hroom
    refine ⟨first, ?_, hfirst⟩
    rw [List.mem_take_iff_getElem]
    exact ⟨front.eraseDups.length, by simp; omega, by simp⟩

end HotspotGovernor.Lib.BoundedLog
