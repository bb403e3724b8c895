import Mathlib.Tactic.Common

namespace HotspotGovernor.Lib.Register

variable {A : Type}

inductive Access (A : Type)
  | write (value : A) (acknowledged : Bool)
  | read (value : A)
  | silent

/-- The histories of a register that is atomic and survives crashes, each with the value it ends in.
Every write takes effect at once or never, an acknowledged one does take effect, and every read
finds what the last effective write left. -/
inductive Atomic (init : A) : List (Access A) → A → Prop
  | new : Atomic init [] init
  | effect {past : List (Access A)} {value : A} (h : Atomic init past value) (written : A) (acknowledged : Bool) :
      Atomic init (past ++ [.write written acknowledged]) written
  | lost {past : List (Access A)} {value : A} (h : Atomic init past value) (written : A) :
      Atomic init (past ++ [.write written false]) value
  | read {past : List (Access A)} {value : A} (h : Atomic init past value) :
      Atomic init (past ++ [.read value]) value
  | silent {past : List (Access A)} {value : A} (h : Atomic init past value) :
      Atomic init (past ++ [.silent]) value

/-- Every value that the register may turn out to hold is explained by the history. -/
structure Explained (init : A) (past : List (Access A)) (candidate : A → Prop) : Prop where
  inhabited : ∃ value, candidate value
  atomic : ∀ value, candidate value → Atomic init past value

section

variable {init written : A} {past : List (Access A)} {candidate candidate' : A → Prop}

theorem Explained.acknowledge (h : Explained init past candidate) (acknowledged : Bool)
    (hsome : ∃ value, candidate' value) (hone : ∀ value, candidate' value → value = written) :
    Explained init (past ++ [.write written acknowledged]) candidate' := by
  obtain ⟨old, hold⟩ := h.inhabited
  refine ⟨hsome, fun value hvalue ↦ ?_⟩
  rw [hone value hvalue]
  exact (h.atomic old hold).effect written acknowledged

theorem Explained.attempt (h : Explained init past candidate) (hsome : ∃ value, candidate' value)
    (hsub : ∀ value, candidate' value → candidate value ∨ value = written) :
    Explained init (past ++ [.write written false]) candidate' := by
  refine ⟨hsome, fun value hvalue ↦ ?_⟩
  rcases hsub value hvalue with hold | rfl
  · exact (h.atomic value hold).lost written
  · obtain ⟨old, hold⟩ := h.inhabited
    exact (h.atomic old hold).effect value false

theorem Explained.read {value : A} (h : Explained init past candidate) (hsome : ∃ value, candidate' value)
    (hsub : ∀ other, candidate' other → candidate other ∧ other = value) :
    Explained init (past ++ [.read value]) candidate' := by
  refine ⟨hsome, fun other hother ↦ ?_⟩
  obtain ⟨hold, hvalue⟩ := hsub other hother
  rw [← hvalue]
  exact (h.atomic other hold).read

theorem Explained.silent (h : Explained init past candidate) (hsome : ∃ value, candidate' value)
    (hsub : ∀ value, candidate' value → candidate value) : Explained init (past ++ [.silent]) candidate' :=
  ⟨hsome, fun value hvalue ↦ (h.atomic value (hsub value hvalue)).silent⟩

end

end HotspotGovernor.Lib.Register
