import Mathlib.Tactic.Common

namespace HotspotGovernor.Lib.Procedures

/-- A procedure on a state that may fail, and keeps what it did until then. -/
abbrev Procedure (S E A : Type) := ExceptT E (StateM S) A

variable {S E A B : Type}

def call (x : Procedure S E A) (s : S) : Except E A × S := x s

def attempt (x : Procedure S E A) : Procedure S E Unit := fun s ↦ (.ok (), (call x s).2)

def lift (r : Except E A) : Procedure S E A := fun s ↦ (r, s)

def refuseIf (c : Prop) [Decidable c] (e : E) : Procedure S E Unit := if c then throw e else pure ()

@[simp] theorem call_pure (a : A) (s : S) : call (pure a : Procedure S E A) s = (.ok a, s) := rfl

@[simp] theorem call_throw (e : E) (s : S) : call (throw e : Procedure S E A) s = (.error e, s) := rfl

@[simp] theorem call_attempt (x : Procedure S E A) (s : S) : call (attempt x) s = (.ok (), (call x s).2) := rfl

theorem call_bind (x : Procedure S E A) (f : A → Procedure S E B) (s : S) :
    call (x >>= f) s = match (call x s).1 with
      | .ok a => call (f a) (call x s).2
      | .error e => (.error e, (call x s).2) := by
  change (StateT.bind x (ExceptT.bindCont f)) s = _
  unfold StateT.bind ExceptT.bindCont call
  rcases x s with ⟨a | e, s'⟩
  · rfl
  · rfl

@[simp] theorem call_lift (r : Except E A) (s : S) : call (lift r : Procedure S E A) s = (r, s) := rfl

@[simp] theorem call_get_bind (f : S → Procedure S E B) (s : S) : call (get >>= f) s = call (f s) s := rfl

@[simp] theorem call_modify_bind (g : S → S) (f : Unit → Procedure S E B) (s : S) :
    call (modify g >>= f) s = call (f ()) (g s) := rfl

@[simp] theorem call_modify (g : S → S) (s : S) : call (modify g : Procedure S E Unit) s = (.ok (), g s) := rfl

@[simp] theorem call_refuseIf_bind (c : Prop) [Decidable c] (e : E) (f : Unit → Procedure S E B) (s : S) :
    call (refuseIf c e >>= f) s = if c then (.error e, s) else call (f ()) s := by
  unfold refuseIf
  split <;> rfl

theorem call_bind_ok {x : Procedure S E A} {f : A → Procedure S E B} {s s' : S} {a : A}
    (h : call x s = (.ok a, s')) : call (x >>= f) s = call (f a) s' := by
  rw [call_bind, h]

theorem call_bind_error {x : Procedure S E A} {f : A → Procedure S E B} {s s' : S} {e : E}
    (h : call x s = (.error e, s')) : call (x >>= f) s = (.error e, s') := by
  rw [call_bind, h]

theorem call_bind_eq_ok {x : Procedure S E A} {f : A → Procedure S E B} {s s' : S} {b : B}
    (h : call (x >>= f) s = (.ok b, s')) : ∃ a mid, call x s = (.ok a, mid) ∧ call (f a) mid = (.ok b, s') := by
  cases hx : call x s with
  | mk out mid =>
    cases out with
    | error e =>
      rw [call_bind_error hx] at h
      cases h
    | ok a => exact ⟨a, mid, rfl, (call_bind_ok hx).symm.trans h⟩

/-- Whether it fails or not, the procedure leaves this part of the state as it was. -/
def Keeps {V : Type} (view : S → V) (x : Procedure S E A) : Prop := ∀ s, view (call x s).2 = view s

section Keeps

variable {V : Type} {view : S → V} {x : Procedure S E A} {f : A → Procedure S E B}

theorem Keeps.bind (hx : Keeps view x) (hf : ∀ a, Keeps view (f a)) : Keeps view (x >>= f) := by
  intro s
  rw [call_bind]
  cases (call x s).1 with
  | ok a => exact (hf a _).trans (hx s)
  | error e => exact hx s

theorem Keeps.pure (a : A) : Keeps view (pure a : Procedure S E A) := fun _ ↦ rfl

theorem Keeps.get_bind {f : S → Procedure S E B} (hf : ∀ s, Keeps view (f s)) : Keeps view (get >>= f) :=
  fun s ↦ hf s s

theorem Keeps.refuseIf (c : Prop) [Decidable c] (e : E) : Keeps view (refuseIf c e : Procedure S E Unit) := by
  intro s
  unfold Procedures.refuseIf
  split <;> rfl

theorem Keeps.lift (r : Except E A) : Keeps view (lift r : Procedure S E A) := fun _ ↦ rfl

theorem Keeps.attempt (hx : Keeps view x) : Keeps view (attempt x) := hx

theorem Keeps.modify {g : S → S} (h : ∀ s, view (g s) = view s) :
    Keeps view (modify g : Procedure S E Unit) := h

end Keeps

/-- Whether it fails or not, the procedure leads from states of a kind to states of that kind. -/
def Preserves (P : S → Prop) (x : Procedure S E A) : Prop := ∀ s, P s → P (call x s).2

section Preserves

variable {V : Type} {P : S → Prop} {x : Procedure S E A} {f : A → Procedure S E B}

theorem Preserves.bind (hx : Preserves P x) (hf : ∀ a, Preserves P (f a)) : Preserves P (x >>= f) := by
  intro s hs
  rw [call_bind]
  cases (call x s).1 with
  | ok a => exact hf a _ (hx s hs)
  | error e => exact hx s hs

theorem Preserves.get_bind {f : S → Procedure S E B} (hf : ∀ s, Preserves P (f s)) :
    Preserves P (get >>= f) := fun s hs ↦ hf s s hs

theorem Keeps.preserves {view : S → V} {Q : V → Prop} (h : Keeps view x) :
    Preserves (fun s ↦ Q (view s)) x := by
  intro s hs
  rw [h s]
  exact hs

end Preserves

end HotspotGovernor.Lib.Procedures
