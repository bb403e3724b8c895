import HotspotGovernor.Lib.Trace

namespace HotspotGovernor.Lib.Erasure

open Lib.Trace

variable {O R S V : Type}

/-- The calls of a run and their answers, without the states between them. -/
def transcript (past : List (Event O R S)) : List (O × R) := past.map (fun e ↦ (e.op, e.out))

/-- The answers, and the view of the state that a call leaves, are functions of the view before it. -/
def Blind (step : O → S → R × S) (view : S → V) : Prop :=
  ∀ op s s', view s = view s' → (step op s).1 = (step op s').1 ∧ view (step op s).2 = view (step op s').2

/-- What is left of a history when any of the events that qualify are cut out of it. -/
inductive Thinned (cut : List (Event O R S) → Event O R S → Prop) : List (Event O R S) → List (O × R) → Prop
  | nil : Thinned cut [] []
  | keep {past : List (Event O R S)} {kept : List (O × R)} (h : Thinned cut past kept) (e : Event O R S) :
      Thinned cut (past ++ [e]) (kept ++ [(e.op, e.out)])
  | drop {past : List (Event O R S)} {kept : List (O × R)} (h : Thinned cut past kept) (e : Event O R S)
      (he : cut past e) : Thinned cut (past ++ [e]) kept

section

variable {step : O → S → R × S} {view : S → V} {cut : List (Event O R S) → Event O R S → Prop}
  {init s : S} {past : List (Event O R S)} {kept : List (O × R)} {e : Event O R S}

theorem Blind.of_forget {forget : S → S} (hforget : ∀ op s, (step op (forget s)).1 = (step op s).1 ∧
    forget (step op (forget s)).2 = forget (step op s).2) : Blind step forget := by
  intro op s s' hview
  obtain ⟨hout, hafter⟩ := hforget op s
  obtain ⟨hout', hafter'⟩ := hforget op s'
  rw [hview] at hout hafter
  exact ⟨hout.symm.trans hout', hafter.symm.trans hafter'⟩

theorem Thinned.of_nil (h : Thinned cut [] kept) : kept = [] := by
  generalize hall : ([] : List (Event O R S)) = all at h
  cases h with
  | nil => rfl
  | keep h e => simp at hall
  | drop h e hcut => simp at hall

theorem Thinned.of_snoc (h : Thinned cut (past ++ [e]) kept) :
    (∃ earlier, kept = earlier ++ [(e.op, e.out)] ∧ Thinned cut past earlier) ∨
      cut past e ∧ Thinned cut past kept := by
  generalize hall : past ++ [e] = all at h
  cases h with
  | nil => simp at hall
  | keep h e' =>
    obtain ⟨hpast, he⟩ := List.append_inj' hall rfl
    rw [List.singleton_inj.mp he, hpast]
    exact Or.inl ⟨_, rfl, h⟩
  | drop h e' hcut =>
    obtain ⟨hpast, he⟩ := List.append_inj' hall rfl
    rw [List.singleton_inj.mp he, hpast]
    exact Or.inr ⟨hcut, h⟩

theorem Thinned.replay (hblind : Blind step view) (hrun : Run step init past s)
    (hcut : ∀ past s op, Run step init past s → cut past (event step op s) → view (step op s).2 = view s)
    (h : Thinned cut past kept) :
    ∃ past' s', Run step init past' s' ∧ transcript past' = kept ∧ view s' = view s := by
  induction hrun generalizing kept with
  | start => exact ⟨[], init, .start, h.of_nil.symm, rfl⟩
  | @snoc past s hrun op ih =>
    rcases h.of_snoc with ⟨earlier, rfl, hearlier⟩ | ⟨hdropped, hkept⟩
    · obtain ⟨past', s', hrun', htranscript, hview⟩ := ih hearlier
      obtain ⟨hout, hafter⟩ := hblind op s' s hview
      refine ⟨_, _, hrun'.snoc op, ?_, hafter⟩
      unfold transcript
      rw [List.map_append, ← htranscript]
      exact congrArg (fun out ↦ transcript past' ++ [(op, out)]) hout
    · obtain ⟨past', s', hrun', htranscript, hview⟩ := ih hkept
      exact ⟨past', s', hrun', htranscript, hview.trans (hcut past s op hrun hdropped).symm⟩

end

end HotspotGovernor.Lib.Erasure
