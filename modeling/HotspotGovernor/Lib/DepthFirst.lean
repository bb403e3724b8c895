import Mathlib.Data.List.Basic
import Mathlib.Data.List.Induction
import Mathlib.Data.List.Nodup
import Mathlib.Data.List.Perm.Subperm
import Mathlib.Logic.Relation

namespace HotspotGovernor.Lib.DepthFirst

open Relation

variable {V : Type} [DecidableEq V] (next : V → List V) (keep : V → Bool)

/-- One neighbour of the vertex just popped: a kept, unmarked one is marked and pushed. -/
def visit (st : List V × List V) (w : V) : List V × List V :=
  if keep w = false then st
  else if w ∈ st.2 then st
  else (w :: st.1, w :: st.2)

/-- Drain the stack: pop a vertex, append it to the component and visit its neighbours. The
result is the component and the marks. -/
def explore : ℕ → List V → List V → List V → List V × List V
  | 0, _, marks, component => (component, marks)
  | _ + 1, [], marks, component => (component, marks)
  | fuel + 1, v :: stack, marks, component =>
    let st := (next v).foldl (visit keep) (stack, marks)
    explore fuel st.1 st.2 (component ++ [v])

def seedStep (fuel : ℕ) (st : List (List V) × List V) (seed : V) : List (List V) × List V :=
  if keep seed = false ∨ seed ∈ st.2 then st
  else
    let r := explore next keep fuel [seed] (seed :: st.2) []
    (st.1 ++ [r.1], r.2)

/-- The components collected by trying every vertex of `seeds` as a seed, in order. -/
def components (seeds : List V) : List (List V) :=
  (seeds.foldl (seedStep next keep seeds.length) ([], [])).1

/-- Both ends kept, and the second listed as a neighbour of the first. -/
def Adj (a b : V) : Prop := keep a = true ∧ keep b = true ∧ b ∈ next a

variable {next keep}

theorem visit_foldl (ws stack marks : List V) :
    ∃ new, (ws.foldl (visit keep) (stack, marks)) = (new ++ stack, new ++ marks) ∧ new.Nodup ∧
      (∀ x ∈ new, keep x = true ∧ x ∈ ws ∧ x ∉ marks) ∧
      ∀ w ∈ ws, keep w = true → w ∈ new ++ marks := by
  induction ws generalizing stack marks with
  | nil => exact ⟨[], by simp⟩
  | cons w ws ih =>
    rw [List.foldl_cons]
    by_cases hk : keep w = false
    · obtain ⟨new, he, hn, hx, hw⟩ := ih stack marks
      refine ⟨new, by simpa [visit, hk] using he, hn, ?_, ?_⟩
      · intro x hxn
        obtain ⟨h₁, h₂, h₃⟩ := hx x hxn
        exact ⟨h₁, List.mem_cons_of_mem _ h₂, h₃⟩
      · intro y hy hky
        rcases List.mem_cons.mp hy with rfl | hy
        · simp [hk] at hky
        · exact hw y hy hky
    · by_cases hm : w ∈ marks
      · obtain ⟨new, he, hn, hx, hw⟩ := ih stack marks
        refine ⟨new, by simpa [visit, hk, hm] using he, hn, ?_, ?_⟩
        · intro x hxn
          obtain ⟨h₁, h₂, h₃⟩ := hx x hxn
          exact ⟨h₁, List.mem_cons_of_mem _ h₂, h₃⟩
        · intro y hy hky
          rcases List.mem_cons.mp hy with rfl | hy
          · exact List.mem_append_right _ hm
          · exact hw y hy hky
      · obtain ⟨new, he, hn, hx, hw⟩ := ih (w :: stack) (w :: marks)
        refine ⟨new ++ [w], by simpa [visit, hk, hm] using he, ?_, ?_, ?_⟩
        · have hwn : w ∉ new := fun h ↦ (hx w h).2.2 (by simp)
          rw [List.nodup_append]
          refine ⟨hn, by simp, ?_⟩
          intro a ha b hb hab
          rw [List.mem_singleton] at hb
          exact hwn (hb ▸ hab ▸ ha)
        · intro x hxn
          rcases List.mem_append.mp hxn with hxn | hxn
          · obtain ⟨h₁, h₂, h₃⟩ := hx x hxn
            exact ⟨h₁, List.mem_cons_of_mem _ h₂, fun h ↦ h₃ (List.mem_cons_of_mem _ h)⟩
          · rw [List.mem_singleton] at hxn
            subst hxn
            exact ⟨by simpa using hk, by simp, hm⟩
        · intro y hy hky
          rcases List.mem_cons.mp hy with rfl | hy
          · simp
          · simpa using hw y hy hky

/-- What holds at the head of the drain loop: the marks are the old marks, the component and the
stack; everything new is linked to the seed; and the neighbours of a finished vertex are marked. -/
structure Draining (next : V → List V) (keep : V → Bool) (old : List V) (seed : V)
    (stack marks component : List V) : Prop where
  nodup : (component ++ stack).Nodup
  fresh : ∀ v ∈ component ++ stack, v ∉ old
  marked : ∀ v, v ∈ marks ↔ v ∈ old ∨ v ∈ component ++ stack
  linked : ∀ v ∈ component ++ stack, keep v = true ∧ ReflTransGen (Adj next keep) seed v
  closed : ∀ v ∈ component, ∀ w ∈ next v, keep w = true → w ∈ marks

theorem Draining.step {old : List V} {seed v : V} {stack marks component : List V}
    (h : Draining next keep old seed (v :: stack) marks component) :
    ∃ stack' marks', (next v).foldl (visit keep) (stack, marks) = (stack', marks') ∧
      Draining next keep old seed stack' marks' (component ++ [v]) := by
  obtain ⟨new, he, hn, hx, hw⟩ : ∃ new, (next v).foldl (visit keep) (stack, marks) =
      (new ++ stack, new ++ marks) ∧ new.Nodup ∧ (∀ x ∈ new, keep x = true ∧ x ∈ next v ∧ x ∉ marks) ∧
      ∀ w ∈ next v, keep w = true → w ∈ new ++ marks := visit_foldl (next v) stack marks
  have hmem : ∀ u, u ∈ (component ++ [v]) ++ (new ++ stack) ↔ u ∈ component ++ v :: stack ∨ u ∈ new := by
    intro u
    simp only [List.mem_append, List.mem_cons, List.not_mem_nil, or_false]
    tauto
  refine ⟨new ++ stack, new ++ marks, he, ⟨?_, ?_, ?_, ?_, ?_⟩⟩
  · have hperm : ((component ++ [v]) ++ (new ++ stack)).Perm (new ++ (component ++ v :: stack)) := by
      have h₁ : ((component ++ [v]) ++ (new ++ stack)).Perm ((new ++ stack) ++ (component ++ [v])) :=
        List.perm_append_comm
      refine h₁.trans ?_
      rw [List.append_assoc]
      refine List.Perm.append_left new ?_
      refine List.perm_append_comm.trans ?_
      simp
    rw [hperm.nodup_iff, List.nodup_append]
    refine ⟨hn, h.nodup, ?_⟩
    intro a ha b hb hab
    exact (hx a ha).2.2 ((h.marked a).mpr (Or.inr (hab ▸ hb)))
  · intro u hu
    rcases (hmem u).mp hu with hu | hu
    · exact h.fresh u hu
    · exact fun ho ↦ (hx u hu).2.2 ((h.marked u).mpr (Or.inl ho))
  · intro u
    rw [List.mem_append, h.marked u, hmem u]
    tauto
  · intro u hu
    rcases (hmem u).mp hu with hu | hu
    · exact h.linked u hu
    · obtain ⟨hk, hl⟩ := h.linked v (by simp)
      obtain ⟨hku, hun, -⟩ := hx u hu
      exact ⟨hku, hl.tail ⟨hk, hku, hun⟩⟩
  · intro u hu w hwn hkw
    rcases List.mem_append.mp hu with hu | hu
    · exact List.mem_append_right _ (h.closed u hu w hwn hkw)
    · rw [List.mem_singleton] at hu
      subst hu
      exact hw w hwn hkw

theorem explore_spec {univ : List V} (huniv : ∀ v, keep v = true → v ∈ univ)
    {old : List V} {seed : V} (fuel : ℕ) {stack marks component : List V}
    (h : Draining next keep old seed stack marks component)
    (hfuel : univ.length ≤ fuel + component.length) :
    ∃ component' marks', explore next keep fuel stack marks component = (component', marks') ∧
      (∃ rest, component' = component ++ stack.take 1 ++ rest) ∧
      Draining next keep old seed [] marks' component' := by
  have hle : (component ++ stack).length ≤ univ.length :=
    (h.nodup.subperm (fun v hv ↦ huniv v (h.linked v hv).1)).length_le
  induction fuel generalizing stack marks component with
  | zero =>
    rw [List.length_append] at hle
    obtain rfl : stack = [] := List.length_eq_zero_iff.mp (by omega)
    exact ⟨component, marks, rfl, ⟨[], by simp⟩, h⟩
  | succ fuel ih =>
    cases stack with
    | nil => exact ⟨component, marks, rfl, ⟨[], by simp⟩, h⟩
    | cons v stack =>
      obtain ⟨stack', marks', he, h'⟩ := h.step
      have hlen : ((component ++ [v]) ++ stack').length ≤ univ.length :=
        (h'.nodup.subperm (fun v hv ↦ huniv v (h'.linked v hv).1)).length_le
      obtain ⟨component', marks'', hr, ⟨rest, hrest⟩, hd⟩ :=
        ih h' (by rw [List.length_append, List.length_singleton]; omega) hlen
      refine ⟨component', marks'', ?_, ⟨stack'.take 1 ++ rest, by simp [hrest]⟩, hd⟩
      rw [explore, he]
      exact hr

/-- What holds between two seeds: the marks are the vertices of the components collected so far,
each of which is a class of the link relation. -/
structure Collected (next : V → List V) (keep : V → Bool) (done : List V)
    (st : List (List V) × List V) : Prop where
  marked : ∀ v, v ∈ st.2 ↔ v ∈ st.1.flatten
  nodup : st.1.flatten.Nodup
  inhabited : ∀ c ∈ st.1, c ≠ []
  kept : ∀ c ∈ st.1, ∀ v ∈ c, keep v = true
  classes : ∀ c ∈ st.1, ∀ v ∈ c, ∀ w, w ∈ c ↔ ReflTransGen (Adj next keep) v w
  covered : ∀ v ∈ done, keep v = true → v ∈ st.2

omit [DecidableEq V] in
theorem Collected.closed {done : List V} {st : List (List V) × List V}
    (h : Collected next keep done st) : ∀ a ∈ st.2, ∀ b, Adj next keep a b → b ∈ st.2 := by
  intro a ha b hab
  obtain ⟨c, hc, hac⟩ := List.mem_flatten.mp ((h.marked a).mp ha)
  exact (h.marked b).mpr (List.mem_flatten.mpr ⟨c, hc, (h.classes c hc a hac b).mpr (.single hab)⟩)

theorem components_of_isolated (hnext : ∀ v, next v = []) {seeds : List V} (hnodup : seeds.Nodup) :
    components next keep seeds = (seeds.filter keep).map (fun v ↦ [v]) := by
  have hexplore : ∀ (fuel : ℕ) (v : V) (marks : List V),
      explore next keep (fuel + 1) [v] marks [] = ([v], marks) := by
    intro fuel v marks
    have hstep : explore next keep (fuel + 1) [v] marks [] = explore next keep fuel [] marks [v] := by
      rw [explore, hnext, List.foldl_nil, List.nil_append]
    rw [hstep]
    cases fuel <;> rfl
  have hfold : ∀ (fuel : ℕ) (rest : List V) (st : List (List V) × List V), rest.Nodup →
      (∀ v ∈ rest, v ∉ st.2) → (rest.foldl (DepthFirst.seedStep next keep (fuel + 1)) st).1 =
        st.1 ++ (rest.filter keep).map (fun v ↦ [v]) := by
    intro fuel rest
    induction rest with
    | nil =>
      intro st _ _
      exact (List.append_nil _).symm
    | cons v rest ih =>
      intro st hnodup hfresh
      obtain ⟨hv, hrest⟩ := List.nodup_cons.mp hnodup
      rw [List.foldl_cons, DepthFirst.seedStep, hexplore]
      by_cases hk : keep v = true
      · have hskip : ¬(keep v = false ∨ v ∈ st.2) := by
          simp [hk, hfresh v List.mem_cons_self]
        rw [if_neg hskip, ih _ hrest, List.filter_cons_of_pos hk, List.map_cons, List.append_assoc,
          List.singleton_append]
        intro w hw hmem
        rcases List.mem_cons.mp hmem with rfl | hmem
        · exact hv hw
        · exact hfresh w (List.mem_cons_of_mem _ hw) hmem
      · rw [if_pos (.inl (by simpa using hk)), ih _ hrest, List.filter_cons_of_neg hk]
        exact fun w hw ↦ hfresh w (List.mem_cons_of_mem _ hw)
  cases seeds with
  | nil => rfl
  | cons v rest => exact hfold rest.length (v :: rest) ([], []) hnodup (by simp)

section Symmetric

variable (hsym : ∀ a b, Adj next keep a b → Adj next keep b a)
include hsym

omit [DecidableEq V] in
/-- A drained component is the set of vertices linked to its seed, provided the old marks are
closed under the links. -/
theorem Draining.mem_iff {old marks component : List V} {seed : V}
    (h : Draining next keep old seed [] marks component) (hseed : seed ∈ component)
    (hold : ∀ a ∈ old, ∀ b, Adj next keep a b → b ∈ old) (w : V) :
    w ∈ component ↔ ReflTransGen (Adj next keep) seed w := by
  constructor
  · intro hw
    exact (h.linked w (by simpa using hw)).2
  · intro hw
    induction hw with
    | refl => exact hseed
    | @tail a b _ hab ha =>
      rcases (h.marked b).mp (h.closed a ha b hab.2.2 hab.2.1) with hb | hb
      · exact absurd (hold b hb a (hsym a b hab)) (h.fresh a (by simpa using ha))
      · simpa using hb

theorem Collected.seedStep {univ : List V} (huniv : ∀ v, keep v = true → v ∈ univ)
    {done : List V} {st : List (List V) × List V} (h : Collected next keep done st) (seed : V) :
    Collected next keep (done ++ [seed]) (seedStep next keep univ.length st seed) := by
  unfold DepthFirst.seedStep
  split
  · next hskip =>
    refine ⟨h.marked, h.nodup, h.inhabited, h.kept, h.classes, ?_⟩
    intro v hv hk
    rcases List.mem_append.mp hv with hv | hv
    · exact h.covered v hv hk
    · rw [List.mem_singleton] at hv
      subst hv
      rcases hskip with hs | hs
      · simp [hs] at hk
      · exact hs
  · next hskip =>
    rw [not_or] at hskip
    have hkeep : keep seed = true := by simpa using hskip.1
    have hstart : Draining next keep st.2 seed [seed] (seed :: st.2) [] := by
      refine ⟨by simp, ?_, ?_, ?_, by simp⟩
      · intro v hv
        rw [List.nil_append, List.mem_singleton] at hv
        exact hv ▸ hskip.2
      · intro v
        simp only [List.mem_cons, List.nil_append, List.not_mem_nil, or_false]
        tauto
      · intro v hv
        rw [List.nil_append, List.mem_singleton] at hv
        subst hv
        exact ⟨hkeep, .refl⟩
    obtain ⟨component, marks, he, ⟨rest, hrest⟩, hd⟩ := explore_spec huniv univ.length hstart (by simp)
    have hseed : seed ∈ component := by simp [hrest]
    have hmem := hd.mem_iff hsym hseed h.closed
    have hsymm : ∀ a b, ReflTransGen (Adj next keep) a b → ReflTransGen (Adj next keep) b a := by
      intro a b hab
      induction hab with
      | refl => exact .refl
      | tail _ hbc ih => exact .head (hsym _ _ hbc) ih
    simp only [he]
    refine ⟨?_, ?_, ?_, ?_, ?_, ?_⟩
    · intro v
      rw [hd.marked v, h.marked v]
      simp
    · rw [List.flatten_append, List.nodup_append]
      refine ⟨h.nodup, by simpa using hd.nodup, ?_⟩
      intro a ha b hb hab
      have hb' : b ∈ component := by simpa using hb
      exact hd.fresh b (by simpa using hb') ((h.marked b).mpr (hab ▸ ha))
    · intro c hc
      rcases List.mem_append.mp hc with hc | hc
      · exact h.inhabited c hc
      · rw [List.mem_singleton] at hc
        subst hc
        exact List.ne_nil_of_mem hseed
    · intro c hc v hv
      rcases List.mem_append.mp hc with hc | hc
      · exact h.kept c hc v hv
      · rw [List.mem_singleton] at hc
        subst hc
        exact (hd.linked v (by simpa using hv)).1
    · intro c hc v hv w
      rcases List.mem_append.mp hc with hc | hc
      · exact h.classes c hc v hv w
      · rw [List.mem_singleton] at hc
        subst hc
        have hv' := (hmem v).mp hv
        rw [hmem w]
        exact ⟨fun hw ↦ (hsymm _ _ hv').trans hw, fun hw ↦ hv'.trans hw⟩
    · intro v hv hk
      rcases List.mem_append.mp hv with hv | hv
      · exact (hd.marked v).mpr (Or.inl (h.covered v hv hk))
      · rw [List.mem_singleton] at hv
        subst hv
        exact (hd.marked v).mpr (Or.inr (by simpa using hseed))

/-- The collected components are the classes of the link relation on the kept vertices, each
listed once and without repeats. -/
theorem components_spec {seeds : List V} (huniv : ∀ v, keep v = true → v ∈ seeds) :
    ∃ marks, Collected next keep seeds (components next keep seeds, marks) := by
  have h : ∀ done rest, done ++ rest = seeds →
      Collected next keep done (done.foldl (DepthFirst.seedStep next keep seeds.length) ([], [])) := by
    intro done
    induction done using List.reverseRecOn with
    | nil => intro rest _; exact ⟨by simp, by simp, by simp, by simp, by simp, by simp⟩
    | append_singleton done seed ih =>
      intro rest hr
      rw [List.foldl_append]
      exact (ih (seed :: rest) (by simpa using hr)).seedStep hsym huniv seed
  exact ⟨_, h seeds [] (by simp)⟩

end Symmetric

end HotspotGovernor.Lib.DepthFirst
