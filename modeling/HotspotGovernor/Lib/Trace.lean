import Mathlib.Data.List.Induction
import Mathlib.Tactic.Common

namespace HotspotGovernor.Lib.Trace

variable {O R S : Type}

/-- One operation of a run: the state it was called in, its result and the state it left. -/
structure Event (O R S : Type) where
  before : S
  op : O
  out : R
  after : S

def event (step : O → S → R × S) (op : O) (s : S) : Event O R S := ⟨s, op, (step op s).1, (step op s).2⟩

/-- Runs of a deterministic step function: what happened, oldest first, and the state reached. -/
inductive Run (step : O → S → R × S) (init : S) : List (Event O R S) → S → Prop
  | start : Run step init [] init
  | snoc {past : List (Event O R S)} {s : S} (h : Run step init past s) (op : O) :
      Run step init (past ++ [event step op s]) (step op s).2

def final (step : O → S → R × S) (init : S) (ops : List O) : S := ops.foldl (fun s op ↦ (step op s).2) init

variable {step : O → S → R × S} {init s : S} {past : List (Event O R S)}

theorem Run.invariant {inv : List (Event O R S) → S → Prop} (hstart : inv [] init)
    (hstep : ∀ past s op, inv past s → inv (past ++ [event step op s]) (step op s).2)
    (h : Run step init past s) : inv past s := by
  induction h with
  | start => exact hstart
  | snoc _ op ih => exact hstep _ _ op ih

theorem Run.invariant_of {inv : List (Event O R S) → S → Prop}
    {good : List (Event O R S) → Event O R S → Prop} (hstart : inv [] init)
    (hstep : ∀ past s op, inv past s → good past (event step op s) →
      inv (past ++ [event step op s]) (step op s).2)
    (h : Run step init past s) (hgood : ∀ pre e post, past = pre ++ e :: post → good pre e) :
    inv past s := by
  induction h with
  | start => exact hstart
  | @snoc past s _ op ih =>
    refine hstep _ _ op (ih ?_) (hgood past _ [] rfl)
    intro pre e post he
    exact hgood pre e (post ++ [event step op s]) (by rw [he]; simp)

theorem append_singleton_eq {E : Type} {past pre post : List E} {last e : E} :
    past ++ [last] = pre ++ e :: post ↔
      (past = pre ∧ last = e ∧ post = []) ∨ ∃ post', post = post' ++ [last] ∧ past = pre ++ e :: post' := by
  constructor
  · intro h
    rcases List.eq_nil_or_concat post with rfl | ⟨post', x, rfl⟩
    · obtain ⟨hpast, hlast⟩ := List.append_inj' h rfl
      exact Or.inl ⟨hpast, List.singleton_inj.mp hlast, rfl⟩
    · rw [List.concat_eq_append, ← List.cons_append, ← List.append_assoc] at h
      obtain ⟨hpast, hlast⟩ := List.append_inj' h rfl
      exact Or.inr ⟨post', by rw [List.concat_eq_append, List.singleton_inj.mp hlast], hpast⟩
  · rintro (⟨rfl, rfl, rfl⟩ | ⟨post', rfl, rfl⟩) <;> simp

/-- A property holds in every state of a run exactly when no step of the run is bad, where the bad
steps are those that break it. -/
theorem Run.forall_iff {inv : List (Event O R S) → S → Prop}
    {bad : List (Event O R S) → Event O R S → Prop} (hstart : inv [] init)
    (hstep : ∀ past s op, Run step init past s → inv past s →
      (inv (past ++ [event step op s]) (step op s).2 ↔ ¬ bad past (event step op s)))
    (h : Run step init past s) :
    (∀ pre e post, past = pre ++ e :: post → inv (pre ++ [e]) e.after) ↔
      ∀ pre e post, past = pre ++ e :: post → ¬ bad pre e := by
  have hreached : ∀ {past s}, Run step init past s →
      (∀ pre e post, past = pre ++ e :: post → inv (pre ++ [e]) e.after) → inv past s := by
    intro past s h hall
    cases h with
    | start => exact hstart
    | @snoc past s h op => exact hall past _ [] rfl
  induction h with
  | start => simp
  | @snoc past s h op ih =>
    have hsplit : ∀ {P : List (Event O R S) → Event O R S → Prop},
        (∀ pre e post, past ++ [event step op s] = pre ++ e :: post → P pre e) ↔
          (∀ pre e post, past = pre ++ e :: post → P pre e) ∧ P past (event step op s) := by
      intro P
      constructor
      · intro hall
        refine ⟨?_, hall past _ [] rfl⟩
        intro pre e post he
        exact hall pre e (post ++ [event step op s]) (append_singleton_eq.mpr (Or.inr ⟨post, rfl, he⟩))
      · rintro ⟨hall, hlast⟩ pre e post he
        rcases append_singleton_eq.mp he with ⟨rfl, rfl, -⟩ | ⟨post', -, hpast⟩
        · exact hlast
        · exact hall pre e post' hpast
    rw [hsplit (P := fun pre e ↦ inv (pre ++ [e]) e.after), hsplit (P := fun pre e ↦ ¬ bad pre e)]
    constructor
    · intro h
      obtain ⟨hall, hlast⟩ := h
      exact ⟨ih.mp hall, (hstep past s op h (hreached h hall)).mp hlast⟩
    · intro h
      obtain ⟨hall, hlast⟩ := h
      have hinv := ih.mpr hall
      exact ⟨hinv, (hstep past s op h (hreached h hinv)).mpr hlast⟩

def Last (kind : Event O R S → Prop) (past : List (Event O R S)) (e : Event O R S) : Prop :=
  ∃ pre post, past = pre ++ e :: post ∧ kind e ∧ ∀ x ∈ post, ¬ kind x

theorem Last.mem {kind : Event O R S → Prop} {e : Event O R S} (h : Last kind past e) : e ∈ past := by
  obtain ⟨pre, post, rfl, -⟩ := h
  simp

theorem Last.of_kind {kind : Event O R S → Prop} {e : Event O R S} (h : Last kind past e) : kind e := by
  obtain ⟨pre, post, -, he, -⟩ := h
  exact he

theorem last_snoc_iff {kind : Event O R S → Prop} {e x : Event O R S} :
    Last kind (past ++ [e]) x ↔ (kind e ∧ x = e) ∨ (¬ kind e ∧ Last kind past x) := by
  constructor
  · intro h
    obtain ⟨pre, post, he, hx, hpost⟩ := h
    rcases append_singleton_eq.mp he with ⟨-, rfl, -⟩ | ⟨post', rfl, hpast⟩
    · exact Or.inl ⟨hx, rfl⟩
    · refine Or.inr ⟨hpost e (by simp), pre, post', hpast, hx, ?_⟩
      intro y hy
      exact hpost y (List.mem_append_left _ hy)
  · rintro (⟨he, rfl⟩ | ⟨he, pre, post, rfl, hx, hpost⟩)
    · exact ⟨past, [], rfl, he, by simp⟩
    · refine ⟨pre, post ++ [e], by simp, hx, ?_⟩
      intro y hy
      rcases List.mem_append.mp hy with hy | hy
      · exact hpost y hy
      · rw [List.mem_singleton.mp hy]
        exact he

theorem Run.snoc_event (h : Run step init past s) (op : O) :
    Run step init (past ++ [event step op s]) (event step op s).after := h.snoc op

theorem Run.splitAt (h : Run step init past s) {pre post : List (Event O R S)} {e : Event O R S}
    (he : past = pre ++ e :: post) : Run step init pre e.before ∧ e = event step e.op e.before := by
  induction h generalizing post with
  | start => simp at he
  | @snoc past s h op ih =>
    rcases append_singleton_eq.mp he with ⟨rfl, rfl, -⟩ | ⟨post', -, hpast⟩
    · exact ⟨h, rfl⟩
    · exact ih hpast

theorem Run.upTo (h : Run step init past s) {pre post : List (Event O R S)} {e : Event O R S}
    (he : past = pre ++ e :: post) : Run step init (pre ++ [e]) e.after := by
  obtain ⟨hrun, hevent⟩ := h.splitAt he
  rw [hevent]
  exact hrun.snoc_event e.op

theorem Run.event_eq (h : Run step init past s) : ∀ e ∈ past, e = event step e.op e.before := by
  intro e he
  obtain ⟨pre, post, hpast⟩ := List.append_of_mem he
  exact (h.splitAt hpast).2

theorem Run.kept_since {C : Type} {value : S → C} (h : Run step init past s) {pre since : List (Event O R S)}
    {r : Event O R S} (he : past = pre ++ r :: since) (hkeep : ∀ x ∈ r :: since, value x.after = value x.before) :
    value s = value r.before := by
  induction h generalizing since with
  | start => simp at he
  | @snoc past s h op ih =>
    rcases append_singleton_eq.mp he with ⟨-, rfl, rfl⟩ | ⟨since', rfl, hpast⟩
    · exact hkeep _ List.mem_cons_self
    · have hlast : value (step op s).2 = value s := hkeep (event step op s) (by simp)
      exact hlast.trans (ih hpast fun x hx ↦ hkeep x (List.mem_append_left _ hx))

def history (step : O → S → R × S) : S → List O → List (Event O R S)
  | _, [] => []
  | s, op :: ops => event step op s :: history step (step op s).2 ops

theorem final_snoc (ops : List O) (op : O) :
    final step init (ops ++ [op]) = (step op (final step init ops)).2 := by
  unfold final
  rw [List.foldl_append, List.foldl_cons, List.foldl_nil]

theorem history_snoc (ops : List O) (op : O) : history step init (ops ++ [op]) =
    history step init ops ++ [event step op (final step init ops)] := by
  induction ops generalizing init with
  | nil => rfl
  | cons first ops ih => exact congrArg (event step first init :: ·) ih

theorem after_of_mem_history {ops : List O} {op : O} {e : Event O R S}
    (h : e ∈ history step init (ops ++ [op])) :
    e ∈ history step init ops ∨ e.after = final step init (ops ++ [op]) := by
  rw [history_snoc] at h
  rcases List.mem_append.mp h with h | h
  · exact Or.inl h
  · rw [List.mem_singleton.mp h, final_snoc]
    exact Or.inr rfl

theorem map_op_history (ops : List O) : (history step init ops).map Event.op = ops := by
  induction ops generalizing init with
  | nil => rfl
  | cons first ops ih => exact congrArg (first :: ·) ih

theorem op_mem_of_history {ops : List O} {e : Event O R S} (h : e ∈ history step init ops) : e.op ∈ ops := by
  have hmem := List.mem_map_of_mem (f := Event.op) h
  rwa [map_op_history] at hmem

theorem Run.of_ops (ops : List O) : Run step init (history step init ops) (final step init ops) := by
  induction ops using List.reverseRecOn with
  | nil => exact .start
  | append_singleton ops op ih =>
    rw [history_snoc, final_snoc]
    exact ih.snoc op

theorem Run.exists (ops : List O) : ∃ past, Run step init past (final step init ops) := ⟨_, Run.of_ops ops⟩

/-- Takes a step where it is enabled; elsewhere nothing happens. -/
def attempt (step : O → S → Option S) (op : O) (s : S) : Bool × S :=
  match step op s with
  | none => (false, s)
  | some s' => (true, s')

section

variable {step : O → S → Option S} {past : List (Event O Bool S)}

theorem attempt_of_none {op : O} (h : step op s = none) : attempt step op s = (false, s) := by
  rw [attempt, h]

theorem attempt_of_some {op : O} {s' : S} (h : step op s = some s') : attempt step op s = (true, s') := by
  rw [attempt, h]

theorem Run.keeps_of (inv : S → Prop) (good : S → O → Prop) (hstart : inv init)
    (hstep : ∀ s op s', inv s → good s op → step op s = some s' → inv s')
    (h : Run (attempt step) init past s) (hgood : ∀ e ∈ past, good e.before e.op) : inv s := by
  refine @Run.invariant_of _ _ _ _ _ _ _ (fun _ s ↦ inv s) (fun _ e ↦ good e.before e.op) hstart ?_ h ?_
  · intro past s op hs hop
    cases hs' : step op s with
    | none => rwa [attempt_of_none hs']
    | some s' =>
      rw [attempt_of_some hs']
      exact hstep s op s' hs hop hs'
  · rintro pre e post rfl
    exact hgood e (List.mem_append_right _ (List.mem_cons_self))

theorem Run.keeps (inv : S → Prop) (hstart : inv init)
    (hstep : ∀ s op s', inv s → step op s = some s' → inv s') (h : Run (attempt step) init past s) :
    inv s :=
  h.keeps_of inv (fun _ _ ↦ True) hstart (fun s op s' hs _ ↦ hstep s op s' hs) fun _ _ ↦ trivial

end

end HotspotGovernor.Lib.Trace
