import HotspotGovernor.Containment

namespace HotspotGovernor.Identities

open Foundation Lib Topology Evidence ByteIo Detection Sampling Hotspots Detect Admissibility Components
open Authority Verdicts Classification Intervention Decisions Mitigation Turns Containment

section Words

variable {α β : Type}

theorem append_delimiter_inj {delimiter : α} {word word' rest rest' : List α} (h : delimiter ∉ word)
    (h' : delimiter ∉ word') (heq : word ++ delimiter :: rest = word' ++ delimiter :: rest') :
    word = word' ∧ rest = rest' := by
  induction word generalizing word' with
  | nil =>
    cases word' with
    | nil => exact ⟨rfl, (List.cons.inj heq).2⟩
    | cons a word' => exact absurd ((List.cons.inj heq).1 ▸ List.mem_cons_self) h'
  | cons a word ih =>
    cases word' with
    | nil => exact absurd ((List.cons.inj heq).1 ▸ List.mem_cons_self) h
    | cons b word' =>
      obtain ⟨rfl, htail⟩ := List.cons.inj heq
      obtain ⟨rfl, hrest⟩ := ih (fun hm ↦ h (List.mem_cons_of_mem _ hm))
        (fun hm ↦ h' (List.mem_cons_of_mem _ hm)) htail
      exact ⟨rfl, hrest⟩

theorem flatMap_inj_of_width {word : α → List β} {width : ℕ} (hwidth : ∀ a, (word a).length = width)
    (hinj : Function.Injective word) {xs ys : List α} {rest rest' : List β} (hlen : xs.length = ys.length)
    (heq : xs.flatMap word ++ rest = ys.flatMap word ++ rest') : xs = ys := by
  induction xs generalizing ys with
  | nil => exact (List.length_eq_zero_iff.mp hlen.symm).symm
  | cons x xs ih =>
    cases ys with
    | nil => cases hlen
    | cons y ys =>
      rw [List.flatMap_cons, List.flatMap_cons, List.append_assoc, List.append_assoc] at heq
      obtain ⟨hhead, htail⟩ := List.append_inj heq ((hwidth x).trans (hwidth y).symm)
      rw [hinj hhead, ih (Nat.succ.inj hlen) htail]

theorem pairwise_of_forall₂ {R : α → β → Prop} {S : α → α → Prop} {T : β → β → Prop}
    (h : ∀ a a' b b', R a b → R a' b' → S a a' → T b b') {xs : List α} {ys : List β}
    (hall : List.Forall₂ R xs ys) (hpair : xs.Pairwise S) : ys.Pairwise T := by
  obtain ⟨hlen, hget⟩ := List.forall₂_iff_get.mp hall
  rw [List.pairwise_iff_getElem] at hpair ⊢
  intro i j hi hj hij
  exact h _ _ _ _ (hget i (by omega) hi) (hget j (by omega) hj) (hpair i j (by omega) (by omega) hij)

end Words

theorem delimiter_notMem_numeral (n : ℕ) : '|' ∉ (toString n).toList := by
  intro h
  rw [Nat.toString_eq_repr, Nat.toList_repr] at h
  exact absurd (Nat.isDigit_of_mem_toDigits (by decide) (by decide) h) (by decide)

theorem numeral_inj {m n : ℕ} (h : (toString m).toList = (toString n).toList) : m = n := by
  rw [Nat.toString_eq_repr, Nat.toString_eq_repr, Nat.toList_repr, Nat.toList_repr] at h
  have hread := congrArg (fun digits ↦ Nat.ofDigitChars 10 digits 0) h
  simpa only [Nat.ofDigitChars_ten_toDigits] using hread

theorem toNat_and_low (v : UInt64) : (v &&& 0xF).toNat = v.toNat % 16 := by
  rw [UInt64.toNat_and]
  exact Nat.and_two_pow_sub_one_eq_mod v.toNat 4

theorem hexDigit_inj {v w : UInt64} (h : hexDigit v = hexDigit w) : v.toNat % 16 = w.toNat % 16 := by
  have hdigits : ∀ a b : Fin 16, "0123456789abcdef".toList.getD a.val '0' =
      "0123456789abcdef".toList.getD b.val '0' → a = b := by decide
  rw [hexDigit, hexDigit, toNat_and_low, toNat_and_low] at h
  exact congrArg Fin.val (hdigits ⟨_, Nat.mod_lt _ (by decide)⟩ ⟨_, Nat.mod_lt _ (by decide)⟩ h)

theorem length_hexDigits (n : ℕ) (v : UInt64) (out : List Char) :
    (hexDigits n v out).length = n + out.length := by
  induction n generalizing v out with
  | zero => simp [hexDigits]
  | succ n ih =>
    rw [hexDigits, ih, List.length_cons]
    omega

theorem hexDigits_inj {n : ℕ} {v w : UInt64} {out out' : List Char} (hlen : out.length = out'.length)
    (h : hexDigits n v out = hexDigits n w out') :
    out = out' ∧ v.toNat % 16 ^ n = w.toNat % 16 ^ n := by
  induction n generalizing v w out out' with
  | zero => exact ⟨h, by omega⟩
  | succ n ih =>
    obtain ⟨hout, hhigh⟩ := ih (by simp [hlen]) h
    obtain ⟨hdigit, rfl⟩ := List.cons.inj hout
    have hshift : ∀ v : UInt64, (v >>> 4).toNat = v.toNat / 16 := fun v ↦ by
      rw [UInt64.toNat_shiftRight]
      exact Nat.shiftRight_eq_div_pow v.toNat 4
    rw [hshift, hshift] at hhigh
    refine ⟨rfl, ?_⟩
    rw [pow_succ', Nat.mod_mul, Nat.mod_mul, hexDigit_inj hdigit, hhigh]

theorem length_hex64 (v : UInt64) : (hex64 v).toList.length = 16 := by
  rw [hex64, String.toList_ofList, length_hexDigits, List.length_nil]

theorem hex64_inj {v w : UInt64} (h : (hex64 v).toList = (hex64 w).toList) : v = w := by
  rw [hex64, hex64, String.toList_ofList, String.toList_ofList] at h
  obtain ⟨-, hmod⟩ := hexDigits_inj rfl h
  have hv : v.toNat < 16 ^ 16 := v.toNat_lt
  have hw : w.toNat < 16 ^ 16 := w.toNat_lt
  rw [Nat.mod_eq_of_lt hv, Nat.mod_eq_of_lt hw] at hmod
  exact UInt64.toNat_inj.mp hmod

theorem delimiter_notMem_hexDigits (n : ℕ) (v : UInt64) {out : List Char} (h : '|' ∉ out) :
    '|' ∉ hexDigits n v out := by
  have hdigits : ∀ k < 16, '|' ≠ "0123456789abcdef".toList.getD k '0' := by decide
  induction n generalizing v out with
  | zero => exact h
  | succ n ih =>
    refine ih (v >>> 4) (fun hmem ↦ ?_)
    rcases List.mem_cons.mp hmem with heq | hmem
    · exact hdigits _ (by rw [toNat_and_low]; exact Nat.mod_lt _ (by decide)) heq
    · exact h hmem

theorem delimiter_notMem_hex64 (v : UInt64) : '|' ∉ (hex64 v).toList := by
  rw [hex64, String.toList_ofList]
  exact delimiter_notMem_hexDigits 16 v List.not_mem_nil

/-- A list of resources as both identities render it. -/
def renderedIds (ids : List ResourceId) : List Char := ids.flatMap (fun id ↦ (hex64 id.value).toList ++ [','])

theorem toList_join_ids (ids : List ResourceId) :
    (String.join (ids.map (fun id ↦ hex64 id.value ++ ","))).toList = renderedIds ids := by
  rw [String.toList_join, List.flatMap_map, renderedIds]
  apply List.flatMap_congr
  intro id _
  rw [String.toList_append]
  rfl

theorem renderedIds_inj {ids ids' : List ResourceId} {rest rest' : List Char}
    (hlen : ids.length = ids'.length) (heq : renderedIds ids ++ rest = renderedIds ids' ++ rest') :
    ids = ids' := by
  refine @flatMap_inj_of_width _ _ _ 17 (fun id ↦ ?_) (fun a b h ↦ ?_) _ _ _ _ hlen heq
  · rw [List.length_append, length_hex64]
    rfl
  · exact congrArg StrongId.mk (hex64_inj (List.append_cancel_right h))

theorem fields_inj {label label' label'' : String} {a b c : List Char} (hlabel : label.toList = '|' :: a)
    (hlabel' : label'.toList = '|' :: b) (hlabel'' : label''.toList = '|' :: c)
    {start x y z rest mark close start' x' y' z' rest' close' : String} (hstart : start = start')
    (hx : '|' ∉ x.toList) (hx' : '|' ∉ x'.toList)
    (hy : '|' ∉ y.toList) (hy' : '|' ∉ y'.toList) (hz : '|' ∉ z.toList) (hz' : '|' ∉ z'.toList)
    (heq : start ++ x ++ label ++ y ++ label' ++ z ++ label'' ++ rest ++ mark ++ close =
      start' ++ x' ++ label ++ y' ++ label' ++ z' ++ label'' ++ rest' ++ mark ++ close') :
    z.toList = z'.toList ∧ rest.toList ++ (mark.toList ++ close.toList) =
      rest'.toList ++ (mark.toList ++ close'.toList) := by
  subst hstart
  have hchars : ∀ x y z rest close : String,
      (start ++ x ++ label ++ y ++ label' ++ z ++ label'' ++ rest ++ mark ++ close).toList = start.toList ++
        (x.toList ++ '|' :: (a ++ (y.toList ++ '|' :: (b ++ (z.toList ++ '|' :: (c ++
          (rest.toList ++ (mark.toList ++ close.toList)))))))) := by
    intro x y z rest close
    simp only [String.toList_append, hlabel, hlabel', hlabel'', List.append_assoc, List.cons_append]
  have hlists := congrArg String.toList heq
  rw [hchars, hchars] at hlists
  obtain ⟨-, hafterX⟩ := append_delimiter_inj hx hx' (List.append_cancel_left hlists)
  obtain ⟨-, hafterY⟩ := append_delimiter_inj hy hy' (List.append_cancel_left hafterX)
  obtain ⟨hthird, hafterZ⟩ := append_delimiter_inj hz hz' (List.append_cancel_left hafterY)
  exact ⟨hthird, List.append_cancel_left hafterZ⟩

def hotspotText (h : Hotspot) : String :=
  "hg1|" ++ generationBinding h.binding ++ "|s" ++ toString h.scope.code ++ "|c" ++
    toString h.cause.code ++ "|n" ++ toString h.saturatedCount ++ "|" ++
    String.join ((h.saturatedResources.take 32).map (fun id ↦ hex64 id.value ++ ",")) ++ "|m" ++
    hex64 ((h.saturatedResources.getLast?.map StrongId.value).getD 0)

theorem head_of_hotspotText {h h' : Hotspot} {a a' : ResourceId} {rest rest' : List ResourceId}
    (hbinding : h.binding = h'.binding) (ha : h.saturatedResources = a :: rest)
    (ha' : h'.saturatedResources = a' :: rest') (heq : hotspotText h = hotspotText h') : a = a' := by
  have hstart : "hg1|" ++ generationBinding h.binding ++ "|s" = "hg1|" ++ generationBinding h'.binding ++ "|s" :=
    congrArg (fun binding ↦ "hg1|" ++ generationBinding binding ++ "|s") hbinding
  obtain ⟨-, hids⟩ := fields_inj (show "|c".toList = ['|', 'c'] from rfl)
    (show "|n".toList = ['|', 'n'] from rfl) (show "|".toList = ['|'] from rfl) hstart
    (delimiter_notMem_numeral _) (delimiter_notMem_numeral _) (delimiter_notMem_numeral _)
    (delimiter_notMem_numeral _) (delimiter_notMem_numeral _) (delimiter_notMem_numeral _) heq
  rw [toList_join_ids, toList_join_ids, ha, ha', List.take_succ_cons, List.take_succ_cons, renderedIds,
    renderedIds, List.flatMap_cons, List.flatMap_cons, List.append_assoc, List.append_assoc,
    List.append_assoc, List.append_assoc] at hids
  obtain ⟨hhex, -⟩ := List.append_inj hids ((length_hex64 _).trans (length_hex64 _).symm)
  exact congrArg StrongId.mk (hex64_inj hhex)

section Reports

variable {input : DecisionInput} {ev : BoundEvidence} {binding : EvidenceBinding}

theorem identity_hotspotOf (scene : Scene) (c : List ℕ) (authority : AuthorityVector) :
    ({ scene.hotspotOf c with authority } : Hotspot).id =
      ⟨identityFromBytes (hotspotText { scene.hotspotOf c with authority })⟩ := rfl

theorem component_of_hotspotText (hbuilt : ev.topology.built = true) {authority : AuthorityVector}
    {c c' : List ℕ} (hc : c ∈ (sceneOf input ev binding).components)
    (hc' : c' ∈ (sceneOf input ev binding).components)
    (heq : hotspotText { (sceneOf input ev binding).hotspotOf c with authority } =
      hotspotText { (sceneOf input ev binding).hotspotOf c' with authority }) : c = c' := by
  have hg : Grouped input ev binding := grouped hbuilt
  obtain ⟨i, rest, rfl⟩ := List.exists_cons_of_ne_nil (hg.inhabited c hc)
  obtain ⟨j, rest', rfl⟩ := List.exists_cons_of_ne_nil (hg.inhabited c' hc')
  have hids : ∀ k ks, ({ (sceneOf input ev binding).hotspotOf (k :: ks) with authority } :
      Hotspot).saturatedResources = (sceneOf input ev binding).resourceId k ::
        (ks.take 255).map (sceneOf input ev binding).resourceId := fun k ks ↦ rfl
  have hid := @head_of_hotspotText { (sceneOf input ev binding).hotspotOf (i :: rest) with authority }
    { (sceneOf input ev binding).hotspotOf (j :: rest') with authority } _ _ _ _ rfl (hids i rest)
    (hids j rest') heq
  exact component_unique hbuilt hc hc' List.mem_cons_self List.mem_cons_self hid

theorem components_pairwise (hbuilt : ev.topology.built = true) :
    (sceneOf input ev binding).components.Pairwise List.Disjoint :=
  (List.nodup_flatten.mp (grouped hbuilt).nodup).2

theorem components_nodup (hbuilt : ev.topology.built = true) :
    (sceneOf input ev binding).components.Nodup := by
  refine (components_pairwise hbuilt).imp_of_mem (fun {c c'} hc hc' hdisjoint ↦ ?_)
  rintro rfl
  obtain ⟨i, rest, rfl⟩ := List.exists_cons_of_ne_nil ((grouped hbuilt).inhabited c hc)
  exact hdisjoint List.mem_cons_self List.mem_cons_self

theorem reportedComponents_nodup (hbuilt : ev.topology.built = true) :
    (reportedComponents (sceneOf input ev binding)).Nodup := by
  have hnodup := @components_nodup input ev binding hbuilt
  rw [reportedComponents, confirmed, tentative]
  refine List.Nodup.append ((hnodup.filter _).sublist (List.take_sublist _ _))
    ((hnodup.filter _).sublist (List.take_sublist _ _)) (fun c hc hc' ↦ ?_)
  have hmeets := (List.mem_filter.mp (List.mem_of_mem_take hc)).2
  have hfails := (List.mem_filter.mp (List.mem_of_mem_take hc')).2
  rw [hmeets] at hfails
  cases hfails

theorem reports_of_rejected (h : admittedEvidence input = none) :
    (detect input).1.hotspots ++ (detect input).1.candidates = [] := by
  apply List.eq_nil_iff_forall_not_mem.mpr
  intro hotspot hmem
  obtain ⟨ev, hadm, -⟩ := Persistence.reported_component hmem
  rw [h] at hadm
  cases hadm

theorem hotspotTexts_nodup (input : DecisionInput) :
    (((detect input).1.hotspots ++ (detect input).1.candidates).map hotspotText).Nodup := by
  cases hadm : admittedEvidence input with
  | none =>
    rw [reports_of_rejected hadm]
    exact List.nodup_nil
  | some ev =>
    have hbuilt := (gates_of_admitted hadm).built
    obtain ⟨authority, hreported⟩ := detect_reported hadm
    rw [hreported, List.map_map]
    refine (reportedComponents_nodup hbuilt).map_on (fun c hc c' hc' heq ↦ ?_)
    exact component_of_hotspotText hbuilt (mem_components_of_reported hc) (mem_components_of_reported hc') heq

theorem identity_of_report {h : Hotspot}
    (hin : h ∈ (detect input).1.hotspots ++ (detect input).1.candidates) :
    h.id = ⟨identityFromBytes (hotspotText h)⟩ := by
  obtain ⟨ev, -, component, -, authority, rfl⟩ := Persistence.reported_component hin
  exact identity_hotspotOf _ _ _

end Reports

def intentText (i : MitigationIntent) : String :=
  if i.escalation then escalationCanonical i.binding
  else intentCanonical i.kind i.hotspot
    { resources := i.affectedResources, rateDeltaPpm := i.rateDeltaPpm, rationale := i.rationale }

theorem resources_of_intentText {i i' : MitigationIntent} (hlocal : i.escalation = false)
    (hlocal' : i'.escalation = false) (heq : intentText i = intentText i') :
    i.affectedResources = i'.affectedResources := by
  rw [intentText, intentText, if_neg (by simp [hlocal]), if_neg (by simp [hlocal'])] at heq
  obtain ⟨hcount, hids⟩ := fields_inj (show "|h".toList = ['|', 'h'] from rfl)
    (show "|n".toList = ['|', 'n'] from rfl) (show "|r".toList = ['|', 'r'] from rfl) rfl
    (delimiter_notMem_numeral _) (delimiter_notMem_numeral _) (delimiter_notMem_hex64 _)
    (delimiter_notMem_hex64 _) (delimiter_notMem_numeral _) (delimiter_notMem_numeral _) heq
  rw [toList_join_ids, toList_join_ids] at hids
  exact renderedIds_inj (numeral_inj hcount) hids

section Local

variable {input : DecisionInput} {ev : BoundEvidence} {binding : EvidenceBinding}

theorem drafted_foldl (p : Planning) (hotspots : List Hotspot) (plan : InterventionPlan) :
    ∃ served added, served.Sublist hotspots ∧
      (hotspots.foldl p.planHotspot plan).intents = plan.intents ++ added ∧
      List.Forall₂ (fun h i ↦ ∃ plan kind, DraftedAs p plan h kind i) served added := by
  induction hotspots generalizing plan with
  | nil => exact ⟨[], [], .refl _, (List.append_nil _).symm, .nil⟩
  | cons h hotspots ih =>
    obtain ⟨served, added, hsub, hintents, hdrafted⟩ := ih (p.planHotspot plan h)
    have hturn := planHotspot_turn p plan h
    rw [List.foldl_cons, hintents]
    cases hchosen : chosen p plan h with
    | none =>
      rw [hchosen] at hturn
      exact ⟨served, added, hsub.cons h, by rw [hturn], hdrafted⟩
    | some kind =>
      rw [hchosen] at hturn
      obtain ⟨intent, hintent, happend⟩ := hturn
      refine ⟨h :: served, intent :: added, hsub.cons_cons h, ?_, .cons ⟨plan, kind, hintent⟩ hdrafted⟩
      rw [happend, List.append_assoc, List.singleton_append]

/-- Intents for different components act on different resources: a component's own resources are
saturated, and what a relocation adds to them is not. -/
theorem affected_ne (hbuilt : ev.topology.built = true) {c c' : List ℕ} {i i' : MitigationIntent}
    (hc : c ∈ (sceneOf input ev binding).components) (hc' : c' ∈ (sceneOf input ev binding).components)
    (hne : c ≠ c') (h : Contained input ev (c.map (sceneOf input ev binding).resourceId) i)
    (h' : Contained input ev (c'.map (sceneOf input ev binding).resourceId) i') :
    i.affectedResources ≠ i'.affectedResources := by
  intro heq
  obtain ⟨k, hk⟩ := List.exists_mem_of_ne_nil c ((grouped hbuilt).inhabited c hc)
  have hin := h.whole _ (List.mem_map_of_mem hk)
  rw [heq] at hin
  rcases h'.beyond _ hin with hown | ⟨-, -, r, hr, hid, -, hunsaturated⟩
  · obtain ⟨j, hj, hid⟩ := List.mem_map.mp hown
    exact hne (component_unique hbuilt hc hc' hk hj hid.symm)
  · obtain ⟨r', hr', hsaturated⟩ := saturatedAt_iff.mp (saturatedAt_of_mem hbuilt hc hk)
    rw [← @resourceId_of_getElem? (sceneOf input ev binding) _ _ hr', ← hid,
      ← observe_saturated_iff hr, hunsaturated] at hsaturated
    cases hsaturated

theorem localTexts_nodup (hadm : admittedEvidence input = some ev) {p : Planning}
    (hp : p.assessment = (detect input).1) :
    ((p.localPlan (openPlan p.assessment)).intents.map intentText).Nodup := by
  have hbuilt := (gates_of_admitted hadm).built
  obtain ⟨authority, hhot, -, -⟩ := detect_reports hadm
  obtain ⟨served, added, hsub, hintents, hdrafted⟩ :=
    drafted_foldl p p.assessment.hotspots (openPlan p.assessment)
  have hplan : (p.localPlan (openPlan p.assessment)).intents = added := hintents
  set scene := sceneOf input ev (recordBinding input) with hscene
  rw [hp, hhot] at hsub
  obtain ⟨components, hcomponents, rfl⟩ := List.sublist_map_iff.mp hsub
  have hconfirmed : ∀ c ∈ components, c ∈ scene.components := fun c hc ↦
    mem_components_of_reported (List.mem_append_left _ (hcomponents.subset hc))
  have hnodup : components.Pairwise (fun c c' ↦ c ≠ c') :=
    ((reportedComponents_nodup hbuilt).sublist (List.sublist_append_left _ _)).sublist hcomponents
  have hall : List.Forall₂ (fun c i ↦ c ∈ scene.components ∧ (i.escalation = false ∧
      Contained input ev (c.map scene.resourceId) i)) components added := by
    refine ((List.forall₂_and_left _ _).mpr ⟨hconfirmed, List.forall₂_map_left_iff.mp hdrafted⟩).imp ?_
    rintro c i ⟨hc, plan, kind, hdraft⟩
    refine ⟨hc, ?_, contained_of_drafted hbuilt hc ⟨authority, rfl⟩ hdraft⟩
    obtain ⟨draft, -, -, rfl⟩ := hdraft
    rfl
  rw [hplan]
  refine List.pairwise_map.mpr (pairwise_of_forall₂ ?_ hall hnodup)
  rintro c c' i i' ⟨hc, hlocal, h⟩ ⟨hc', hlocal', h'⟩ hne heq
  exact affected_ne hbuilt hc hc' hne h h' (resources_of_intentText hlocal hlocal' heq)

theorem identity_of_drafted {p : Planning} {plan : InterventionPlan} {hotspot : Hotspot}
    {kind : MitigationKind} {intent : MitigationIntent} (h : DraftedAs p plan hotspot kind intent) :
    intent.id = ⟨identityFromBytes (intentText intent)⟩ := by
  obtain ⟨draft, -, -, rfl⟩ := h
  rfl

theorem intents_localPlan_of_rejected (hadm : admittedEvidence input = none) {p : Planning}
    (hp : p.assessment = (detect input).1) : (p.localPlan (openPlan p.assessment)).intents = [] := by
  have hnone : p.assessment.hotspots = [] := by
    rw [hp]
    exact (List.append_eq_nil_iff.mp (reports_of_rejected hadm)).1
  simp only [Planning.localPlan, hnone, List.foldl_nil]
  rfl

theorem intentTexts_nodup (engine : Engine) (input : DecisionInput) :
    ((engine.decide input).1.plan.intents.map intentText).Nodup ∧
      ∀ i ∈ (engine.decide input).1.plan.intents, i.id = ⟨identityFromBytes (intentText i)⟩ := by
  have hplan : (engine.decide input).1.plan =
    planInterventions (detect input).1 input.topology input.capacity input.policy input.now := rfl
  rw [hplan]
  rcases planInterventions_cases (detect input).1 input.topology input.capacity input.policy input.now
    with ⟨hnil, -⟩ | ⟨t, pol, -, -, -, ⟨-, heq⟩ | ⟨-, heq⟩⟩
  · rw [hnil]
    exact ⟨List.nodup_nil, fun i hi ↦ by cases hi⟩
  · obtain ⟨-, hnil | ⟨q, hone⟩⟩ := escalationPlan_cases ⟨(detect input).1, t, input.capacity, pol⟩
    · rw [heq, hnil]
      exact ⟨List.nodup_nil, fun i hi ↦ by cases hi⟩
    · rw [heq, hone]
      refine ⟨List.nodup_singleton _, fun i hi ↦ ?_⟩
      rw [List.mem_singleton.mp hi]
      rfl
  · rw [heq]
    cases hadm : admittedEvidence input with
    | none =>
      have hnil := @intents_localPlan_of_rejected input hadm ⟨(detect input).1, t, input.capacity, pol⟩ rfl
      rw [hnil]
      exact ⟨List.nodup_nil, fun i hi ↦ by cases hi⟩
    | some ev =>
      refine ⟨@localTexts_nodup input ev hadm ⟨(detect input).1, t, input.capacity, pol⟩ rfl, fun i hi ↦ ?_⟩
      obtain ⟨hotspot, before, after, hplanned⟩ := mem_localPlan.mp hi
      obtain ⟨_, _, kind, -, -, hdrafted⟩ := plannedFor_iff.mp ⟨before, after, hplanned⟩
      exact identity_of_drafted hdrafted

end Local

def hashOf (text : String) : UInt64 := fnv1a64 (textBytes text)

def CollisionFree (texts : List String) : Prop := ∀ s ∈ texts, ∀ t ∈ texts, hashOf s = hashOf t → s = t

/-- The hash 0 stands for no identity: it is replaced by 1, which may be the hash of another text. -/
def ZeroReplaced (texts : List String) : Prop := ∃ s ∈ texts, ∃ t ∈ texts, hashOf s = 0 ∧ hashOf t = 1

theorem identity_eq_iff (s t : String) : identityFromBytes s = identityFromBytes t ↔
    hashOf s = hashOf t ∨ (hashOf s = 0 ∧ hashOf t = 1) ∨ (hashOf s = 1 ∧ hashOf t = 0) := by
  rw [identityFromBytes, identityFromBytes, ← hashOf, ← hashOf]
  generalize hashOf s = a
  generalize hashOf t = b
  split_ifs with ha hb hb
  · simp [ha, hb]
  · subst ha
    simp [eq_comm, hb]
  · subst hb
    simp [ha]
  · simp [ha, hb]

theorem identities_nodup_iff {texts : List String} (hnodup : texts.Nodup) :
    (texts.map identityFromBytes).Nodup ↔ CollisionFree texts ∧ ¬ZeroReplaced texts := by
  rw [List.nodup_map_iff_inj_on hnodup]
  constructor
  · intro hinj
    refine ⟨fun s hs t ht h ↦ hinj s hs t ht ((identity_eq_iff s t).mpr (.inl h)), ?_⟩
    rintro ⟨s, hs, t, ht, h₀, h₁⟩
    obtain rfl := hinj s hs t ht ((identity_eq_iff s t).mpr (.inr (.inl ⟨h₀, h₁⟩)))
    rw [h₀] at h₁
    exact absurd h₁ (by decide)
  · rintro ⟨hfree, hzero⟩ s hs t ht h
    rcases (identity_eq_iff s t).mp h with h | ⟨h₀, h₁⟩ | ⟨h₁, h₀⟩
    · exact hfree s hs t ht h
    · exact absurd ⟨s, hs, t, ht, h₀, h₁⟩ hzero
    · exact absurd ⟨t, ht, s, hs, h₀, h₁⟩ hzero

theorem ids_nodup_iff {α : Type} {tag : IdTag} {entries : List α} {identity : α → StrongId tag}
    {text : α → String} (hidentity : ∀ a ∈ entries, identity a = ⟨identityFromBytes (text a)⟩)
    (hnodup : (entries.map text).Nodup) :
    (entries.map identity).Nodup ↔ CollisionFree (entries.map text) ∧ ¬ZeroReplaced (entries.map text) := by
  rw [← identities_nodup_iff hnodup, List.map_congr_left hidentity, List.map_map]
  have hvalues : (fun a ↦ (⟨identityFromBytes (text a)⟩ : StrongId tag)) =
      StrongId.mk ∘ identityFromBytes ∘ text := rfl
  rw [hvalues, ← List.map_map]
  exact List.nodup_map_iff (fun a b h ↦ congrArg StrongId.value h)

/-- For every input: no two hotspots or candidates and no two intents of the plan have one text, so their
identities are distinct unless two texts have one hash, or the hashes 0 and 1 both occur. -/
theorem identities_unambiguous (engine : Engine) (input : DecisionInput) :
    let reports := (detect input).1.hotspots ++ (detect input).1.candidates
    let intents := (engine.decide input).1.plan.intents
    ((reports.map hotspotText).Nodup ∧ (∀ h ∈ reports, h.id = ⟨identityFromBytes (hotspotText h)⟩) ∧
      ((reports.map Hotspot.id).Nodup ↔
        CollisionFree (reports.map hotspotText) ∧ ¬ZeroReplaced (reports.map hotspotText))) ∧
    (intents.map intentText).Nodup ∧ (∀ i ∈ intents, i.id = ⟨identityFromBytes (intentText i)⟩) ∧
      ((intents.map MitigationIntent.id).Nodup ↔
        CollisionFree (intents.map intentText) ∧ ¬ZeroReplaced (intents.map intentText)) := by
  intro reports intents
  have hreports : ∀ h ∈ reports, h.id = ⟨identityFromBytes (hotspotText h)⟩ := fun h ↦ identity_of_report
  obtain ⟨htexts, hintents⟩ := intentTexts_nodup engine input
  exact ⟨⟨hotspotTexts_nodup input, hreports, ids_nodup_iff hreports (hotspotTexts_nodup input)⟩, htexts,
    hintents, ids_nodup_iff hintents htexts⟩

def pairIds : List UInt64 :=
  [0x100000001667907e, 0xe00000015bf9f2e4, 0x100000000492f8d5, 0xe0000023c778e152]

def pairTopology : Result TopologySnapshot :=
  let s := (default : TopologySnapshot).addRegion ⟨1⟩ [] ⟨0⟩
  let s := pairIds.foldl (fun s id ↦ s.addResource ⟨id⟩ ⟨1⟩ .switch []) s
  ((s.addLink ⟨1⟩ ⟨0x100000001667907e⟩ ⟨0xe00000015bf9f2e4⟩).addLink ⟨2⟩
    ⟨0x100000000492f8d5⟩ ⟨0xe0000023c778e152⟩).build

def pairCapacity : Result CapacitySnapshot :=
  (pairIds.foldl (fun s id ↦ CapacitySnapshot.add s { resource := ⟨id⟩, capacityUnits := 100 })
    { (default : CapacitySnapshot) with observedAt := 10000 }).build

def pairSignals : Result SignalSnapshot :=
  (pairIds.foldl (fun s id ↦ SignalSnapshot.add s (islandSample id 95)) default).build

def pairInput : DecisionInput where
  topology := pairTopology.toOption
  capacity := pairCapacity.toOption
  signals := pairSignals.toOption
  now := 10000

theorem shared_identity {reports : List Hotspot} {s t : String} (htexts : reports.map hotspotText = [s, t])
    (hids : reports.map Hotspot.id = [⟨1⟩, ⟨1⟩]) (hs : hashOf s = 1) (ht : hashOf t = 0) :
    CollisionFree (reports.map hotspotText) ∧ ¬ (reports.map Hotspot.id).Nodup := by
  constructor
  · rw [htexts]
    intro a ha b hb heq
    simp only [List.mem_cons, List.not_mem_nil, or_false] at ha hb
    rcases ha with rfl | rfl <;> rcases hb with rfl | rfl
    · rfl
    · rw [hs, ht] at heq
      cases heq
    · rw [hs, ht] at heq
      cases heq
    · rfl
  · rw [hids]
    simp

/-- The texts of the two candidates hash to 1 and to 0: no collision, but one identity. -/
theorem zero_and_one_share_identity :
    CollisionFree ((detect pairInput).1.candidates.map hotspotText) ∧
      ¬ ((detect pairInput).1.candidates.map Hotspot.id).Nodup :=
  @shared_identity _
    "hg1|t0/c0/s0/p0/r0/y0|s4|c0|n2|100000000492f8d5,e0000023c778e152,|me0000023c778e152"
    "hg1|t0/c0/s0/p0/r0/y0|s4|c0|n2|100000001667907e,e00000015bf9f2e4,|me00000015bf9f2e4"
    (by decide +kernel) (by decide +kernel) (by decide +kernel) (by decide +kernel)

end HotspotGovernor.Identities
