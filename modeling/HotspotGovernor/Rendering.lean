import HotspotGovernor.Explanation

namespace HotspotGovernor.Rendering

open Foundation ByteIo Lib Explanation LineWriter

def bounded (text : Bytes) : Bytes := text.take Limits.kMaxTextBytes

def weight (line : Bytes) : ℕ := line.length + 1

variable {options : ExplanationOptions} {texts : List Bytes}

def kept (options : ExplanationOptions) (texts : List Bytes) : List Bytes :=
  Lines.firstFit weight options.maxLines options.maxBytes (texts.map bounded)

def AllFit (options : ExplanationOptions) (texts : List Bytes) : Prop :=
  texts.length ≤ options.maxLines ∧ ((texts.map bounded).map weight).sum ≤ options.maxBytes

instance : Decidable (AllFit options texts) := inferInstanceAs (Decidable (_ ∧ _))

theorem line_eq (writer : LineWriter) (text : Bytes) :
    writer.line text =
      if writer.options.maxLines - writer.lines.length = 0 ∨
          ¬ weight (bounded text) ≤ writer.options.maxBytes - writer.bytes then { writer with truncated := true }
      else { writer with
        bytes := writer.bytes + weight (bounded text)
        lines := writer.lines ++ [bounded text] } := by
  have hweight : weight (bounded text) = (text.take Limits.kMaxTextBytes).length + 1 := rfl
  by_cases hfull : writer.lines.length ≥ writer.options.maxLines
  · rw [line, if_pos hfull, if_pos (Or.inl (Nat.sub_eq_zero_of_le hfull))]
  · rw [line, if_neg hfull]
    by_cases hroom : writer.bytes + (text.take Limits.kMaxTextBytes).length + 1 > writer.options.maxBytes
    · refine (if_pos hroom).trans (if_pos (Or.inr ?_)).symm
      omega
    · refine (if_neg hroom).trans (Eq.symm ((if_neg ?_).trans ?_))
      · omega
      · rw [hweight, Nat.add_assoc, bounded]

theorem foldl_line (texts : List Bytes) (writer : LineWriter) :
    (texts.foldl line writer).options = writer.options ∧
      (texts.foldl line writer).lines = writer.lines ++ Lines.firstFit weight
        (writer.options.maxLines - writer.lines.length) (writer.options.maxBytes - writer.bytes)
        (texts.map bounded) ∧
      ((texts.foldl line writer).truncated = true ↔ writer.truncated = true ∨
        (texts.foldl line writer).lines.length < writer.lines.length + texts.length) := by
  induction texts generalizing writer with
  | nil => simp [Lines.firstFit]
  | cons text texts ih =>
    obtain ⟨hoptions, hlines, htruncated⟩ := ih (writer.line text)
    rw [List.foldl_cons, List.map_cons, List.length_cons]
    rw [line_eq] at hoptions hlines htruncated ⊢
    split at hoptions
    · next hdrop =>
      rw [if_pos hdrop] at hlines htruncated ⊢
      have hfit : Lines.firstFit weight (writer.options.maxLines - writer.lines.length)
          (writer.options.maxBytes - writer.bytes) (bounded text :: texts.map bounded) =
          Lines.firstFit weight (writer.options.maxLines - writer.lines.length)
            (writer.options.maxBytes - writer.bytes) (texts.map bounded) := by
        generalize writer.options.maxLines - writer.lines.length = places at hdrop
        cases places with
        | zero => cases texts <;> simp [Lines.firstFit]
        | succ places => rw [Lines.firstFit, if_neg (hdrop.resolve_left (Nat.succ_ne_zero places))]
      rw [hfit]
      refine ⟨hoptions, hlines, ?_⟩
      have hle : (Lines.firstFit weight (writer.options.maxLines - writer.lines.length)
          (writer.options.maxBytes - writer.bytes) (texts.map bounded)).length ≤ texts.length :=
        (Lines.firstFit_sublist.length_le).trans (List.length_map _).le
      rw [htruncated, hlines, List.length_append]
      simp only [true_or, true_iff]
      omega
    · next hkeep =>
      rw [if_neg hkeep] at hlines htruncated ⊢
      obtain ⟨hplaces, hroom⟩ := not_or.mp hkeep
      rw [not_not] at hroom
      obtain ⟨places, hsucc⟩ := Nat.exists_eq_succ_of_ne_zero hplaces
      refine ⟨hoptions, ?_, ?_⟩
      · have hplaces' : writer.options.maxLines - (writer.lines ++ [bounded text]).length = places := by
          rw [List.length_append, List.length_singleton]
          omega
        rw [hlines, hsucc, Lines.firstFit, if_pos hroom, List.append_assoc, List.singleton_append]
        simp only [hplaces', Nat.sub_sub]
      · rw [htruncated, List.length_append, List.length_singleton]
        simp only [Nat.add_assoc, Nat.add_comm 1]

theorem collected : (texts.foldl line { options }).options = options ∧
    (texts.foldl line { options }).lines = kept options texts ∧
    ((texts.foldl line { options }).truncated = true ↔ ¬ AllFit options texts) := by
  obtain ⟨hoptions, hlines, htruncated⟩ := foldl_line texts { options }
  rw [List.nil_append] at hlines
  refine ⟨hoptions, hlines, ?_⟩
  rw [htruncated, hlines, AllFit, ← @List.length_map _ _ texts bounded, ← Lines.length_firstFit_lt_iff]
  simp

theorem text_eq (writer : LineWriter) : writer.text = [newline].intercalate writer.lines := by
  rw [LineWriter.text]
  induction writer.lines with
  | nil => rfl
  | cons first lines ih =>
    cases lines with
    | nil => simp
    | cons second lines =>
      have hne : (second :: lines).flatMap (· ++ [newline]) ≠ [] := by simp
      rw [List.flatMap_cons, List.dropLast_append_of_ne_nil hne, ih, List.intercalate_cons_cons, List.append_assoc]

theorem length_intercalate (lines : List Bytes) :
    ([newline].intercalate lines).length ≤ (lines.map weight).sum := by
  induction lines with
  | nil => exact Nat.le_refl _
  | cons first lines ih =>
    rw [List.map_cons, List.sum_cons, weight]
    cases lines with
    | nil => simp
    | cons second lines =>
      rw [List.intercalate_cons_cons, List.length_append, List.length_append, List.length_singleton]
      omega

def keptText (options : ExplanationOptions) (texts : List Bytes) : Bytes :=
  (kept options texts).intersperse [newline] |>.flatten

theorem keptText_eq : keptText options texts = [newline].intercalate (kept options texts) := rfl

theorem length_keptText_le : (keptText options texts).length ≤ options.maxBytes :=
  (length_intercalate _).trans Lines.sum_firstFit_le

/-- A text that is to end within so much room: its whole lines that do, or what there is room for of
the first. -/
def front (room : ℕ) (text : Bytes) : Bytes :=
  if text.length ≤ room then text
  else
    match Lines.findLastOf newline (text.take room) with
    | some last => text.take last
    | none => text.take room

theorem front_of_le {room : ℕ} {text : Bytes} (h : text.length ≤ room) : front room text = text := if_pos h

theorem front_nil (room : ℕ) : front room [] = [] := front_of_le (Nat.zero_le room)

theorem resize_of_le {size : ℕ} {text : Bytes} (h : size ≤ text.length) :
    resize size text = some (text.take size) :=
  if_pos h

theorem note_length : note.length = 33 := by decide +kernel

theorem resize_wrapped {text : Bytes} (h : text.length ≤ note.length) :
    resize (sizeSub note.length (note.length + 1)) text = none := by
  rw [note_length] at h ⊢
  have hsize : sizeSub 33 (33 + 1) = 2 ^ 64 - 1 := rfl
  rw [hsize, resize, if_neg (by omega), if_pos (by decide)]

theorem cutBack_take {room : ℕ} {text : Bytes} (h : room < text.length) :
    cutBack (text.take room) = some (front room text) := by
  rw [cutBack, front, if_neg (Nat.not_le_of_lt h)]
  cases hlast : Lines.findLastOf newline (text.take room) with
  | none => rfl
  | some last =>
    obtain ⟨rest, hrest, -⟩ := Lines.exists_of_findLastOf hlast
    have hlength := congrArg List.length hrest
    simp only [List.length_append, List.length_take, List.length_cons] at hlength
    simp only
    rw [resize_of_le (by rw [List.length_take]; omega), List.take_take, Nat.min_eq_left (by omega)]

theorem explain_eq (subject : Subject) (options : ExplanationOptions) :
    explain subject options =
      if AllFit options (subject.render options) then some (keptText options (subject.render options))
      else if options.maxBytes < note.length then some (note.take options.maxBytes)
      else if keptText options (subject.render options) ≠ [] ∧ options.maxBytes = note.length then none
      else some (mark (front (options.maxBytes - note.length - 1) (keptText options (subject.render options)))) := by
  obtain ⟨hoptions, hlines, htruncated⟩ := @collected options (subject.render options)
  have htext : (List.foldl line { options } (subject.render options)).text =
      keptText options (subject.render options) := by
    rw [text_eq, hlines, keptText_eq]
  have hle := @length_keptText_le options (subject.render options)
  rw [explain, finish, hoptions, htext]
  generalize keptText options (subject.render options) = out at hle
  by_cases hfit : AllFit options (subject.render options)
  · have hwhole : (List.foldl line { options } (subject.render options)).truncated = false := by
      rw [← Bool.not_eq_true]
      exact fun h ↦ htruncated.mp h hfit
    rw [if_pos hfit, hwhole]
    rfl
  · rw [if_neg hfit, htruncated.mpr hfit]
    simp only [Bool.not_true, Bool.false_eq_true, if_false]
    by_cases hmarker : options.maxBytes < note.length
    · rw [if_pos hmarker, if_pos hmarker]
    · rw [if_neg hmarker, if_neg hmarker]
      by_cases hnil : out = []
      · subst hnil
        refine (if_neg ?_).trans ((if_neg fun h ↦ h.1 rfl).trans ?_).symm
        · simpa using hmarker
        · rw [front_nil]
      · have hpos : 0 < out.length := List.length_pos_iff.mpr hnil
        have hfull : out.isEmpty = false := by rw [List.isEmpty_eq_false_iff]; exact hnil
        simp only [hfull, Bool.false_eq_true, if_false]
        by_cases hroom : out.length + (note.length + 1) > options.maxBytes
        · rw [if_pos hroom]
          by_cases hexact : options.maxBytes = note.length
          · rw [if_pos ⟨hnil, hexact⟩, hexact, resize_wrapped (hexact ▸ hle)]
            rfl
          · have hsize : sizeSub options.maxBytes (note.length + 1) = options.maxBytes - note.length - 1 := by
              rw [sizeSub, if_pos (by omega)]
              omega
            have hlt : options.maxBytes - note.length - 1 < out.length := by omega
            rw [if_neg (fun h ↦ hexact h.2), hsize, resize_of_le hlt.le, Option.bind_some, cutBack_take hlt,
              Option.map_some]
        · rw [if_neg hroom, if_neg (by omega), front_of_le (by omega)]

/-- `explain` returns, within the byte bound, and where a line was dropped and the marker has room it
stands complete behind whole rendered lines: the first of those that were kept. -/
def ByteBounded (subject : Subject) (options : ExplanationOptions) : Prop :=
  ∃ text, explain subject options = some text ∧ text.length ≤ options.maxBytes ∧
    ((kept options (subject.render options)).length < (subject.render options).length →
      note.length ≤ options.maxBytes →
        ∃ whole, whole <+: kept options (subject.render options) ∧
          text = [newline].intercalate (whole ++ [note]))

/-- A cut behind so many bytes of some lines. If it falls on the first of them, it leaves nothing of that line,
or all of it without a newline in it, or a part whose only newline is its first byte. If it falls on a later
one, the part of that line in front of the cut holds no newline. -/
def CutFits (room : ℕ) : List Bytes → Prop
  | [] => True
  | first :: lines =>
    if room ≤ first.length then
      Lines.findLastOf newline (first.take room) = some 0 ∨
        newline ∉ first.take room ∧ (room = 0 ∨ room = first.length)
    else Lines.CutClean newline (room - first.length - 1) lines

instance (room : ℕ) : (lines : List Bytes) → Decidable (CutFits room lines)
  | [] => inferInstanceAs (Decidable True)
  | _ :: _ => inferInstanceAs (Decidable (ite _ _ _))

/-- Nothing is dropped, or the marker has no room at all, or nothing is kept, or there is room for a newline
and the marker, and what is kept fits in front of them or is cut where that leaves whole lines. -/
def MarkerFits (options : ExplanationOptions) (texts : List Bytes) : Prop :=
  AllFit options texts ∨ options.maxBytes < note.length ∨ keptText options texts = [] ∨
    note.length < options.maxBytes ∧
      ((keptText options texts).length + 1 + note.length ≤ options.maxBytes ∨
        CutFits (options.maxBytes - note.length - 1) (kept options texts))

theorem length_kept_lt_iff : (kept options texts).length < texts.length ↔ ¬ AllFit options texts := by
  rw [AllFit, ← @List.length_map _ _ texts bounded, ← Lines.length_firstFit_lt_iff]
  rfl

theorem mark_nil : mark [] = note := rfl

theorem mark_eq {out : Bytes} (h : out ≠ []) : mark out = out ++ newline :: note := by
  rw [mark, if_neg (by simpa using h), List.append_assoc, List.singleton_append]

theorem length_mark {out : Bytes} (h : out ≠ []) : (mark out).length = out.length + 1 + note.length := by
  rw [mark_eq h, List.length_append, List.length_cons]
  omega

theorem mark_whole_iff {out : Bytes} {lines : List Bytes} :
    (∃ whole, whole <+: lines ∧ mark out = [newline].intercalate (whole ++ [note])) ↔
      ∃ whole, whole <+: lines ∧ out = [newline].intercalate whole := by
  by_cases hnil : out = []
  · subst hnil
    refine iff_of_true ⟨[], List.nil_prefix, ?_⟩ ⟨[], List.nil_prefix, rfl⟩
    rw [mark_nil, List.nil_append]
    simp
  · rw [mark_eq hnil]
    constructor
    · rintro ⟨whole, hwhole, hmark⟩
      cases whole with
      | nil =>
        have hlength := congrArg List.length hmark
        simp only [List.nil_append, List.intercalate_singleton, List.length_append, List.length_cons] at hlength
        omega
      | cons first whole =>
        rw [Lines.intercalate_concat (List.cons_ne_nil first whole)] at hmark
        exact ⟨_, hwhole, List.append_cancel_right hmark⟩
    · rintro ⟨whole, hwhole, rfl⟩
      cases whole with
      | nil => exact absurd rfl hnil
      | cons first whole => exact ⟨_, hwhole, (Lines.intercalate_concat (List.cons_ne_nil first whole) note).symm⟩

theorem length_front_le (room : ℕ) (text : Bytes) : (front room text).length ≤ room := by
  rw [front]
  split
  · next h => exact h
  · split
    · next last hlast =>
      obtain ⟨rest, hrest, -⟩ := Lines.exists_of_findLastOf hlast
      have hlength := congrArg List.length hrest
      simp only [List.length_append, List.length_take, List.length_cons] at hlength
      rw [List.length_take]
      omega
    · rw [List.length_take]
      exact Nat.min_le_left _ _

theorem front_first_iff {room : ℕ} {first : Bytes} {lines : List Bytes} (hroom : room ≤ first.length)
    (hlt : room < (first ++ Lines.following newline lines).length) :
    (∃ whole, whole <+: first :: lines ∧
      front room (first ++ Lines.following newline lines) = [newline].intercalate whole) ↔
      CutFits room (first :: lines) := by
  have hinside : ∀ {n}, n < first.length → ((∃ whole, whole <+: first :: lines ∧
      (first ++ Lines.following newline lines).take n = [newline].intercalate whole) ↔ n = 0) := by
    intro n hn
    rw [List.take_append_of_le_length hn.le]
    constructor
    · rintro ⟨whole, hwhole, htake⟩
      have hlength := congrArg List.length htake
      rw [List.length_take, Nat.min_eq_left hn.le] at hlength
      cases whole with
      | nil => exact hlength
      | cons other whole =>
        rw [(List.cons_prefix_cons.mp hwhole).1, Lines.intercalate_cons, List.length_append] at hlength
        omega
    · rintro rfl
      exact ⟨[], List.nil_prefix, rfl⟩
  rw [front, if_neg (Nat.not_le_of_lt hlt), CutFits, if_pos hroom]
  rw [List.take_append_of_le_length hroom]
  cases hlast : Lines.findLastOf newline (first.take room) with
  | some last =>
    have hmem : newline ∈ first.take room := by
      by_contra hmem
      rw [Lines.findLastOf_eq_none.mpr hmem] at hlast
      cases hlast
    have hle := Lines.lt_of_findLastOf hlast
    rw [List.length_take, Nat.min_eq_left hroom] at hle
    simp only [hinside (Nat.lt_of_lt_of_le hle hroom), Option.some_inj, hmem, not_true_eq_false, false_and, or_false]
  | none =>
    have hmem := Lines.findLastOf_eq_none.mp hlast
    simp only [reduceCtorEq, hmem, not_false_eq_true, true_and, false_or]
    by_cases hall : room = first.length
    · refine iff_of_true ⟨[first], List.cons_prefix_cons.mpr ⟨rfl, List.nil_prefix⟩, ?_⟩ (Or.inr hall)
      rw [hall, List.take_length]
      simp
    · have hpart := hinside (Nat.lt_of_le_of_ne hroom hall)
      rw [List.take_append_of_le_length hroom] at hpart
      rw [hpart, or_iff_left hall]

theorem front_whole_iff {room : ℕ} {lines : List Bytes} (hlt : room < ([newline].intercalate lines).length) :
    (∃ whole, whole <+: lines ∧ front room ([newline].intercalate lines) = [newline].intercalate whole) ↔
      CutFits room lines := by
  cases lines with
  | nil => exact absurd hlt (Nat.not_lt_zero room)
  | cons first lines =>
    rw [Lines.intercalate_cons] at hlt ⊢
    by_cases hroom : room ≤ first.length
    · exact front_first_iff hroom hlt
    obtain ⟨m, rfl⟩ := Nat.exists_eq_add_of_lt (Nat.lt_of_not_le hroom)
    rw [List.length_append] at hlt
    have hrest : m + 1 < (Lines.following newline lines).length := by omega
    obtain ⟨k, hk⟩ := Lines.exists_findLastOf_following (Nat.lt_of_succ_lt hrest)
    have hfront : front (first.length + m + 1) (first ++ Lines.following newline lines) =
        first ++ (Lines.following newline lines).take k := by
      rw [front, if_neg (by rw [List.length_append]; omega), Nat.add_assoc, List.take_length_add_append,
        Lines.findLastOf_append, hk]
      exact List.take_length_add_append k
    have hm : first.length + m + 1 - first.length - 1 = m := by omega
    rw [hfront, CutFits, if_neg hroom, hm, ← Lines.take_following_iff hrest hk]
    constructor
    · rintro ⟨whole, hwhole, htake⟩
      cases whole with
      | nil =>
        obtain ⟨hfirst, hnone⟩ := List.append_eq_nil_iff.mp htake
        exact ⟨[], List.nil_prefix, hnone⟩
      | cons other whole =>
        obtain ⟨rfl, hwhole'⟩ := List.cons_prefix_cons.mp hwhole
        rw [Lines.intercalate_cons] at htake
        exact ⟨whole, hwhole', List.append_cancel_left htake⟩
    · rintro ⟨whole, hwhole, htake⟩
      refine ⟨first :: whole, List.cons_prefix_cons.mpr ⟨rfl, hwhole⟩, ?_⟩
      rw [htake, Lines.intercalate_cons]

theorem length_mark_front_le {bound : ℕ} (text : Bytes) (h : note.length ≤ bound) :
    (mark (front (bound - note.length - 1) text)).length ≤ bound := by
  by_cases hnil : front (bound - note.length - 1) text = []
  · rw [hnil, mark_nil]
    exact h
  · have hpos := List.length_pos_iff.mpr hnil
    have hle := length_front_le (bound - note.length - 1) text
    rw [length_mark hnil]
    omega

/-- Explanations respect the byte bound exactly when the marker finds room behind whole lines. -/
theorem byteBounded_iff (subject : Subject) (options : ExplanationOptions) :
    ByteBounded subject options ↔ MarkerFits options (subject.render options) := by
  have hexplain := explain_eq subject options
  rw [ByteBounded, MarkerFits]
  simp only [length_kept_lt_iff]
  have hkept := @length_keptText_le options (subject.render options)
  have hout := @keptText_eq options (subject.render options)
  generalize keptText options (subject.render options) = out at hexplain hkept hout
  generalize kept options (subject.render options) = lines at hout
  by_cases hfit : AllFit options (subject.render options)
  · rw [if_pos hfit] at hexplain
    exact iff_of_true ⟨out, hexplain, hkept, fun hdropped ↦ absurd hfit hdropped⟩ (Or.inl hfit)
  rw [if_neg hfit] at hexplain
  by_cases hmarker : options.maxBytes < note.length
  · rw [if_pos hmarker] at hexplain
    refine iff_of_true ⟨_, hexplain, ?_, fun _ hle ↦ absurd hmarker (Nat.not_lt_of_le hle)⟩
      (Or.inr (Or.inl hmarker))
    rw [List.length_take]
    exact Nat.min_le_left _ _
  rw [if_neg hmarker] at hexplain
  simp only [hfit, hmarker, false_or]
  by_cases hnil : out = []
  · rw [if_neg (not_and_of_not_left _ (not_not.mpr hnil))] at hexplain
    refine iff_of_true
      ⟨_, hexplain, length_mark_front_le out (Nat.le_of_not_lt hmarker), fun _ _ ↦ ?_⟩ (Or.inl hnil)
    refine mark_whole_iff.mpr ⟨[], List.nil_prefix, ?_⟩
    rw [hnil, front_nil]
    rfl
  rw [or_iff_right hnil]
  by_cases hexact : options.maxBytes = note.length
  · rw [if_pos ⟨hnil, hexact⟩] at hexplain
    refine iff_of_false ?_ ?_
    · rintro ⟨text, htext, -⟩
      rw [hexplain] at htext
      cases htext
    · rintro ⟨hroom, -⟩
      omega
  rw [if_neg (not_and_of_not_right _ hexact)] at hexplain
  have hroom : note.length < options.maxBytes := by omega
  rw [and_iff_right hroom, hexplain]
  have hwhole : (∃ whole, whole <+: lines ∧ mark (front (options.maxBytes - note.length - 1) out) =
      [newline].intercalate (whole ++ [note])) ↔ out.length + 1 + note.length ≤ options.maxBytes ∨
        CutFits (options.maxBytes - note.length - 1) lines := by
    rw [mark_whole_iff]
    by_cases hshort : out.length + 1 + note.length ≤ options.maxBytes
    · refine iff_of_true ⟨lines, List.prefix_refl _, ?_⟩ (Or.inl hshort)
      rw [front_of_le (by omega), hout]
    · rw [or_iff_right hshort, hout, front_whole_iff]
      rw [← hout]
      omega
  rw [← hwhole]
  constructor
  · rintro ⟨text, htext, -, hdropped⟩
    rw [Option.some.inj htext]
    exact hdropped not_false hroom.le
  · exact fun hw ↦ ⟨_, rfl, length_mark_front_le out hroom.le, fun _ _ ↦ hw⟩

-- A line that holds a newline itself is cut in two by it.
example : ¬ CutFits 4 [[120, newline, 121, 121, 121]] := by decide

/-- With room for the marker alone and no byte more, the wrapped size leaves `explain` with an exception. -/
theorem explain_throws_at_marker_length :
    explain (.ofPlan {}) { maxBytes := 33 } = none ∧ ¬ ByteBounded (.ofPlan {}) { maxBytes := 33 } := by
  have hthrows : explain (.ofPlan {}) { maxBytes := 33 } = none := by decide +kernel
  refine ⟨hthrows, ?_⟩
  rintro ⟨text, htext, -⟩
  rw [hthrows] at htext
  cases htext

def lineCount (text : Bytes) : ℕ := text.count newline + 1

def LineBounded (subject : Subject) (options : ExplanationOptions) : Prop :=
  ∀ text, explain subject options = some text → lineCount text ≤ options.maxLines

/-- The lines that one rendered line makes, which is more than one when it holds newlines itself. -/
def rows (line : Bytes) : ℕ := line.count newline + 1

/-- All lines are kept and make no more than the bound; or one is dropped, and then: the marker has no room
behind anything, or nothing is kept, or a cut leaves nothing, or two lines are permitted and either the kept
ones make fewer than that, or they are cut behind fewer newlines. -/
def LinesFit (options : ExplanationOptions) (texts : List Bytes) : Prop :=
  if AllFit options texts then ((kept options texts).map rows).sum ≤ options.maxLines
  else options.maxBytes ≤ note.length + 1 ∨ keptText options texts = [] ∨
    options.maxBytes < (keptText options texts).length + 1 + note.length ∧
      Lines.findLastOf newline ((keptText options texts).take (options.maxBytes - note.length - 1)) = some 0 ∨
    2 ≤ options.maxLines ∧ (((kept options texts).map rows).sum < options.maxLines ∨
      options.maxBytes < (keptText options texts).length + 1 + note.length ∧
        ((keptText options texts).take (options.maxBytes - note.length - 1)).count newline < options.maxLines)

/-- The same for lines that hold no newline: nothing is dropped, or the marker has no room behind anything, or
nothing is kept, or two lines are permitted and either fewer than the bound are kept or they are cut. -/
def PlainLinesFit (options : ExplanationOptions) (texts : List Bytes) : Prop :=
  AllFit options texts ∨ options.maxBytes ≤ note.length + 1 ∨ keptText options texts = [] ∨
    2 ≤ options.maxLines ∧ ((kept options texts).length < options.maxLines ∨
      options.maxBytes < (keptText options texts).length + 1 + note.length)

theorem newline_not_mem_note : newline ∉ note := by decide +kernel

theorem lineCount_note_take (n : ℕ) : lineCount (note.take n) = 1 := by
  rw [lineCount, List.count_eq_zero_of_not_mem fun hmem ↦ newline_not_mem_note (List.mem_of_mem_take hmem)]

theorem lineCount_mark {out : Bytes} (h : out ≠ []) : lineCount (mark out) = lineCount out + 1 := by
  rw [lineCount, lineCount, mark_eq h, List.count_append, List.count_cons_self,
    List.count_eq_zero_of_not_mem newline_not_mem_note]

theorem lineCount_keptText (h : keptText options texts ≠ []) :
    lineCount (keptText options texts) = ((kept options texts).map rows).sum := by
  rw [lineCount, keptText_eq] at *
  generalize kept options texts = lines at h ⊢
  cases lines with
  | nil => exact absurd rfl h
  | cons first lines =>
    rw [Lines.intercalate_cons, List.count_append, Lines.count_following, List.map_cons, List.sum_cons]
    exact Nat.add_right_comm _ _ _

theorem lineCount_front {room : ℕ} {text : Bytes} (hlt : room < text.length) :
    lineCount (front room text) = max 1 ((text.take room).count newline) := by
  rw [front, if_neg (Nat.not_le_of_lt hlt)]
  cases hlast : Lines.findLastOf newline (text.take room) with
  | none =>
    rw [lineCount, List.count_eq_zero_of_not_mem (Lines.findLastOf_eq_none.mp hlast)]
    rfl
  | some last =>
    have hcount := Lines.count_take_of_findLastOf hlast
    rw [lineCount]
    dsimp only
    omega

theorem front_eq_nil_iff {room : ℕ} {text : Bytes} (hlt : room < text.length) (hroom : 0 < room) :
    front room text = [] ↔ Lines.findLastOf newline (text.take room) = some 0 := by
  rw [front, if_neg (Nat.not_le_of_lt hlt)]
  cases hlast : Lines.findLastOf newline (text.take room) with
  | none =>
    refine iff_of_false (fun hnil ↦ ?_) nofun
    have hlength := congrArg List.length hnil
    rw [List.length_take, List.length_nil] at hlength
    omega
  | some last =>
    rw [List.take_eq_nil_iff, Option.some_inj]
    exact or_iff_left (fun hnil ↦ by rw [hnil] at hlt; exact Nat.not_lt_zero _ hlt)

theorem front_fits_iff {bound maxLines : ℕ} {text : Bytes} (hbound : note.length + 1 < bound) (htext : text ≠ []) :
    front (bound - note.length - 1) text = [] ∨ lineCount (front (bound - note.length - 1) text) < maxLines ↔
      bound < text.length + 1 + note.length ∧
        Lines.findLastOf newline (text.take (bound - note.length - 1)) = some 0 ∨
      2 ≤ maxLines ∧ (lineCount text < maxLines ∨ bound < text.length + 1 + note.length ∧
        (text.take (bound - note.length - 1)).count newline < maxLines) := by
  by_cases hcut : bound < text.length + 1 + note.length
  · have hlt : bound - note.length - 1 < text.length := by omega
    rw [front_eq_nil_iff hlt (by omega), lineCount_front hlt]
    simp only [hcut, true_and]
    refine or_congr_right ?_
    have hle := (List.take_sublist (bound - note.length - 1) text).count_le newline
    rw [lineCount]
    omega
  · rw [front_of_le (by omega)]
    simp only [hcut, htext, false_and, false_or, or_false]
    have hpos : 1 ≤ lineCount text := Nat.le_add_left 1 _
    omega

theorem lineBounded_iff_fit (subject : Subject) (options : ExplanationOptions) (hlines : 1 ≤ options.maxLines) :
    LineBounded subject options ↔ LinesFit options (subject.render options) := by
  have hexplain := explain_eq subject options
  have hcount := @lineCount_keptText options (subject.render options)
  have hnone : keptText options (subject.render options) = [] →
      ((kept options (subject.render options)).map rows).sum ≤ 1 := by
    intro hnil
    rw [keptText_eq] at hnil
    generalize kept options (subject.render options) = lines at hnil
    cases lines with
    | nil => exact Nat.zero_le 1
    | cons first lines =>
      rw [Lines.intercalate_cons] at hnil
      obtain ⟨rfl, hrest⟩ := List.append_eq_nil_iff.mp hnil
      cases lines with
      | nil => exact Nat.le_refl 1
      | cons second lines => cases hrest
  rw [LineBounded, LinesFit]
  generalize keptText options (subject.render options) = out at hexplain hcount hnone
  by_cases hfit : AllFit options (subject.render options)
  · rw [if_pos hfit] at hexplain ⊢
    simp only [hexplain, Option.some_inj, forall_eq']
    by_cases hnil : out = []
    · have hle := hnone hnil
      subst hnil
      exact iff_of_true hlines (hle.trans hlines)
    · rw [hcount hnil]
  rw [if_neg hfit] at hexplain ⊢
  by_cases hmarker : options.maxBytes < note.length
  · rw [if_pos hmarker] at hexplain
    refine iff_of_true ?_ (Or.inl (Nat.le_succ_of_le hmarker.le))
    intro text htext
    rw [hexplain] at htext
    cases htext
    rwa [lineCount_note_take]
  rw [if_neg hmarker] at hexplain
  by_cases hexact : out ≠ [] ∧ options.maxBytes = note.length
  · rw [if_pos hexact] at hexplain
    refine iff_of_true ?_ (Or.inl (by omega))
    intro text htext
    rw [hexplain] at htext
    cases htext
  rw [if_neg hexact] at hexplain
  simp only [hexplain, Option.some_inj, forall_eq']
  have hnote : lineCount (mark []) ≤ options.maxLines := by
    rw [mark_nil, ← List.take_length (l := note), lineCount_note_take]
    exact hlines
  by_cases hnil : out = []
  · refine iff_of_true ?_ (Or.inr (Or.inl hnil))
    rwa [hnil, front_nil]
  by_cases hone : options.maxBytes ≤ note.length + 1
  · refine iff_of_true ?_ (Or.inl hone)
    have hempty : front (options.maxBytes - note.length - 1) out = [] := by
      have hle := length_front_le (options.maxBytes - note.length - 1) out
      exact List.length_eq_zero_iff.mp (by omega)
    rwa [hempty]
  rw [or_iff_right hone, or_iff_right hnil, ← hcount hnil, ← front_fits_iff (Nat.lt_of_not_le hone) hnil]
  by_cases hempty : front (options.maxBytes - note.length - 1) out = []
  · rw [hempty]
    exact iff_of_true hnote (Or.inl rfl)
  · rw [lineCount_mark hempty, Nat.add_one_le_iff, or_iff_right hempty]

theorem linesFit_iff_of_plain (hlines : 1 ≤ options.maxLines)
    (hplain : ∀ line ∈ kept options texts, newline ∉ line) :
    LinesFit options texts ↔ PlainLinesFit options texts := by
  have hle : (kept options texts).length ≤ options.maxLines := Lines.length_firstFit_le
  have hrows : ((kept options texts).map rows).sum = (kept options texts).length := by
    generalize kept options texts = lines at hplain
    induction lines with
    | nil => rfl
    | cons line lines ih =>
      rw [List.map_cons, List.sum_cons, ih fun l hl ↦ hplain l (List.mem_cons_of_mem _ hl), rows,
        List.count_eq_zero_of_not_mem (hplain line List.mem_cons_self), List.length_cons]
      exact Nat.add_comm _ _
  rw [LinesFit, PlainLinesFit, hrows]
  by_cases hfit : AllFit options texts
  · rw [if_pos hfit]
    exact iff_of_true hle (Or.inl hfit)
  rw [if_neg hfit, or_iff_right hfit]
  refine or_congr_right (or_congr_right' fun hsome ↦ ?_)
  have hcount := lineCount_keptText hsome
  rw [hrows, lineCount] at hcount
  have hfront := (List.take_sublist (options.maxBytes - note.length - 1) (keptText options texts)).count_le newline
  constructor
  · rintro (⟨hcut, hlast⟩ | ⟨htwo, hfew | ⟨hcut, -⟩⟩)
    · have hmem : newline ∈ (keptText options texts).take (options.maxBytes - note.length - 1) := by
        by_contra hmem
        rw [Lines.findLastOf_eq_none.mpr hmem] at hlast
        cases hlast
      have hpos := List.count_pos_iff.mpr hmem
      exact ⟨by omega, Or.inr hcut⟩
    · exact ⟨htwo, Or.inl hfew⟩
    · exact ⟨htwo, Or.inr hcut⟩
  · rintro ⟨htwo, hfew | hcut⟩
    · exact Or.inr ⟨htwo, Or.inl hfew⟩
    · exact Or.inr ⟨htwo, Or.inr ⟨hcut, by omega⟩⟩

/-- Explanations respect the line bound exactly when there is a line left for the marker. Where no kept line
holds a newline, the bound is broken only where the marker follows the last line there may be, and where there
may be one line only. -/
theorem lineBounded_iff (subject : Subject) (options : ExplanationOptions) (hlines : 1 ≤ options.maxLines) :
    (LineBounded subject options ↔ LinesFit options (subject.render options)) ∧
      ((∀ line ∈ kept options (subject.render options), newline ∉ line) →
        (LineBounded subject options ↔ PlainLinesFit options (subject.render options))) := by
  have hfit := lineBounded_iff_fit subject options hlines
  exact ⟨hfit, fun hplain ↦ hfit.trans (linesFit_iff_of_plain hlines hplain)⟩

instance : Decidable (LinesFit options texts) := inferInstanceAs (Decidable (ite _ _ _))

/-- Two lines are kept where two are permitted; the bytes run out, and the marker takes the place of one. -/
theorem lineBounded_truncated : ¬ AllFit { maxLines := 2, maxBytes := 60 }
      (Subject.render { maxLines := 2, maxBytes := 60 } (.ofAssessment {})) ∧
    (kept { maxLines := 2, maxBytes := 60 }
      (Subject.render { maxLines := 2, maxBytes := 60 } (.ofAssessment {}))).length = 2 ∧
    LineBounded (.ofAssessment {}) { maxLines := 2, maxBytes := 60 } :=
  ⟨by decide +kernel, by decide +kernel,
    (lineBounded_iff (.ofAssessment {}) { maxLines := 2, maxBytes := 60 } (by decide)).1.mpr (by decide +kernel)⟩

/-- One line, and a marker behind it. -/
theorem marker_exceeds_line_bound : ¬ LineBounded (.ofAssessment {}) { maxLines := 1 } := by
  have hcount : (explain (.ofAssessment {}) { maxLines := 1 }).map lineCount = some 2 := by decide +kernel
  intro hbounded
  obtain ⟨text, htext, htwo⟩ := Option.map_eq_some_iff.mp hcount
  have hle := hbounded text htext
  rw [htwo] at hle
  exact absurd hle (by decide)

end HotspotGovernor.Rendering
