import ContentCode.Proofs.CharacterClasses
import ContentCode.Proofs.NormalOrder

/-!
Which capital sigmas of a text take their final form. The forms, one after the other, are all that
the collapsed text takes from the characters it drops.
-/

namespace ContentCode.Unicode

theorem meetsCased_cons (c : Char) (cs : List Char) :
    meetsCased (c :: cs) = if isCaseIgnorable c then meetsCased cs else isCased c := by
  rw [meetsCased, List.dropWhile_cons]
  cases isCaseIgnorable c with
  | true => rfl
  | false => rfl

theorem meetsCased_append (xs ys : List Char) :
    meetsCased (xs ++ ys) = (meetsCased xs || (xs.all isCaseIgnorable && meetsCased ys)) := by
  induction xs with
  | nil => simp [meetsCased]
  | cons x xs ih =>
      rw [List.cons_append, meetsCased_cons, meetsCased_cons, List.all_cons, ih]
      cases isCaseIgnorable x with
      | true => rfl
      | false => simp

theorem meetsCased_of_all {cs : List Char} (h : cs.all isCaseIgnorable = true) :
    meetsCased cs = false := by
  induction cs with
  | nil => rfl
  | cons c cs ih =>
      rw [List.all_cons, Bool.and_eq_true] at h
      rw [meetsCased_cons, if_pos h.1, ih h.2]

/-- Whether a capital sigma takes its final form after `before`, which is reversed, and in front of
`after`. -/
def isFinal (before after : List Char) : Bool := meetsCased before && !meetsCased after

/-- For each capital sigma of a text between `before`, which is reversed, and `after`, whether it
takes its final form. -/
def finals (before after : List Char) : List Char → List Bool
  | [] => []
  | c :: cs =>
    if c = 'Σ' then isFinal before (cs ++ after) :: finals (c :: before) after cs
    else finals (c :: before) after cs

variable {before before' after after' xs ys : List Char}

theorem length_finals (before after cs : List Char) :
    (finals before after cs).length = cs.count 'Σ' := by
  induction cs generalizing before with
  | nil => rfl
  | cons c cs ih =>
      rw [finals, List.count_cons]
      split
      next h => simp [h, ih]
      next h => simp [h, ih]

theorem finals_append (before after xs ys : List Char) :
    finals before after (xs ++ ys) =
      finals before (ys ++ after) xs ++ finals (xs.reverse ++ before) after ys := by
  induction xs generalizing before with
  | nil => rfl
  | cons x xs ih =>
      rw [List.cons_append, finals, finals, ih, List.append_assoc, List.reverse_cons,
        List.append_assoc, List.singleton_append]
      split
      next => rfl
      next => rfl

theorem forall_split_cons {c d : Char} {cs : List Char} (P : List Char → List Char → Prop) :
    (∀ u v, c :: cs = u ++ d :: v → P u v) ↔
      (c = d → P [] cs) ∧ ∀ u v, cs = u ++ d :: v → P (c :: u) v := by
  constructor
  · refine fun h => ⟨fun hc => h [] cs (by rw [hc, List.nil_append]), fun u v huv => ?_⟩
    exact h (c :: u) v (by rw [huv, List.cons_append])
  · rintro ⟨hhead, htail⟩ u v huv
    cases u with
    | nil =>
        obtain ⟨rfl, rfl⟩ := List.cons.inj huv
        exact hhead rfl
    | cons e u =>
        obtain ⟨rfl, hcs⟩ := List.cons.inj huv
        exact htail u v hcs

theorem finals_eq_iff (cs : List Char) :
    finals before after cs = finals before' after' cs ↔ ∀ u v, cs = u ++ 'Σ' :: v →
      isFinal (u.reverse ++ before) (v ++ after) = isFinal (u.reverse ++ before') (v ++ after') := by
  induction cs generalizing before before' with
  | nil => simp [finals]
  | cons c cs ih =>
      simp only [forall_split_cons, List.reverse_cons, List.append_assoc, List.singleton_append]
      rw [← ih, finals, finals]
      split
      next hc => simp [hc]
      next hc => simp [hc]

theorem finals_congr (hbefore : meetsCased before = meetsCased before')
    (hafter : meetsCased after = meetsCased after') (cs : List Char) :
    finals before after cs = finals before' after' cs := by
  rw [finals_eq_iff]
  intro u v _
  rw [isFinal, isFinal, meetsCased_append, meetsCased_append, meetsCased_append, meetsCased_append,
    hbefore, hafter]

end ContentCode.Unicode

namespace ContentCode.Text

open Unicode

section reorders

variable {xs ys : List Char}

theorem meetsCased_reorders (h : Reorders xs ys) : meetsCased xs = meetsCased ys := by
  induction h with
  | refl cs => rfl
  | cons c _ ih => rw [meetsCased_cons, meetsCased_cons, ih]
  | trans _ _ ih ih' => exact ih.trans ih'
  | @swap c d cs hc hd =>
      have hmark {c : Char} (h : 0 < combiningClass c) : isCaseIgnorable c = false →
          isCased c = false := fun hno =>
        (isDropped_of_combiningClass_pos h).2.resolve_left (by simp [hno])
      simp only [meetsCased_cons]
      cases hci : isCaseIgnorable c with
      | true => rfl
      | false =>
          cases hdi : isCaseIgnorable d with
          | true => rfl
          | false => simp [hmark hc hci, hmark hd hdi]

theorem finals_reorders (h : Reorders xs ys) (before after : List Char) :
    finals before after xs = finals before after ys := by
  induction h generalizing before with
  | refl cs => rfl
  | @cons c xs ys h ih =>
      rw [finals, finals, ih, isFinal, isFinal, meetsCased_reorders (h.append_right after)]
  | trans _ _ ih ih' => rw [ih, ih']
  | @swap c d cs hc hd =>
      have hne {c : Char} (h : 0 < combiningClass c) : c ≠ 'Σ' :=
        (isDropped_of_combiningClass_pos h).1.ne_sigma
      simp only [finals, if_neg (hne hc), if_neg (hne hd)]
      exact finals_congr (meetsCased_reorders (.swap before hd hc)) rfl cs

end reorders

section separator

variable {c : Char} {xs ys : List Char}

/-- A capital sigma behind a letter is the last of a text but for case-ignorable characters. -/
def EndsInSigma (cs : List Char) : Prop :=
  ∃ u v, cs = u ++ 'Σ' :: v ∧ meetsCased u.reverse = true ∧ v.all isCaseIgnorable = true

def StartsWithSigma (cs : List Char) : Prop :=
  ∃ u v, cs = u ++ 'Σ' :: v ∧ u.all isCaseIgnorable = true ∧ meetsCased v = false

/-- Where `xs` and `ys` meet stands a capital sigma whose form hangs on whether they do. -/
def SigmaAtSeam (xs ys : List Char) : Prop :=
  EndsInSigma xs ∧ meetsCased ys = true ∨ meetsCased xs.reverse = true ∧ StartsWithSigma ys

theorem IsSeparator.meetsCased_cons (h : IsSeparator c) (cs : List Char) :
    meetsCased (c :: cs) = false := by
  rw [Unicode.meetsCased_cons, h.not_ignorable, h.not_cased]
  rfl

theorem finals_before_separator (h : IsSeparator c) : finals [] (c :: ys) xs = finals [] ys xs ↔
    ¬ (EndsInSigma xs ∧ meetsCased ys = true) := by
  rw [finals_eq_iff]
  constructor
  · rintro hall ⟨⟨u, v, huv, hu, hv⟩, hys⟩
    -- This sigma is a final one in front of the separator, and would not be without it.
    have hform := hall u v huv
    simp [isFinal, meetsCased_append, h.meetsCased_cons, meetsCased_of_all hv, hu, hv, hys] at hform
  · intro hno u v huv
    rw [isFinal, isFinal, List.append_nil, meetsCased_append, meetsCased_append, h.meetsCased_cons]
    cases hu : meetsCased u.reverse with
    | false => rfl
    | true =>
        cases hv : v.all isCaseIgnorable with
        | false => rfl
        | true =>
            have hys : meetsCased ys = false := by
              rw [← Bool.not_eq_true]
              exact fun hys => hno ⟨⟨u, v, huv, hu, hv⟩, hys⟩
            rw [hys]

theorem finals_behind_separator (h : IsSeparator c) :
    finals (c :: xs.reverse) [] ys = finals xs.reverse [] ys ↔
      ¬ (meetsCased xs.reverse = true ∧ StartsWithSigma ys) := by
  rw [finals_eq_iff]
  constructor
  · rintro hall ⟨hxs, u, v, huv, hu, hv⟩
    have hform := hall u v huv
    have hu' : meetsCased u.reverse = false := meetsCased_of_all (by rwa [List.all_reverse])
    simp [isFinal, meetsCased_append, h.meetsCased_cons, hu, hu', hv, hxs] at hform
  · intro hno u v huv
    rw [isFinal, isFinal, List.append_nil, meetsCased_append, meetsCased_append, h.meetsCased_cons]
    cases hv : meetsCased v with
    | true => rw [Bool.not_true, Bool.and_false, Bool.and_false]
    | false =>
        cases hu : u.reverse.all isCaseIgnorable with
        | false => rfl
        | true =>
            have hxs : meetsCased xs.reverse = false := by
              rw [← Bool.not_eq_true]
              rw [List.all_reverse] at hu
              exact fun hxs => hno ⟨hxs, u, v, huv, hu, hv⟩
            rw [hxs]

theorem finals_separator (h : IsSeparator c) :
    finals [] [] (xs ++ c :: ys) = finals [] [] (xs ++ ys) ↔ ¬ SigmaAtSeam xs ys := by
  rw [finals_append, finals_append, finals, if_neg h.dropped.ne_sigma]
  simp only [List.append_nil]
  rw [SigmaAtSeam, not_or, ← finals_before_separator h, ← finals_behind_separator h]
  constructor
  · intro heq
    exact List.append_inj heq (by rw [length_finals, length_finals])
  · rintro ⟨hxs, hys⟩
    rw [hxs, hys]

end separator

def leaves (c : Char) : List Char := (lowerCase c).filter matters

/-- What a text leaves when its capital sigmas take the forms `forms`. -/
def withForms (forms : List Bool) : List Char → List Char
  | [] => []
  | c :: cs =>
    if c = 'Σ' then
      (if forms.headD false then 'ς' else 'σ') :: withForms forms.tail cs
    else leaves c ++ withForms forms cs

def isKept (c : Char) : Bool := c = 'Σ' || !(leaves c).isEmpty

theorem isKept_of_isDropped {c : Char} (h : IsDropped c) : isKept c = false := by
  simp [isKept, leaves, h.lower, h.ne_sigma]

theorem matters_sigmas : matters 'σ' = true ∧ matters 'ς' = true := ⟨rfl, rfl⟩

theorem filter_lowerCaseFrom (before cs : List Char) :
    (lowerCaseFrom before cs).filter matters = withForms (finals before [] cs) cs := by
  induction cs generalizing before with
  | nil => rfl
  | cons c cs ih =>
      rw [lowerCaseFrom, List.filter_append, ih, withForms, finals]
      split
      next =>
        rw [List.append_nil, isFinal, List.headD_cons, List.tail_cons]
        split
        next => simp [matters_sigmas.2]
        next => simp [matters_sigmas.1]
      next => rfl

theorem withForms_filter_isKept (forms : List Bool) (cs : List Char) :
    withForms forms (cs.filter isKept) = withForms forms cs := by
  induction cs generalizing forms with
  | nil => rfl
  | cons c cs ih =>
      cases hc : isKept c with
      | true => rw [List.filter_cons_of_pos hc, withForms, withForms, ih, ih]
      | false =>
          rw [List.filter_cons_of_neg (by simp [hc]), ih]
          simp only [isKept, Bool.or_eq_false_iff, decide_eq_false_iff_not, Bool.not_eq_false',
            List.isEmpty_iff] at hc
          rw [withForms, if_neg hc.1, hc.2, List.nil_append]

theorem withForms_inj {forms forms' : List Bool} {cs : List Char}
    (h : forms.length = cs.count 'Σ') (h' : forms'.length = cs.count 'Σ') :
    withForms forms cs = withForms forms' cs ↔ forms = forms' := by
  induction cs generalizing forms forms' with
  | nil =>
      rw [List.count_nil, List.length_eq_zero_iff] at h h'
      simp [h, h']
  | cons c cs ih =>
      rw [withForms, withForms]
      by_cases hc : c = 'Σ'
      · rw [if_pos hc, if_pos hc]
        rw [hc, List.count_cons_self] at h h'
        obtain ⟨f, forms, rfl⟩ := List.exists_cons_of_length_eq_add_one h
        obtain ⟨f', forms', rfl⟩ := List.exists_cons_of_length_eq_add_one h'
        rw [List.cons.injEq, List.cons.injEq, List.tail_cons, List.tail_cons,
          ih (by simpa using h) (by simpa using h')]
        cases f <;> cases f' <;> simp
      · rw [if_neg hc, if_neg hc, List.append_cancel_left_eq]
        rw [List.count_cons_of_ne hc] at h h'
        exact ih h h'

end ContentCode.Text
