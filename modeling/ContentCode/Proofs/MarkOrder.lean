import Mathlib.Data.List.Chain
import ContentCode.Proofs.NormalOrder

/-!
The order of marks. Marks of different classes may change places, and every text has one order that
is reached in this way in which no mark stands behind one of a higher class.
-/

namespace ContentCode.Unicode

/-- `ys` is `xs` after neighbouring marks of different classes have changed places. -/
inductive Commutes : List Char → List Char → Prop
  | refl (cs : List Char) : Commutes cs cs
  | swap {c d : Char} (cs : List Char) (hc : 0 < combiningClass c) (hcd : combiningClass c < combiningClass d) :
      Commutes (c :: d :: cs) (d :: c :: cs)
  | symm {xs ys : List Char} (h : Commutes xs ys) : Commutes ys xs
  | cons (c : Char) {xs ys : List Char} (h : Commutes xs ys) : Commutes (c :: xs) (c :: ys)
  | trans {xs ys zs : List Char} (h : Commutes xs ys) (h' : Commutes ys zs) : Commutes xs zs

namespace Commutes

variable {xs ys : List Char} {c : Char}

theorem append_left (h : Commutes xs ys) (zs : List Char) : Commutes (zs ++ xs) (zs ++ ys) := by
  induction zs with
  | nil => exact h
  | cons z zs ih => exact cons z ih

theorem append_right (h : Commutes xs ys) (zs : List Char) : Commutes (xs ++ zs) (ys ++ zs) := by
  induction h with
  | refl cs => exact refl _
  | swap cs hc hcd => exact swap _ hc hcd
  | symm _ ih => exact symm ih
  | cons c _ ih => exact cons c ih
  | trans _ _ ih ih' => exact ih.trans ih'

theorem move {marks : List Char} (h : ∀ m ∈ marks, 0 < combiningClass m ∧ combiningClass m < combiningClass c)
    (cs : List Char) : Commutes (marks ++ c :: cs) (c :: (marks ++ cs)) := by
  induction marks with
  | nil => exact refl _
  | cons m marks ih =>
      obtain ⟨⟨hpos, hlt⟩, hmarks⟩ := List.forall_mem_cons.1 h
      exact (cons m (ih hmarks)).trans (swap _ hpos hlt)

theorem move_behind {marks : List Char} (hc : 0 < combiningClass c)
    (h : ∀ m ∈ marks, combiningClass c < combiningClass m) : Commutes (c :: marks) (marks ++ [c]) := by
  induction marks with
  | nil => exact refl _
  | cons m marks ih =>
      obtain ⟨hm, hmarks⟩ := List.forall_mem_cons.1 h
      exact (swap marks hc hm).trans (cons m (ih hmarks))

end Commutes

theorem commutes_insertMark (c : Char) (cs : List Char) : Commutes (c :: cs) (insertMark c cs) := by
  induction cs with
  | nil => exact .refl _
  | cons d cs ih =>
      rw [insertMark]
      by_cases h : 0 < combiningClass d ∧ combiningClass d < combiningClass c
      · rw [if_pos h]
        exact (Commutes.swap cs h.1 h.2).symm.trans (.cons d ih)
      · rw [if_neg h]
        exact .refl _

theorem commutes_canonicalOrder (cs : List Char) : Commutes cs (canonicalOrder cs) := by
  induction cs with
  | nil => exact .refl _
  | cons c cs ih => exact (Commutes.cons c ih).trans (commutes_insertMark c _)

/-- It is all the same which of two marks of different classes is put in first. -/
theorem insertMark_comm {c d : Char} (hc : 0 < combiningClass c) (hcd : combiningClass c < combiningClass d)
    (cs : List Char) : insertMark c (insertMark d cs) = insertMark d (insertMark c cs) := by
  induction cs with
  | nil => simp [insertMark, hc, hcd, hcd.le]
  | cons e cs ih =>
      by_cases he : 0 < combiningClass e ∧ combiningClass e < combiningClass c
      · have hed : 0 < combiningClass e ∧ combiningClass e < combiningClass d := ⟨he.1, he.2.trans hcd⟩
        simp only [insertMark, if_pos he, if_pos hed, ih]
      · have hdc : ¬ (0 < combiningClass d ∧ combiningClass d < combiningClass c) := fun h =>
          absurd h.2 hcd.le.not_gt
        by_cases hed : 0 < combiningClass e ∧ combiningClass e < combiningClass d
        · simp only [insertMark, if_neg he, if_pos hed, if_pos (show _ ∧ _ from ⟨hc, hcd⟩)]
        · simp only [insertMark, if_neg he, if_neg hed, if_neg hdc, if_pos (show _ ∧ _ from ⟨hc, hcd⟩)]

theorem Commutes.canonicalOrder_eq {xs ys : List Char} (h : Commutes xs ys) :
    canonicalOrder xs = canonicalOrder ys := by
  induction h with
  | refl cs => rfl
  | swap cs hc hcd => exact insertMark_comm hc hcd _
  | symm _ ih => exact ih.symm
  | cons c _ ih => exact congrArg (insertMark c) ih
  | trans _ _ ih ih' => exact ih.trans ih'

theorem canonicalOrder_canonicalOrder (cs : List Char) :
    canonicalOrder (canonicalOrder cs) = canonicalOrder cs :=
  (commutes_canonicalOrder cs).symm.canonicalOrder_eq

/-- No mark stands behind one of a higher class. -/
def IsOrdered (cs : List Char) : Prop :=
  cs.IsChain fun c d => combiningClass d = 0 ∨ combiningClass c ≤ combiningClass d

theorem isOrdered_insertMark {cs : List Char} (h : IsOrdered cs) (c : Char) : IsOrdered (insertMark c cs) := by
  induction cs with
  | nil => exact .singleton c
  | cons d cs ih =>
      rw [insertMark]
      by_cases hd : 0 < combiningClass d ∧ combiningClass d < combiningClass c
      · rw [if_pos hd]
        have hcd := List.isChain_cons.1 h
        refine List.isChain_cons.2 ⟨fun e he => ?_, ih h.tail⟩
        cases cs with
        | nil =>
            obtain rfl := Option.some.inj he
            exact .inr hd.2.le
        | cons e' cs =>
            rw [insertMark] at he
            by_cases he' : 0 < combiningClass e' ∧ combiningClass e' < combiningClass c
            · rw [if_pos he'] at he
              exact hcd.1 e he
            · rw [if_neg he'] at he
              obtain rfl := Option.some.inj he
              exact .inr hd.2.le
      · rw [if_neg hd]
        exact .cons_cons (by omega) h

theorem isOrdered_canonicalOrder (cs : List Char) : IsOrdered (canonicalOrder cs) := by
  induction cs with
  | nil => exact .nil
  | cons c cs ih => exact isOrdered_insertMark ih c

namespace IsOrdered

variable {xs ys : List Char} {c : Char}

theorem le_of_mem (h : IsOrdered (xs ++ c :: ys)) (hxs : ∀ x ∈ xs, 0 < combiningClass x)
    (hc : 0 < combiningClass c) : ∀ x ∈ xs, combiningClass x ≤ combiningClass c := by
  induction xs with
  | nil => exact fun x hx => absurd hx List.not_mem_nil
  | cons x xs ih =>
      obtain ⟨hlink, htail⟩ := List.isChain_cons.1 h
      obtain ⟨-, hxs⟩ := List.forall_mem_cons.1 hxs
      have hle := ih htail hxs
      refine List.forall_mem_cons.2 ⟨?_, hle⟩
      cases xs with
      | nil => exact (hlink c rfl).resolve_left hc.ne'
      | cons y xs =>
          have hy := (hlink y rfl).resolve_left (hxs y List.mem_cons_self).ne'
          exact hy.trans (hle y List.mem_cons_self)

theorem of_append_cons (h : IsOrdered (xs ++ c :: ys)) (hc : combiningClass c = 0 → xs = []) :
    IsOrdered (xs ++ ys) := by
  rw [IsOrdered, List.isChain_append] at h ⊢
  obtain ⟨hxs, hys, hlink⟩ := h
  rw [List.isChain_cons] at hys
  refine ⟨hxs, hys.2, fun x hx y hy => ?_⟩
  have hxc := hlink x hx c rfl
  have hcy := hys.1 y hy
  by_cases hzero : combiningClass c = 0
  · rw [hc hzero] at hx
    cases hx
  · omega

end IsOrdered

end ContentCode.Unicode
