import Mathlib.Data.List.Basic
import ContentCode.Unicode.Normalization

/-!
What putting marks in order and composing leave as it is. Neighbouring marks change places, and
characters that take no part in any composite stay where they are.
-/

namespace ContentCode.Unicode

/-- `ys` is `xs` after neighbouring marks have changed places. -/
inductive Reorders : List Char → List Char → Prop
  | refl (cs : List Char) : Reorders cs cs
  | swap {c d : Char} (cs : List Char) (hc : 0 < combiningClass c) (hd : 0 < combiningClass d) :
      Reorders (c :: d :: cs) (d :: c :: cs)
  | cons (c : Char) {xs ys : List Char} (h : Reorders xs ys) : Reorders (c :: xs) (c :: ys)
  | trans {xs ys zs : List Char} (h : Reorders xs ys) (h' : Reorders ys zs) : Reorders xs zs

namespace Reorders

variable {xs ys : List Char}

theorem append_right (h : Reorders xs ys) (zs : List Char) : Reorders (xs ++ zs) (ys ++ zs) := by
  induction h with
  | refl cs => exact refl _
  | swap cs hc hd => exact swap _ hc hd
  | cons c _ ih => exact cons c ih
  | trans _ _ ih ih' => exact ih.trans ih'

theorem append_left (h : Reorders xs ys) (zs : List Char) : Reorders (zs ++ xs) (zs ++ ys) := by
  induction zs with
  | nil => exact h
  | cons z zs ih => exact cons z ih

theorem filter_eq {p : Char → Bool} (h : Reorders xs ys)
    (hp : ∀ c, 0 < combiningClass c → p c = false) : xs.filter p = ys.filter p := by
  induction h with
  | refl cs => rfl
  | swap cs hc hd => simp [hp _ hc, hp _ hd]
  | cons c _ ih => rw [List.filter_cons, List.filter_cons, ih]
  | trans _ _ ih ih' => exact ih.trans ih'

end Reorders

theorem reorders_insertMark (c : Char) (cs : List Char) : Reorders (c :: cs) (insertMark c cs) := by
  induction cs with
  | nil => exact .refl _
  | cons d cs ih =>
      rw [insertMark]
      split
      next h => exact .trans (.swap cs (by omega) h.1) (.cons d ih)
      next => exact .refl _

theorem reorders_canonicalOrder (cs : List Char) : Reorders cs (canonicalOrder cs) := by
  induction cs with
  | nil => exact .refl _
  | cons c cs ih => exact .trans (.cons c ih) (reorders_insertMark c _)

theorem canonicalOrder_append_starter (xs : List Char) {c : Char} (hc : combiningClass c = 0)
    (ys : List Char) :
    canonicalOrder (xs ++ c :: ys) = canonicalOrder xs ++ c :: canonicalOrder ys := by
  have hinsert (d : Char) (cs zs : List Char) :
      insertMark d (cs ++ c :: zs) = insertMark d cs ++ c :: zs := by
    induction cs with
    | nil => simp [insertMark, hc]
    | cons e cs ih =>
        simp only [List.cons_append, insertMark, ih]
        split
        next => rfl
        next => rfl
  have hfirst (zs : List Char) : insertMark c zs = c :: zs := by
    cases zs with
    | nil => rfl
    | cons d zs => simp [insertMark, hc]
  induction xs with
  | nil => exact hfirst _
  | cons x xs ih =>
      change insertMark x (canonicalOrder (xs ++ c :: ys)) = insertMark x (canonicalOrder xs) ++ _
      rw [ih, hinsert]

def joined? (s : Char) (marks : List Char) (c : Char) : Option Char :=
  let between := (marks.head?.map combiningClass).getD 0
  if between = 0 ∨ between < combiningClass c then compose? s c else none

theorem composeFrom_cons (s : Char) (marks : List Char) (c : Char) (cs : List Char) :
    composeFrom s marks (c :: cs) = match joined? s marks c with
      | some q => composeFrom q marks cs
      | none =>
        if combiningClass c = 0 then s :: (marks.reverse ++ composeFrom c [] cs)
        else composeFrom s (c :: marks) cs := rfl

theorem compose?_of_joined? {s c q : Char} {marks : List Char} (h : joined? s marks c = some q) :
    compose? s c = some q := by
  rw [joined?] at h
  split at h
  next => exact h
  next => cases h

section map

variable {e : Char → Char} (hclass : ∀ c, combiningClass (e c) = combiningClass c)

include hclass

theorem map_insertMark (c : Char) (cs : List Char) :
    (insertMark c cs).map e = insertMark (e c) (cs.map e) := by
  induction cs with
  | nil => rfl
  | cons d cs ih =>
      rw [List.map_cons, insertMark, insertMark, hclass, hclass]
      split
      next => rw [List.map_cons, ih]
      next => rfl

theorem map_canonicalOrder (cs : List Char) :
    (canonicalOrder cs).map e = canonicalOrder (cs.map e) := by
  induction cs with
  | nil => rfl
  | cons c cs ih =>
      change (insertMark c (canonicalOrder cs)).map e = insertMark (e c) (canonicalOrder (cs.map e))
      rw [map_insertMark hclass, ih]

variable (hcompose : ∀ a b, compose? (e a) (e b) = (compose? a b).map e)

include hcompose

theorem map_joined? (s : Char) (marks : List Char) (c : Char) :
    (joined? s marks c).map e = joined? (e s) (marks.map e) (e c) := by
  have hbetween : ((marks.map e).head?.map combiningClass).getD 0 =
      (marks.head?.map combiningClass).getD 0 := by
    cases marks with
    | nil => rfl
    | cons m marks => exact hclass m
  rw [joined?, joined?, hbetween, hclass]
  split
  next => exact (hcompose s c).symm
  next => rfl

theorem map_composeFrom (s : Char) (marks cs : List Char) :
    (composeFrom s marks cs).map e = composeFrom (e s) (marks.map e) (cs.map e) := by
  induction cs generalizing s marks with
  | nil => simp [composeFrom]
  | cons c cs ih =>
      rw [List.map_cons, composeFrom_cons, composeFrom_cons, ← map_joined? hclass hcompose, hclass]
      cases joined? s marks c with
      | some q => exact ih q marks
      | none =>
          dsimp only [Option.map_none]
          split
          next => simp [ih]
          next => exact ih s (c :: marks)

theorem map_compose (cs : List Char) : (compose cs).map e = compose (cs.map e) := by
  induction cs with
  | nil => rfl
  | cons c cs ih =>
      rw [List.map_cons, compose, compose, hclass]
      split
      next => exact map_composeFrom hclass hcompose c [] cs
      next => rw [List.map_cons, ih]

end map

section filter

variable {p : Char → Bool}
  (hp : ∀ a b q, compose? a b = some q → p a = false ∧ p b = false ∧ p q = false)

include hp

theorem filter_composeFrom (s : Char) (marks cs : List Char) :
    (composeFrom s marks cs).filter p = (s :: (marks.reverse ++ cs)).filter p := by
  induction cs generalizing s marks with
  | nil => rw [composeFrom, List.append_nil]
  | cons c cs ih =>
      rw [composeFrom_cons]
      cases hj : joined? s marks c with
      | some q =>
          obtain ⟨hs, hc, hq⟩ := hp s c q (compose?_of_joined? hj)
          dsimp only
          rw [ih]
          simp [hs, hc, hq]
      | none =>
          dsimp only
          split
          next =>
            rw [← List.cons_append, List.filter_append, ih, ← List.filter_append]
            rfl
          next => rw [ih, List.reverse_cons, List.append_assoc, List.singleton_append]

/-- Characters that take no part in any composite come through a composition. -/
theorem filter_compose (cs : List Char) : (compose cs).filter p = cs.filter p := by
  induction cs with
  | nil => rfl
  | cons c cs ih =>
      rw [compose]
      split
      next => exact filter_composeFrom hp c [] cs
      next => rw [List.filter_cons, List.filter_cons, ih]

end filter

end ContentCode.Unicode
