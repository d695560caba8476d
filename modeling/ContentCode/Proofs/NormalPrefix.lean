import ContentCode.Proofs.NormalForm

/-!
The beginning of a text in normal form is in normal form. If the last character is a starter, what it
is decomposed into is composed to it again and nothing else; if it is a mark, the marks that its
decomposed text has behind it go past it to the starter, and do so without it.
-/

namespace ContentCode.Unicode

variable {c f s : Char} {marks cs xs ys : List Char}

theorem canonicalOrder_eq_self (h : IsOrdered cs) : canonicalOrder cs = cs := by
  induction cs with
  | nil => rfl
  | cons c cs ih =>
      change insertMark c (canonicalOrder cs) = c :: cs
      rw [ih h.tail]
      cases cs with
      | nil => rfl
      | cons d cs =>
          have hd := (List.isChain_cons.1 h).1 d rfl
          exact if_neg (by omega)

theorem exists_composeFrom_append (hs : combiningClass s = 0) (hmarks : ∀ m ∈ marks, 0 < combiningClass m)
    (xs : List Char) : ∃ out s' marks', (combiningClass s' = 0 ∧ ∀ m ∈ marks', 0 < combiningClass m) ∧
      (∀ ys, composeFrom s marks (xs ++ ys) = out ++ composeFrom s' marks' ys) ∧
      ∀ ys, IsOrdered (marks.reverse ++ (xs ++ ys)) → IsOrdered (marks'.reverse ++ ys) := by
  induction xs generalizing s marks with
  | nil => exact ⟨[], s, marks, ⟨hs, hmarks⟩, fun _ => rfl, fun _ => id⟩
  | cons x xs ih =>
      simp only [List.cons_append, composeFrom_cons]
      cases hj : joined? s marks x with
      | some q =>
          obtain ⟨out, s', marks', hmarks', hcompose, hordered⟩ :=
            ih (isComposite_of_compose? (compose?_of_joined? hj)).starter.2 hmarks
          refine ⟨out, s', marks', hmarks', hcompose, fun ys hys => hordered ys ?_⟩
          refine hys.of_append_cons fun hzero => ?_
          have hlt := lt_of_joined? hj hmarks hys
          rw [List.reverse_eq_nil_iff, List.eq_nil_iff_forall_not_mem]
          intro m hm
          exact absurd (hlt m hm) (by omega)
      | none =>
          by_cases hzero : combiningClass x = 0
          · obtain ⟨out, s', marks', hmarks', hcompose, hordered⟩ := ih hzero (List.forall_mem_nil _)
            refine ⟨s :: (marks.reverse ++ out), s', marks', hmarks', fun ys => ?_,
              fun ys hys => hordered ys ?_⟩
            · simp [hzero, hcompose]
            · exact (List.isChain_append.1 hys).2.1.tail
          · obtain ⟨out, s', marks', hmarks', hcompose, hordered⟩ := ih hs
              (List.forall_mem_cons.2 ⟨Nat.pos_of_ne_zero hzero, hmarks⟩)
            refine ⟨out, s', marks', hmarks', fun ys => ?_, fun ys hys => hordered ys (by simpa using hys)⟩
            simp [hzero, hcompose]

theorem exists_compose_append (xs : List Char) :
    ((∀ x ∈ xs, 0 < combiningClass x) ∧ ∀ ys, compose (xs ++ ys) = xs ++ compose ys) ∨
    ∃ out s marks, (combiningClass s = 0 ∧ ∀ m ∈ marks, 0 < combiningClass m) ∧
      (∀ ys, compose (xs ++ ys) = out ++ composeFrom s marks ys) ∧
      ∀ ys, IsOrdered (xs ++ ys) → IsOrdered (marks.reverse ++ ys) := by
  induction xs with
  | nil => exact .inl ⟨by simp, fun _ => rfl⟩
  | cons x xs ih =>
      by_cases hzero : combiningClass x = 0
      · obtain ⟨out, s, marks, hmarks, hcompose, hordered⟩ :=
          exists_composeFrom_append hzero (List.forall_mem_nil _) xs
        refine .inr ⟨out, s, marks, hmarks, fun ys => ?_, fun ys hys => hordered ys hys.tail⟩
        rw [List.cons_append, compose, if_pos hzero, hcompose]
      · rcases ih with ⟨hxs, hcompose⟩ | ⟨out, s, marks, hmarks, hcompose, hordered⟩
        · refine .inl ⟨List.forall_mem_cons.2 ⟨Nat.pos_of_ne_zero hzero, hxs⟩, fun ys => ?_⟩
          rw [List.cons_append, compose, if_neg hzero, hcompose, List.cons_append]
        · refine .inr ⟨x :: out, s, marks, hmarks, fun ys => ?_, fun ys hys => hordered ys hys.tail⟩
          rw [List.cons_append, compose, if_neg hzero, hcompose, List.cons_append]

theorem exists_composeFrom_marks (hs : combiningClass s = 0) (marks : List Char)
    (hcs : ∀ c ∈ cs, 0 < combiningClass c) : ∃ p rest, rest.Sublist cs ∧ combiningClass p = 0 ∧
      composeFrom s marks cs = p :: (marks.reverse ++ rest) := by
  induction cs generalizing s marks with
  | nil => exact ⟨s, [], .slnil, hs, by simp [composeFrom]⟩
  | cons c cs ih =>
      obtain ⟨hc, hcs⟩ := List.forall_mem_cons.1 hcs
      rw [composeFrom_cons]
      cases hj : joined? s marks c with
      | some q =>
          obtain ⟨p, rest, hrest, hp, hcompose⟩ :=
            ih (isComposite_of_compose? (compose?_of_joined? hj)).starter.2 marks hcs
          exact ⟨p, rest, hrest.cons c, hp, hcompose⟩
      | none =>
          obtain ⟨p, rest, hrest, hp, hcompose⟩ := ih hs (c :: marks) hcs
          refine ⟨p, c :: rest, hrest.cons_cons c, hp, ?_⟩
          simpa [hc.ne'] using hcompose

/-- Marks that are all joined past the mark `c` are joined without it, too. -/
theorem composeFrom_of_joined {p : Char} (hs : combiningClass s = 0)
    (hmarks : ∀ m ∈ marks, combiningClass m ≤ combiningClass c)
    (hcs : ∀ d ∈ cs, combiningClass c < combiningClass d)
    (h : composeFrom s (c :: marks) cs = p :: (c :: marks).reverse) :
    composeFrom s marks cs = p :: marks.reverse := by
  induction cs generalizing s with
  | nil =>
      obtain ⟨rfl, -⟩ := List.cons.inj h
      rfl
  | cons d cs ih =>
      obtain ⟨hd, hcs⟩ := List.forall_mem_cons.1 hcs
      have hpos : combiningClass d ≠ 0 := by omega
      rw [composeFrom_cons] at h ⊢
      cases hj : joined? s (c :: marks) d with
      | some q =>
          have hq := compose?_of_joined? hj
          have hjoined : joined? s marks d = some q := by
            rw [joined?]
            refine (if_pos ?_).trans hq
            cases marks with
            | nil => exact .inl rfl
            | cons m marks => exact .inr ((hmarks m List.mem_cons_self).trans_lt hd)
          rw [hj] at h
          rw [hjoined]
          exact ih (isComposite_of_compose? hq).starter.2 hcs h
      | none =>
          -- a mark that is left stands behind `c`
          have hcs' : ∀ e ∈ cs, 0 < combiningClass e := fun e he => (Nat.zero_le _).trans_lt (hcs e he)
          obtain ⟨p', rest, -, -, hcompose⟩ := exists_composeFrom_marks hs (d :: c :: marks) hcs'
          rw [hj] at h
          dsimp only at h
          rw [if_neg hpos, hcompose] at h
          have hlength := congrArg List.length h
          simp only [List.length_cons, List.length_append, List.length_reverse] at hlength
          omega

theorem exists_canonicalOrder_concat (hcs : IsOrdered cs) (c : Char) : ∃ xs ys, cs = xs ++ ys ∧
    (∀ y ∈ ys, combiningClass c < combiningClass y) ∧ IsOrdered (xs ++ c :: ys) := by
  induction cs using List.reverseRecOn with
  | nil => exact ⟨[], [], rfl, by simp, .singleton c⟩
  | append_singleton cs e ih =>
      obtain ⟨hfront, -, hlink⟩ := List.isChain_append.1 hcs
      by_cases he : combiningClass c < combiningClass e
      · obtain ⟨xs, ys, rfl, hys, hordered⟩ := ih hfront
        refine ⟨xs, ys ++ [e], by simp, ?_, ?_⟩
        · intro y hy
          rcases List.mem_append.1 hy with hy | hy
          · exact hys y hy
          · rwa [List.mem_singleton.1 hy]
        · rw [← List.cons_append, ← List.append_assoc]
          refine List.isChain_append.2 ⟨hordered, .singleton e, fun x hx y hy => ?_⟩
          obtain rfl := Option.some.inj hy
          rcases List.eq_nil_or_concat ys with rfl | ⟨ys, y, rfl⟩
          · obtain rfl : c = x := by simpa using hx
            exact .inr he.le
          · rw [List.concat_eq_append, ← List.cons_append, ← List.append_assoc, List.getLast?_concat] at hx
            refine hlink x ?_ e rfl
            rwa [List.concat_eq_append, ← List.append_assoc, List.getLast?_concat]
      · refine ⟨cs ++ [e], [], by simp, by simp, ?_⟩
        refine List.isChain_append.2 ⟨hcs, .singleton c, fun x hx y hy => ?_⟩
        obtain rfl : e = x := by simpa using hx
        obtain rfl := Option.some.inj hy
        exact .inr (not_lt.1 he)

theorem compose_marks (h : ∀ c ∈ cs, 0 < combiningClass c) : compose cs = cs := by
  induction cs with
  | nil => rfl
  | cons c cs ih =>
      obtain ⟨hc, hcs⟩ := List.forall_mem_cons.1 h
      rw [compose, if_neg hc.ne', ih hcs]

theorem nfkd_concat_mark (hc : IsDecomposed c) (hpos : 0 < combiningClass c) (xs : List Char) : ∃ front back,
    nfkd xs = front ++ back ∧ nfkd (xs ++ [c]) = front ++ c :: back ∧
      (∀ d ∈ back, combiningClass c < combiningClass d) ∧ IsOrdered (front ++ c :: back) := by
  obtain ⟨front, back, hxs, hback, hordered⟩ :=
    exists_canonicalOrder_concat (isOrdered_canonicalOrder (xs.flatMap compatibilityDecomposition)) c
  refine ⟨front, back, hxs, ?_, hback, hordered⟩
  have hcommutes : Commutes (xs.flatMap compatibilityDecomposition ++ [c]) (front ++ c :: back) := by
    refine ((commutes_canonicalOrder _).append_right [c]).trans ?_
    rw [hxs, List.append_assoc]
    exact (Commutes.move_behind hpos hback).symm.append_left front
  rw [nfkd, List.flatMap_append, List.flatMap_singleton, hc.compatibilityDecomposition_eq,
    hcommutes.canonicalOrder_eq, canonicalOrder_eq_self hordered]

theorem exists_of_concat {out : List Char} (h : out ++ ys = xs ++ [c]) (hys : ys ≠ []) :
    ∃ zs, ys = zs ++ [c] ∧ out ++ zs = xs := by
  rcases List.eq_nil_or_concat ys with rfl | ⟨zs, y, rfl⟩
  · exact absurd rfl hys
  · rw [List.concat_eq_append, ← List.append_assoc] at h
    obtain ⟨hzs, hy⟩ := List.append_inj' h rfl
    exact ⟨zs, by rw [List.concat_eq_append, hy], hzs⟩

theorem mem_of_concat {out : List Char} (h : out ++ ys = xs ++ [c]) (hys : ys ≠ []) : c ∈ ys := by
  obtain ⟨zs, rfl, -⟩ := exists_of_concat h hys
  exact List.mem_append_right zs List.mem_cons_self

theorem IsNormal.of_concat_mark (h : IsNormal (xs ++ [c])) (hc : 0 < combiningClass c) : IsNormal xs := by
  have hdecomposed := (h.isSettled (List.mem_append_right xs List.mem_cons_self)).mark hc
  obtain ⟨front, back, hxs, hconcat, hback, hordered⟩ := nfkd_concat_mark hdecomposed hc xs
  have hpos : ∀ d ∈ back, 0 < combiningClass d := fun d hd => (Nat.zero_le _).trans_lt (hback d hd)
  -- no mark that goes past `c` is left behind it
  have hnil {out rest : List Char} (hlast : out ++ rest = xs ++ [c]) (hrest : rest.Sublist back) :
      rest = [] := by
    by_contra hne
    exact Nat.lt_irrefl _ (hback c (hrest.subset (mem_of_concat hlast hne)))
  rw [IsNormal, nfkc, hconcat] at h
  rw [IsNormal, nfkc, hxs]
  rcases exists_compose_append front with ⟨-, hcompose⟩ | ⟨out, s, marks, ⟨hs, hmarks⟩, hcompose, hstate⟩
  · rw [hcompose, compose, if_neg hc.ne', compose_marks hpos, List.append_cons] at h
    have hback := hnil h (.refl back)
    rw [hback, List.append_nil] at h
    rw [hback, hcompose, ← List.append_cancel_right h]
    exact List.append_nil front
  · rw [hcompose, composeFrom_cons] at h
    rw [hcompose]
    cases hj : joined? s marks c with
    | some q =>
        have hq := isComposite_of_compose? (compose?_of_joined? hj)
        have hlt := lt_of_joined? hj hmarks (hstate _ hordered)
        obtain ⟨p, rest, hrest, hp, hleft⟩ := exists_composeFrom_marks hq.starter.2 marks hpos
        rw [hj] at h
        dsimp only at h
        rw [hleft, ← List.cons_append, ← List.append_assoc] at h
        rw [hnil h hrest, List.append_nil] at h
        rcases List.mem_cons.1 (mem_of_concat h (List.cons_ne_nil _ _)) with rfl | hmem
        · exact absurd hp hc.ne'
        · exact absurd (hlt c (List.mem_reverse.1 hmem)) (Nat.lt_irrefl _)
    | none =>
        obtain ⟨p, rest, hrest, -, hleft⟩ := exists_composeFrom_marks hs (c :: marks) hpos
        rw [hj] at h
        dsimp only at h
        rw [if_neg hc.ne', hleft, ← List.cons_append, ← List.append_assoc] at h
        obtain rfl := hnil h hrest
        rw [List.append_nil] at h hleft
        have hmarks' : ∀ m ∈ marks, combiningClass m ≤ combiningClass c := by
          intro m hm
          apply (hstate _ hordered).le_of_mem (fun m hm => hmarks m (List.mem_reverse.1 hm)) hc
          exact List.mem_reverse.2 hm
        rw [composeFrom_of_joined hs hmarks' hback hleft]
        rw [List.reverse_cons, ← List.cons_append, ← List.append_assoc] at h
        exact List.append_cancel_right h

theorem exists_composeFrom_eq_cons (s : Char) (marks cs : List Char) : ∃ p rest,
    composeFrom s marks cs = p :: rest ∧
      (canonicalDecomposition s).length ≤ (canonicalDecomposition p).length := by
  induction cs generalizing s marks with
  | nil => exact ⟨s, marks.reverse, by simp [composeFrom], le_rfl⟩
  | cons c cs ih =>
      rw [composeFrom_cons]
      cases hj : joined? s marks c with
      | some q =>
          obtain ⟨p, rest, hcompose, hle⟩ := ih q marks
          have hq := (isComposite_of_compose? (compose?_of_joined? hj)).decomposition
          refine ⟨p, rest, hcompose, le_trans ?_ hle⟩
          rw [hq, List.length_append]
          exact Nat.le_add_right _ _
      | none =>
          by_cases hzero : combiningClass c = 0
          · exact ⟨s, _, if_pos hzero, le_rfl⟩
          · obtain ⟨p, rest, hcompose, hle⟩ := ih s (c :: marks)
            exact ⟨p, rest, (if_neg hzero).trans hcompose, hle⟩

theorem IsSettled.length_pos (h : IsSettled c) : 0 < (compatibilityDecomposition c).length := by
  rw [h.plain.decomposition]
  rcases Nat.eq_zero_or_pos (combiningClass c) with hc | hc
  · obtain ⟨f, rest, hdecomposition, -⟩ := h.starter hc
    simp [hdecomposition]
  · simp [(h.mark hc).canonicalDecomposition_eq]

section Last

/- The last character of a text is a starter that is decomposed into `f`, a starter too, and what `cs` is
put in order from. Composition comes to `f` with `out` behind it, and perhaps a starter that `f` is
joined to. -/

variable {out : List Char} {q : Char}
variable (hxs : ∀ d ∈ xs, IsSettled d) (hcs : ∀ d ∈ cs, IsDecomposed d) (hordered : IsOrdered cs)
variable (hc : (compatibilityDecomposition c).length = cs.length + 1)

include hcs hordered hc

/-- The last character is decomposed into all that is composed with `s` but one character. -/
theorem exists_of_composeFrom_eq_concat (hs : IsPlain s) (h : out ++ composeFrom s [] cs = xs ++ [c]) :
    ∃ zs, composeFrom s [] cs = zs ++ [c] ∧ out ++ zs = xs ∧
      (zs.flatMap compatibilityDecomposition).length + 1 = (canonicalDecomposition s).length := by
  have hne : composeFrom s [] cs ≠ [] := by
    obtain ⟨p, rest, hcompose, -⟩ := exists_composeFrom_eq_cons s [] cs
    rw [hcompose]
    exact List.cons_ne_nil p rest
  obtain ⟨zs, hzs, hout⟩ := exists_of_concat h hne
  refine ⟨zs, hzs, hout, ?_⟩
  have hlength := (commutes_composeFrom hs (List.forall_mem_nil _) hcs hordered).perm.length_eq
  rw [hzs, List.flatMap_append, List.flatMap_singleton, List.length_append, hc, List.length_append,
    List.reverse_nil, List.nil_append] at hlength
  omega

include hxs

theorem eq_of_composeFrom_eq_concat (hf : IsDecomposed f) (h : out ++ composeFrom f [] cs = xs ++ [c]) :
    out = xs := by
  obtain ⟨zs, -, hout, hsum⟩ := exists_of_composeFrom_eq_concat hcs hordered hc hf.plain h
  rw [hf.canonicalDecomposition_eq, List.length_singleton] at hsum
  cases zs with
  | nil => rw [← hout, List.append_nil]
  | cons z zs =>
      have hz := (hxs z (by simp [← hout])).length_pos
      rw [List.flatMap_cons, List.length_append] at hsum
      omega

theorem composeFrom_ne_concat_of_joined (hs : IsSettled s) (hq : IsComposite s f q) :
    out ++ composeFrom q [] cs ≠ xs ++ [c] := by
  intro h
  obtain ⟨zs, hzs, hout, hsum⟩ := exists_of_composeFrom_eq_concat hcs hordered hc (hq.plain hs.plain) h
  obtain ⟨p, rest, hcons, hle⟩ := exists_composeFrom_eq_cons q [] cs
  have hpos := hs.length_pos
  rw [hs.plain.decomposition] at hpos
  rw [hzs] at hcons
  cases zs with
  | nil =>
      rw [hq.decomposition, List.length_append, List.flatMap_nil, List.length_nil,
        List.length_singleton] at hsum
      omega
  | cons z zs =>
      obtain ⟨rfl, -⟩ := List.cons.inj hcons
      have hz := (hxs z (by simp [← hout])).plain.decomposition
      rw [List.flatMap_cons, List.length_append, hz] at hsum
      omega

end Last

theorem IsNormal.of_concat_starter (h : IsNormal (xs ++ [c])) (hc : combiningClass c = 0) : IsNormal xs := by
  have hsettled := h.isSettled (List.mem_append_right xs List.mem_cons_self)
  have hxs : ∀ d ∈ xs, IsSettled d := fun d hd => h.isSettled (List.mem_append_left [c] hd)
  obtain ⟨f, rest, hdecomposition, hf⟩ := hsettled.starter hc
  have hnfkd : nfkd (xs ++ [c]) = nfkd xs ++ f :: canonicalOrder rest := by
    rw [nfkd, List.flatMap_append, List.flatMap_singleton, hsettled.plain.decomposition, hdecomposition,
      canonicalOrder_append_starter _ hf]
    rfl
  have hparts : ∀ d ∈ f :: rest, IsDecomposed d := by
    intro d hd
    rw [← hdecomposition] at hd
    exact (of_mem_canonicalDecomposition hsettled.plain hd).1
  obtain ⟨hfparts, hrest⟩ := List.forall_mem_cons.1 hparts
  have hperm := (commutes_canonicalOrder rest).perm
  have hback : ∀ d ∈ canonicalOrder rest, IsDecomposed d := fun d hd => hrest d (hperm.mem_iff.2 hd)
  have hordered := isOrdered_canonicalOrder rest
  have hlength : (compatibilityDecomposition c).length = (canonicalOrder rest).length + 1 := by
    rw [hsettled.plain.decomposition, hdecomposition, List.length_cons, hperm.length_eq]
  rw [IsNormal, nfkc, hnfkd] at h
  rcases exists_compose_append (nfkd xs) with ⟨-, hcompose⟩ | ⟨out, s, marks, ⟨hs, hmarks⟩, hcompose, hstate⟩
  · rw [hcompose, compose, if_pos hf] at h
    have hxs' := hcompose []
    rw [List.append_nil] at hxs'
    rw [IsNormal, nfkc, hxs', compose, List.append_nil]
    exact eq_of_composeFrom_eq_concat hxs hback hordered hlength hfparts h
  · rw [hcompose, composeFrom_cons] at h
    have hxs' : nfkc xs = out ++ s :: marks.reverse := by
      have hxs' := hcompose []
      rwa [List.append_nil] at hxs'
    cases hj : joined? s marks f with
    | some q =>
        have hlt := lt_of_joined? hj hmarks (hstate _ (by rw [← hnfkd]; exact isOrdered_canonicalOrder _))
        obtain rfl : marks = [] :=
          List.eq_nil_iff_forall_not_mem.2 fun m hm => absurd (hlt m hm) (by omega)
        have hmem : s ∈ nfkc xs := by simp [hxs']
        have hq := isComposite_of_compose? (compose?_of_joined? hj)
        rw [hj] at h
        exact absurd h (composeFrom_ne_concat_of_joined hxs hback hordered hlength
          (isSettled_of_mem_nfkc hmem) hq)
    | none =>
        rw [hj] at h
        dsimp only at h
        rw [if_pos hf, ← List.cons_append, ← List.append_assoc] at h
        exact hxs'.trans (eq_of_composeFrom_eq_concat hxs hback hordered hlength hfparts h)

/-- The beginning of a text in normal form is in normal form. -/
theorem IsNormal.of_append (h : IsNormal (xs ++ ys)) : IsNormal xs := by
  induction ys using List.reverseRecOn with
  | nil => rwa [List.append_nil] at h
  | append_singleton ys c ih =>
      rw [← List.append_assoc] at h
      apply ih
      rcases Nat.eq_zero_or_pos (combiningClass c) with hc | hc
      · exact h.of_concat_starter hc
      · exact h.of_concat_mark hc

end ContentCode.Unicode
