import ContentCode.Proofs.NormalPrefix

/-!
White space in normal forms. It stays where it is in a text of settled characters, and the parts
between are normalized each for itself; a text is in normal form if and only if they are.
-/

namespace ContentCode.Unicode

variable {c w : Char} {cs xs ys : List Char}

theorem isNormal_append_wall (hw : IsWall w) : IsNormal (xs ++ w :: ys) ↔ IsNormal xs ∧ IsNormal ys := by
  constructor
  · intro h
    have hxs := h.of_append
    rw [IsNormal, nfkc_append_wall hw, hxs, List.append_cancel_left_eq, List.cons.injEq] at h
    exact ⟨hxs, h.2⟩
  · rintro ⟨hxs, hys⟩
    rw [IsNormal, nfkc_append_wall hw, hxs, hys]

theorem isNormal_nil : IsNormal [] := rfl

theorem isNormal_cons_wall (hw : IsWall w) : IsNormal (w :: ys) ↔ IsNormal ys := by
  rw [← List.nil_append (w :: ys), isNormal_append_wall hw, and_iff_right isNormal_nil]

def AllSettled (cs : List Char) : Prop := ∀ c ∈ cs, IsSettled c

theorem allSettled_nfkc (cs : List Char) : AllSettled (nfkc cs) := fun _ => isSettled_of_mem_nfkc

theorem IsSettled.isWall (h : IsSettled w) (hw : isWhiteSpace w = true) : IsWall w :=
  isWall_of_isWhiteSpace hw h.plain

theorem mem_nfkd_of_allSettled (h : AllSettled cs) : c ∈ nfkd cs ↔ ∃ d ∈ cs, c ∈ canonicalDecomposition d := by
  rw [mem_nfkd]
  constructor
  · rintro ⟨d, hd, hc⟩
    exact ⟨d, hd, by rwa [← (h d hd).plain.decomposition]⟩
  · rintro ⟨d, hd, hc⟩
    exact ⟨d, hd, by rwa [(h d hd).plain.decomposition]⟩

theorem nfd_eq_nfkd (h : AllSettled cs) : nfd cs = nfkd cs := by
  have hflat : cs.flatMap canonicalDecomposition = cs.flatMap compatibilityDecomposition := by
    induction cs with
    | nil => rfl
    | cons c cs ih =>
        obtain ⟨hc, hcs⟩ := List.forall_mem_cons.1 h
        rw [List.flatMap_cons, List.flatMap_cons, hc.plain.decomposition, ih hcs]
  rw [nfd, nfkd, hflat]

/-- Composing a text of settled characters changes nothing about its canonical decomposition. -/
theorem nfd_nfkc (h : AllSettled cs) : nfd (nfkc cs) = nfd cs := by
  rw [nfd_eq_nfkd (allSettled_nfkc cs), nfkd_nfkc, nfd_eq_nfkd h]

theorem forall_nfkd_iff (h : AllSettled cs) (b : Bool) :
    (∀ c ∈ nfkd cs, isWhiteSpace c = b) ↔ ∀ c ∈ cs, isWhiteSpace c = b := by
  simp only [mem_nfkd_of_allSettled h]
  constructor
  · intro hall d hd
    obtain ⟨c, hc⟩ := List.exists_mem_of_length_pos (h d hd).length_pos
    rw [(h d hd).plain.decomposition] at hc
    rw [← (of_mem_canonicalDecomposition (h d hd).plain hc).2.1]
    exact hall c ⟨d, hd, hc⟩
  · rintro hall c ⟨d, hd, hc⟩
    rw [(of_mem_canonicalDecomposition (h d hd).plain hc).2.1]
    exact hall d hd

theorem forall_nfkc_iff (h : AllSettled cs) (b : Bool) :
    (∀ c ∈ nfkc cs, isWhiteSpace c = b) ↔ ∀ c ∈ cs, isWhiteSpace c = b := by
  rw [← forall_nfkd_iff (allSettled_nfkc cs), nfkd_nfkc, forall_nfkd_iff h]

theorem nfkc_eq_nil_iff (h : AllSettled cs) : nfkc cs = [] ↔ cs = [] := by
  constructor
  · intro hnil
    have hall (b : Bool) := (forall_nfkc_iff h b).1 (by simp [hnil])
    refine List.eq_nil_iff_forall_not_mem.2 fun c hc => ?_
    exact Bool.false_ne_true ((hall false c hc).symm.trans (hall true c hc))
  · rintro rfl
    rfl

end ContentCode.Unicode
