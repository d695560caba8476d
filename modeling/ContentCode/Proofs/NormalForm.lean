import ContentCode.Proofs.CompositeTables
import ContentCode.Proofs.MarkOrder

/-!
The normal form of a text. Composing a text undoes its decomposition up to the order of marks, so
that a text in normal form is its own. White space divides a text into parts with normal forms of
their own.
-/

namespace ContentCode.Unicode

variable {a b c q s : Char} {marks cs xs ys : List Char}

def IsNormal (cs : List Char) : Prop := nfkc cs = cs

instance : Decidable (IsNormal cs) := inferInstanceAs (Decidable (nfkc cs = cs))

theorem Commutes.perm (h : Commutes xs ys) : xs.Perm ys := by
  induction h with
  | refl cs => exact .refl cs
  | swap cs _ _ => exact .swap _ _ cs
  | symm _ ih => exact ih.symm
  | cons c _ ih => exact ih.cons c
  | trans _ _ ih ih' => exact ih.trans ih'

theorem mem_nfkd {cs : List Char} : c ∈ nfkd cs ↔ ∃ d ∈ cs, c ∈ compatibilityDecomposition d := by
  rw [nfkd, ← (commutes_canonicalOrder _).perm.mem_iff, List.mem_flatMap]

theorem isDecomposed_of_mem_nfkd (h : c ∈ nfkd cs) : IsDecomposed c := by
  obtain ⟨d, -, hc⟩ := mem_nfkd.1 h
  exact isDecomposed_of_mem hc

theorem forall_mem_compose {P : Char → Prop} (hP : ∀ a b q, compose? a b = some q → P a → P b → P q)
    (h : ∀ c ∈ cs, P c) : ∀ c ∈ compose cs, P c := by
  have hfrom (cs : List Char) : ∀ s marks, P s → (∀ m ∈ marks, P m) → (∀ c ∈ cs, P c) →
      ∀ c ∈ composeFrom s marks cs, P c := by
    induction cs with
    | nil =>
        intro s marks hs hmarks _
        simpa [composeFrom, hs] using hmarks
    | cons c cs ih =>
        intro s marks hs hmarks hcs
        rw [List.forall_mem_cons] at hcs
        rw [composeFrom_cons]
        cases hj : joined? s marks c with
        | some q => exact ih q marks (hP s c q (compose?_of_joined? hj) hs hcs.1) hmarks hcs.2
        | none =>
            dsimp only
            by_cases hc : combiningClass c = 0
            · rw [if_pos hc]
              have hrest := ih c [] hcs.1 (by simp) hcs.2
              simpa [hs, or_imp, forall_and] using ⟨hmarks, hrest⟩
            · rw [if_neg hc]
              exact ih s (c :: marks) hs (List.forall_mem_cons.2 ⟨hcs.1, hmarks⟩) hcs.2
  induction cs with
  | nil => exact h
  | cons c cs ih =>
      rw [List.forall_mem_cons] at h
      rw [compose]
      by_cases hc : combiningClass c = 0
      · rw [if_pos hc]
        exact hfrom cs c [] h.1 (by simp) h.2
      · rw [if_neg hc]
        exact List.forall_mem_cons.2 ⟨h.1, ih h.2⟩

/-- A character that a composed text can hold. -/
structure IsSettled (c : Char) : Prop where
  plain : IsPlain c
  mark : 0 < combiningClass c → IsDecomposed c
  starter : combiningClass c = 0 → ∃ f rest, canonicalDecomposition c = f :: rest ∧ combiningClass f = 0

theorem IsDecomposed.isSettled (h : IsDecomposed c) : IsSettled c :=
  ⟨h.plain, fun _ => h, fun hc => ⟨c, [], h.canonicalDecomposition_eq, hc⟩⟩

theorem IsComposite.isSettled (h : IsComposite a b q) (ha : IsSettled a) : IsSettled q := by
  obtain ⟨f, rest, hdecomposition, hf⟩ := ha.starter h.starter.1
  refine ⟨h.plain ha.plain, fun hq => absurd h.starter.2 hq.ne', fun _ => ⟨f, rest ++ [b], ?_, hf⟩⟩
  rw [h.decomposition, hdecomposition, List.cons_append]

theorem isSettled_of_mem_nfkc (h : c ∈ nfkc cs) : IsSettled c := by
  refine forall_mem_compose (fun a b q hq ha _ => ?_) (fun d hd => ?_) c h
  · exact (isComposite_of_compose? hq).isSettled ha
  · exact (isDecomposed_of_mem_nfkd hd).isSettled

theorem IsNormal.isSettled (h : IsNormal cs) (hc : c ∈ cs) : IsSettled c := by
  rw [← h] at hc
  exact isSettled_of_mem_nfkc hc

theorem lt_of_joined? (h : joined? s marks c = some q) (hmarks : ∀ m ∈ marks, 0 < combiningClass m)
    (hordered : IsOrdered (marks.reverse ++ c :: cs)) : ∀ m ∈ marks, combiningClass m < combiningClass c := by
  cases marks with
  | nil => exact fun m hm => absurd hm List.not_mem_nil
  | cons m marks =>
      obtain ⟨hm, hmarks⟩ := List.forall_mem_cons.1 hmarks
      have hlt : combiningClass m < combiningClass c := by
        rw [joined?] at h
        by_contra hle
        simp [hm.ne', hle] at h
      rw [List.reverse_cons, List.append_assoc] at hordered
      have hle := hordered.le_of_mem (fun x hx => hmarks x (List.mem_reverse.1 hx)) hm
      refine List.forall_mem_cons.2 ⟨hlt, fun x hx => ?_⟩
      exact (hle x (List.mem_reverse.2 hx)).trans_lt hlt

theorem flatMap_decomposition (h : ∀ c ∈ cs, IsDecomposed c) :
    cs.flatMap compatibilityDecomposition = cs := by
  induction cs with
  | nil => rfl
  | cons c cs ih =>
      rw [List.forall_mem_cons] at h
      rw [List.flatMap_cons, h.1.compatibilityDecomposition_eq, ih h.2, List.singleton_append]

theorem commutes_composeFrom (hs : IsPlain s) (hmarks : ∀ m ∈ marks, 0 < combiningClass m ∧ IsDecomposed m)
    (hcs : ∀ c ∈ cs, IsDecomposed c) (hordered : IsOrdered (marks.reverse ++ cs)) :
    Commutes ((composeFrom s marks cs).flatMap compatibilityDecomposition)
      (canonicalDecomposition s ++ (marks.reverse ++ cs)) := by
  have hleft {marks : List Char} (hmarks : ∀ m ∈ marks, 0 < combiningClass m ∧ IsDecomposed m) :
      marks.reverse.flatMap compatibilityDecomposition = marks.reverse :=
    flatMap_decomposition fun m hm => (hmarks m (List.mem_reverse.1 hm)).2
  induction cs generalizing s marks with
  | nil =>
      rw [composeFrom, List.flatMap_cons, hs.decomposition, hleft hmarks, List.append_nil]
      exact .refl _
  | cons c cs ih =>
      obtain ⟨hc, hcs⟩ := List.forall_mem_cons.1 hcs
      rw [composeFrom_cons]
      cases hj : joined? s marks c with
      | some q =>
          have hlt := lt_of_joined? hj (fun m hm => (hmarks m hm).1) hordered
          have hq := isComposite_of_compose? (compose?_of_joined? hj)
          have hrest : IsOrdered (marks.reverse ++ cs) := by
            refine hordered.of_append_cons fun hzero => ?_
            rw [List.reverse_eq_nil_iff, List.eq_nil_iff_forall_not_mem]
            intro m hm
            exact absurd (hlt m hm) (by omega)
          have hmove : Commutes (c :: (marks.reverse ++ cs)) (marks.reverse ++ c :: cs) := by
            refine (Commutes.move (fun m hm => ?_) cs).symm
            rw [List.mem_reverse] at hm
            exact ⟨(hmarks m hm).1, hlt m hm⟩
          refine (ih (hq.plain hs) hmarks hcs hrest).trans ?_
          rw [hq.decomposition, List.append_assoc]
          exact hmove.append_left _
      | none =>
          dsimp only
          by_cases hzero : combiningClass c = 0
          · have hrest : IsOrdered cs := (List.isChain_append.1 hordered).2.1.tail
            have hcompose := ih hc.plain (List.forall_mem_nil _) hcs hrest
            rw [hc.canonicalDecomposition_eq] at hcompose
            rw [if_pos hzero, List.flatMap_cons, List.flatMap_append, hs.decomposition, hleft hmarks]
            exact (hcompose.append_left _).append_left _
          · rw [if_neg hzero]
            have hmarks' := List.forall_mem_cons.2 ⟨⟨Nat.pos_of_ne_zero hzero, hc⟩, hmarks⟩
            have hcompose := ih hs hmarks' hcs (by simpa using hordered)
            simpa using hcompose

theorem commutes_compose (hcs : ∀ c ∈ cs, IsDecomposed c) (hordered : IsOrdered cs) :
    Commutes ((compose cs).flatMap compatibilityDecomposition) cs := by
  induction cs with
  | nil => exact .refl _
  | cons c cs ih =>
      obtain ⟨hc, hcs⟩ := List.forall_mem_cons.1 hcs
      rw [compose]
      by_cases hzero : combiningClass c = 0
      · rw [if_pos hzero]
        have hcompose := commutes_composeFrom hc.plain (List.forall_mem_nil _) hcs hordered.tail
        rwa [hc.canonicalDecomposition_eq] at hcompose
      · rw [if_neg hzero, List.flatMap_cons, hc.compatibilityDecomposition_eq]
        exact .cons c (ih hcs hordered.tail)

/-- Composing adds nothing that another decomposition would not take away. -/
theorem nfkd_nfkc (cs : List Char) : nfkd (nfkc cs) = nfkd cs := by
  have hcompose : Commutes ((compose (nfkd cs)).flatMap compatibilityDecomposition) (nfkd cs) :=
    commutes_compose (fun c => isDecomposed_of_mem_nfkd) (isOrdered_canonicalOrder _)
  rw [nfkc, nfkd, hcompose.canonicalOrder_eq]
  exact canonicalOrder_canonicalOrder _

theorem isNormal_nfkc (cs : List Char) : IsNormal (nfkc cs) := by
  rw [IsNormal, nfkc, nfkd_nfkc]
  rfl

/-- White space, or another character that takes no part in composites. -/
structure IsWall (w : Char) : Prop where
  decomposed : IsDecomposed w
  starter : combiningClass w = 0
  first (c : Char) : compose? w c = none
  second (c : Char) : compose? c w = none

theorem joined?_eq_none_of_first {w : Char} (hw : IsWall w) (marks : List Char) (c : Char) :
    joined? w marks c = none := by
  rw [joined?]
  split
  next => exact hw.first c
  next => rfl

theorem composeFrom_wall {w : Char} (hw : IsWall w) (marks cs : List Char) :
    composeFrom w marks cs = w :: (marks.reverse ++ compose cs) := by
  induction cs generalizing marks with
  | nil => rw [composeFrom, compose, List.append_nil]
  | cons c cs ih =>
      rw [composeFrom_cons, joined?_eq_none_of_first hw, compose]
      by_cases hzero : combiningClass c = 0
      · simp [hzero]
      · simp [hzero, ih]

theorem composeFrom_append_wall {w : Char} (hw : IsWall w) (s : Char) (marks xs ys : List Char) :
    composeFrom s marks (xs ++ w :: ys) = composeFrom s marks xs ++ w :: compose ys := by
  have hjoined (s : Char) (marks : List Char) : joined? s marks w = none := by
    rw [joined?]
    split
    next => exact hw.second s
    next => rfl
  induction xs generalizing s marks with
  | nil =>
      rw [List.nil_append, composeFrom_cons, hjoined, composeFrom]
      simp [hw.starter, composeFrom_wall hw]
  | cons x xs ih =>
      rw [List.cons_append, composeFrom_cons, composeFrom_cons]
      cases joined? s marks x with
      | some q => exact ih q marks
      | none =>
          dsimp only
          by_cases hzero : combiningClass x = 0
          · simp [hzero, ih]
          · simp [hzero, ih]

theorem compose_append_wall {w : Char} (hw : IsWall w) (xs ys : List Char) :
    compose (xs ++ w :: ys) = compose xs ++ w :: compose ys := by
  induction xs with
  | nil =>
      change (if combiningClass w = 0 then composeFrom w [] ys else w :: compose ys) = w :: compose ys
      rw [if_pos hw.starter, composeFrom_wall hw]
      rfl
  | cons x xs ih =>
      rw [List.cons_append, compose, compose]
      by_cases hzero : combiningClass x = 0
      · rw [if_pos hzero, if_pos hzero, composeFrom_append_wall hw]
      · rw [if_neg hzero, if_neg hzero, ih, List.cons_append]

/-- A wall divides a text into parts that are normalized each for itself. -/
theorem nfkc_append_wall {w : Char} (hw : IsWall w) (xs ys : List Char) :
    nfkc (xs ++ w :: ys) = nfkc xs ++ w :: nfkc ys := by
  rw [nfkc, nfkd, List.flatMap_append, List.flatMap_cons, hw.decomposed.compatibilityDecomposition_eq,
    List.singleton_append, canonicalOrder_append_starter _ hw.starter, compose_append_wall hw]
  rfl

theorem isWall_of_isWhiteSpace {w : Char} (hw : isWhiteSpace w = true) (hplain : IsPlain w) : IsWall w := by
  have hnone {a b : Char} (h : isWhiteSpace a = true ∨ isWhiteSpace b = true) : compose? a b = none := by
    cases hq : compose? a b with
    | none => rfl
    | some q =>
        obtain ⟨ha, hb, -⟩ := (isComposite_of_compose? hq).not_white
        simp [ha, hb] at h
  have hdecomposed := canonical_of_isWhiteSpace hplain hw
  obtain ⟨c, hc, hseparator⟩ := Text.exists_separator hw
  rw [hdecomposed.canonicalDecomposition_eq, List.singleton_inj] at hc
  subst hc
  exact ⟨hdecomposed, hseparator.starter, fun c => hnone (.inl hw), fun c => hnone (.inr hw)⟩

end ContentCode.Unicode
