import ContentCode.Proofs.NormalDisplay

/-!
Cleaning a text in normal form leaves it in normal form, if no characters but line breaks are dropped
from it: what is joined anew after that are whole lines and words.
-/

namespace ContentCode.Text

open Unicode

variable {c w : Char} {cs line word : List Char} {ls : List (List Char)}

theorem isNormal_join (hw : IsWall w) : IsNormal (join w ls) ↔ ∀ line ∈ ls, IsNormal line := by
  induction ls with
  | nil => exact iff_of_true isNormal_nil (by simp)
  | cons line ls ih =>
      rw [List.forall_mem_cons]
      by_cases hnil : ls = []
      · subst hnil
        simp [join]
      · rw [join_cons _ _ hnil, isNormal_append_wall hw, ih]

theorem IsNormal.of_mem_lines (h : IsNormal cs) (hline : line ∈ lines cs) : IsNormal line := by
  rw [← join_lines cs, isNormal_join isWall_lineFeed] at h
  exact h line hline

theorem IsNormal.trim (h : IsNormal cs) : IsNormal (trim cs) := by
  have hdrop : IsNormal (cs.dropWhile isWhiteSpace) := by
    induction cs with
    | nil => exact h
    | cons c cs ih =>
        cases hc : isWhiteSpace c with
        | true =>
            rw [List.dropWhile_cons_of_pos hc]
            have hwall := (h.isSettled List.mem_cons_self).isWall hc
            exact ih ((isNormal_cons_wall hwall).1 h)
        | false =>
            rw [List.dropWhile_cons_of_neg (by simp [hc])]
            exact h
  obtain ⟨rest, hrest⟩ := List.rdropWhile_prefix isWhiteSpace (cs.dropWhile isWhiteSpace)
  rw [← hrest] at hdrop
  exact hdrop.of_append

theorem IsNormal.tidy (h : IsNormal cs) : IsNormal (tidy cs) := by
  apply IsNormal.trim
  rw [isNormal_join isWall_lineFeed]
  exact fun line hline => IsNormal.of_mem_lines h ((sublist_squeezeBlank false _).subset hline)

theorem IsNormal.of_mem_words (h : IsNormal cs) (hword : word ∈ words cs) : IsNormal word := by
  obtain ⟨front, back, rfl, hfront, -⟩ := (isWordOf_of_mem_words hword).between
  replace h := h.of_append
  rcases List.eq_nil_or_concat front with rfl | ⟨front, w, rfl⟩
  · exact h
  · rw [List.concat_eq_append, List.append_assoc, List.singleton_append] at h
    have hwhite := hfront w (by rw [List.concat_eq_append, List.getLast?_concat]; rfl)
    have hwall := (h.isSettled (List.mem_append_right _ List.mem_cons_self)).isWall hwhite
    exact ((isNormal_append_wall hwall).1 h).2

theorem IsNormal.join_words (h : IsNormal cs) : IsNormal (join ' ' (words cs)) :=
  (isNormal_join isWall_space).2 fun _ => IsNormal.of_mem_words h

theorem IsNormal.cut (h : IsNormal cs) (n : Nat) : IsNormal (cut n cs) := by
  apply IsNormal.trim
  obtain ⟨rest, hrest⟩ := fitting_isPrefix n cs
  rw [← hrest] at h
  exact h.of_append

/-- Of the characters without a visible form, the text has line breaks alone. -/
def HidesBreaksAlone (cs : List Char) : Prop := ∀ c ∈ cs, isOther c = true → isLineBreak c = true

instance : Decidable (HidesBreaksAlone cs) :=
  List.decidableBAll (fun c => isOther c = true → isLineBreak c = true) cs

theorem IsNormal.isWall (h : IsNormal cs) (hc : c ∈ cs) (hbreak : isLineBreak c = true) : IsWall c :=
  (h.isSettled hc).isWall (isWhiteSpace_of_isLineBreak hbreak)

/-- The induction takes what is kept to the part in front: only a line break divides the text. -/
theorem isNormal_append_unifyBreaks (front : List Char) (h : IsNormal (front ++ cs))
    (hcs : HidesBreaksAlone cs) : IsNormal (front ++ unifyBreaks cs) := by
  fun_induction unifyBreaks cs generalizing front with
  | case1 => exact h
  | case2 cs ih =>
      obtain ⟨hfront, hrest⟩ := (isNormal_append_wall (IsNormal.isWall h (by simp) (by decide))).1 h
      rw [isNormal_cons_wall isWall_lineFeed] at hrest
      rw [isNormal_append_wall isWall_lineFeed]
      exact ⟨hfront, ih [] hrest fun c hc => hcs c (by simp [hc])⟩
  | case3 c cs hne hbreak ih =>
      obtain ⟨hfront, hrest⟩ := (isNormal_append_wall (IsNormal.isWall h (by simp) hbreak)).1 h
      rw [isNormal_append_wall isWall_lineFeed]
      exact ⟨hfront, ih [] hrest (List.forall_mem_cons.1 hcs).2⟩
  | case4 c cs hne hbreak hother ih => exact absurd (hcs c List.mem_cons_self hother) hbreak
  | case5 c cs hne hbreak hother ih =>
      rw [List.append_cons] at h ⊢
      exact ih _ h (List.forall_mem_cons.1 hcs).2

theorem lineBreak_decomposed : [0xA, 0xB, 0xC, 0xD, 0x85, 0x2028, 0x2029].all (fun n =>
    compatibilityDecomposition (Char.ofNat n) == [Char.ofNat n]) = true := by
  decide

theorem decomposition_of_isLineBreak (h : isLineBreak c = true) : compatibilityDecomposition c = [c] := by
  rw [isLineBreak, List.contains_iff_mem] at h
  have htable := List.all_eq_true.1 lineBreak_decomposed c.toNat h
  rwa [Char.ofNat_toNat, beq_iff_eq] at htable

theorem HidesBreaksAlone.nfkc (h : HidesBreaksAlone cs) : HidesBreaksAlone (nfkc cs) := by
  refine forall_mem_compose (fun a b q hq _ _ hother => ?_) (fun c hc hother => ?_)
  · rw [(isComposite_of_compose? hq).visible] at hother
    cases hother
  · obtain ⟨d, hd, hc⟩ := mem_nfkd.1 hc
    cases hdother : isOther d with
    | true =>
        have hbreak := h d hd hdother
        rw [decomposition_of_isLineBreak hbreak, List.mem_singleton] at hc
        rwa [hc]
    | false =>
        rw [isOther_of_mem hdother hc] at hother
        cases hother

/-- What is cleaned is in normal form, if no more than line breaks can be dropped from it. -/
theorem isNormal_clean {text : String} (h : HidesBreaksAlone text.toList) : IsNormal (clean text).toList := by
  rw [clean_eq, String.toList_ofList]
  apply IsNormal.tidy
  exact isNormal_append_unifyBreaks [] (isNormal_nfkc _) h.nfkc

end ContentCode.Text
