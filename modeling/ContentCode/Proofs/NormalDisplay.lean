import ContentCode.Proofs.NormalSpaces
import ContentCode.Proofs.Titles

/-!
The normal form of a displayed text is displayed, and that of a title is a title: lines and words are
normalized each for itself, and what is blank stays blank.
-/

namespace ContentCode.Text

open Unicode

variable {c d w : Char} {cs line word : List Char} {ls ws : List (List Char)}

theorem isWall_lineFeed : IsWall '\n' := by
  apply isWall_of_isWhiteSpace
  · rfl
  · rfl

theorem isWall_space : IsWall ' ' := by
  apply isWall_of_isWhiteSpace
  · rfl
  · rfl

/-- Lines and words are normalized each for itself. -/
theorem nfkc_join (hw : IsWall w) (ls : List (List Char)) : nfkc (join w ls) = join w (ls.map nfkc) := by
  induction ls with
  | nil => rfl
  | cons line ls ih =>
      by_cases hnil : ls = []
      · subst hnil
        simp [join]
      · rw [join_cons _ _ hnil, nfkc_append_wall hw, ih, List.map_cons, join_cons _ _ (by simpa using hnil)]

theorem eq_of_mem_canonicalDecomposition (hd : IsSettled d) (hc : c ∈ canonicalDecomposition d)
    (hwhite : isWhiteSpace c = true) : c = d := by
  have hdwhite : isWhiteSpace d = true := (of_mem_canonicalDecomposition hd.plain hc).2.1.symm.trans hwhite
  rw [(canonical_of_isWhiteSpace hd.plain hdwhite).canonicalDecomposition_eq] at hc
  exact List.mem_singleton.1 hc

theorem mem_of_mem_nfkc (h : AllSettled cs) (hwhite : isWhiteSpace w = true) (hw : w ∈ nfkc cs) : w ∈ cs := by
  have hall : ∀ c ∈ nfkc cs, isWhiteSpace c = true → c ∈ cs := by
    refine forall_mem_compose (fun a b q hq _ _ hqwhite => ?_) (fun c hc hcwhite => ?_)
    · rw [(isComposite_of_compose? hq).not_white.2.2] at hqwhite
      cases hqwhite
    · obtain ⟨d, hd, hc⟩ := (mem_nfkd_of_allSettled h).1 hc
      rwa [eq_of_mem_canonicalDecomposition (h d hd) hc hcwhite]
  exact hall w hw hwhite

theorem isShown_of_mem_nfkc (h : AllSettled cs) (hshown : ∀ c ∈ cs, IsShown c) :
    ∀ c ∈ nfkc cs, IsShown c := by
  refine forall_mem_compose (fun a b q hq _ _ => ?_) (fun c hc => ?_)
  · have hcomposite := isComposite_of_compose? hq
    exact isShown_of_not_white hcomposite.visible hcomposite.not_white.2.2
  · obtain ⟨d, hd, hc⟩ := (mem_nfkd_of_allSettled h).1 hc
    obtain ⟨-, hsame, hvisible⟩ := of_mem_canonicalDecomposition (h d hd).plain hc
    cases hwhite : isWhiteSpace c with
    | true =>
        rw [eq_of_mem_canonicalDecomposition (h d hd) hc hwhite]
        exact hshown d hd
    | false =>
        rcases hshown d hd with rfl | ⟨hother, -⟩
        · rw [hwhite, lineFeed_white] at hsame
          cases hsame
        · exact isShown_of_not_white (hvisible hother) hwhite

theorem AllSettled.of_mem_lines (h : AllSettled cs) (hline : line ∈ lines cs) : AllSettled line :=
  fun c hc => h c (mem_of_mem_lines hline hc)

theorem lines_nfkc (h : AllSettled cs) : lines (nfkc cs) = (lines cs).map nfkc := by
  conv_lhs => rw [← join_lines cs, nfkc_join isWall_lineFeed]
  apply lines_join
  · simpa using lines_ne_nil cs
  · rw [List.forall_mem_map]
    intro line hline hmem
    exact not_mem_of_mem_lines hline (mem_of_mem_nfkc (AllSettled.of_mem_lines h hline) lineFeed_white hmem)

theorem isBlank_nfkc (h : AllSettled line) : isBlank (nfkc line) = isBlank line := by
  rw [Bool.eq_iff_iff, isBlank, isBlank, List.all_eq_true, List.all_eq_true]
  exact forall_nfkc_iff h true

theorem squeezed_nfkc (h : AllSettled cs) (hsqueezed : Squeezed (lines cs)) : Squeezed (lines (nfkc cs)) := by
  rw [lines_nfkc h, Squeezed, List.isChain_map]
  refine hsqueezed.imp_of_mem_imp fun line line' hline hline' hnot => ?_
  rwa [isBlank_nfkc (AllSettled.of_mem_lines h hline), isBlank_nfkc (AllSettled.of_mem_lines h hline')]

theorem exists_word_append (hne : cs ≠ []) (h : ∀ c ∈ cs.head?, isWhiteSpace c = false) :
    ∃ word rest, IsWord word ∧ cs = word ++ rest ∧ ∀ c ∈ rest.head?, isWhiteSpace c = true := by
  refine ⟨cs.takeWhile (!isWhiteSpace ·), cs.dropWhile (!isWhiteSpace ·), ⟨?_, fun c hc => ?_⟩,
    List.takeWhile_append_dropWhile.symm, fun c hc => ?_⟩
  · cases cs with
    | nil => exact absurd rfl hne
    | cons c cs =>
        rw [List.takeWhile_cons_of_pos (by simp [h c rfl])]
        exact List.cons_ne_nil _ _
  · simpa using List.mem_takeWhile_imp hc
  · have hnot := List.head?_dropWhile_not (!isWhiteSpace ·) cs
    rw [hc] at hnot
    simpa using hnot

theorem isWord_nfkc (h : AllSettled word) (hword : IsWord word) : IsWord (nfkc word) :=
  ⟨mt (nfkc_eq_nil_iff h).1 hword.1, (forall_nfkc_iff h false).2 hword.2⟩

theorem head_nfkc (h : AllSettled cs) (hcs : ∀ c ∈ cs.head?, isWhiteSpace c = false) :
    ∀ c ∈ (nfkc cs).head?, isWhiteSpace c = false := by
  by_cases hne : cs = []
  · subst hne
    exact hcs
  · obtain ⟨word, rest, hword, rfl, hrest⟩ := exists_word_append hne hcs
    have hnormal := isWord_nfkc (fun c hc => h c (List.mem_append_left rest hc)) hword
    cases rest with
    | nil =>
        rw [List.append_nil]
        exact fun c hc => hnormal.2 c (List.mem_of_mem_head? hc)
    | cons w rest =>
        have hw := (h w (List.mem_append_right word List.mem_cons_self)).isWall (hrest w rfl)
        rw [nfkc_append_wall hw, List.head?_append_of_ne_nil _ hnormal.1]
        exact fun c hc => hnormal.2 c (List.mem_of_mem_head? hc)

theorem last_nfkc (h : AllSettled cs) (hcs : ∀ c ∈ cs.getLast?, isWhiteSpace c = false) :
    ∀ c ∈ (nfkc cs).getLast?, isWhiteSpace c = false := by
  by_cases hne : cs = []
  · subst hne
    exact hcs
  · obtain ⟨word, rest, hword, hreverse, hrest⟩ :=
      exists_word_append (mt List.reverse_eq_nil_iff.1 hne) (by rwa [List.head?_reverse])
    obtain rfl : cs = rest.reverse ++ word.reverse := by
      rw [← List.reverse_append, ← hreverse, List.reverse_reverse]
    have hword' : IsWord word.reverse := ⟨mt List.reverse_eq_nil_iff.1 hword.1, by simpa using hword.2⟩
    have hnormal := isWord_nfkc (fun c hc => h c (List.mem_append_right _ hc)) hword'
    cases rest with
    | nil => exact fun c hc => hnormal.2 c (List.mem_of_mem_getLast? hc)
    | cons w rest =>
        rw [List.reverse_cons, List.append_assoc, List.singleton_append] at h ⊢
        have hw := (h w (List.mem_append_right _ List.mem_cons_self)).isWall (hrest w rfl)
        rw [nfkc_append_wall hw, List.getLast?_append_of_ne_nil _ (List.cons_ne_nil w _),
          List.getLast?_cons_of_ne_nil hnormal.1]
        exact fun c hc => hnormal.2 c (List.mem_of_mem_getLast? hc)

theorem trimmed_nfkc (h : AllSettled cs) (htrimmed : Trimmed cs) : Trimmed (nfkc cs) :=
  ⟨head_nfkc h htrimmed.head, last_nfkc h htrimmed.last⟩

theorem IsDisplayed.nfkc (h : AllSettled cs) (hcs : IsDisplayed cs) : IsDisplayed (nfkc cs) :=
  ⟨trimmed_nfkc h hcs.trimmed, isShown_of_mem_nfkc h hcs.shown, squeezed_nfkc h hcs.squeezed⟩

theorem IsTitle.nfkc (h : AllSettled cs) (hcs : IsTitle cs) : IsTitle (nfkc cs) := by
  obtain ⟨ws, hws, rfl⟩ := hcs
  refine ⟨ws.map Unicode.nfkc, List.forall_mem_map.2 fun word hword => ?_, nfkc_join isWall_space ws⟩
  exact isWord_nfkc (fun c hc => h c (mem_join hword hc)) (hws word hword)

end ContentCode.Text
