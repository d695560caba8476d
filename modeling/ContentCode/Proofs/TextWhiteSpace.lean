import ContentCode.Generator.Text
import ContentCode.Proofs.FinalSigma
import ContentCode.Proofs.HasherSplit
import ContentCode.Proofs.SigmaFolding

/-!
What white space means to the similarity of texts. It is dropped, but only after the text has been
put in lower case, and there it ends a word: a capital sigma in front of it may become another
letter than one inside a word. Nothing else of a collapsed text hangs on white space.
-/

namespace ContentCode.Unicode

theorem reorders_nfd (cs : List Char) : Reorders (cs.flatMap canonicalDecomposition) (nfd cs) :=
  reorders_canonicalOrder _

theorem finals_nfd_append (xs ys : List Char) :
    finals [] [] (nfd (xs ++ ys)) = finals [] [] (nfd xs ++ nfd ys) := by
  have hparts : Reorders ((xs ++ ys).flatMap canonicalDecomposition) (nfd xs ++ nfd ys) := by
    rw [List.flatMap_append]
    exact ((reorders_nfd xs).append_right _).trans ((reorders_nfd ys).append_left _)
  rw [← Text.finals_reorders hparts, ← Text.finals_reorders (reorders_nfd _)]

end ContentCode.Unicode

namespace ContentCode.Text

open Unicode

/-- The texts have the same characters but for white space. -/
def SameWithoutSpace (s t : String) : Prop :=
  s.toList.filter (!isWhiteSpace ·) = t.toList.filter (!isWhiteSpace ·)

/-- The capital sigmas of the texts, one by one, take the same forms. -/
def SameFinals (s t : String) : Prop :=
  finals [] [] (nfd s.toList) = finals [] [] (nfd t.toList)

def kept (text : String) : List Char := (nfd text.toList).filter isKept

theorem kept_eq (text : String) : kept text =
    ((text.toList.filter (!isWhiteSpace ·)).flatMap canonicalDecomposition).filter isKept := by
  rw [kept, ← (reorders_nfd text.toList).filter_eq fun c hc =>
    isKept_of_isDropped (isDropped_of_combiningClass_pos hc).1]
  induction text.toList with
  | nil => rfl
  | cons c cs ih =>
      rw [List.flatMap_cons, List.filter_append, ih]
      cases hc : isWhiteSpace c with
      | false => rw [List.filter_cons_of_pos (by simp [hc]), List.flatMap_cons, List.filter_append]
      | true =>
          obtain ⟨d, hd, hsep⟩ := exists_separator hc
          rw [List.filter_cons_of_neg (by simp [hc]), hd,
            List.filter_cons_of_neg (by simp [isKept_of_isDropped hsep.dropped])]
          rfl

theorem collapse_eq (text : String) : collapse text =
    .ofList (nfkc (withForms (finals [] [] (nfd text.toList)) (kept text))) := by
  rw [kept, withForms_filter_isKept, ← filter_lowerCaseFrom]
  rfl

theorem length_finals_nfd (text : String) :
    (finals [] [] (nfd text.toList)).length = (kept text).count 'Σ' := by
  rw [length_finals, kept, List.count_filter (by simp [isKept])]

theorem map_withForms (forms forms' : List Bool) (cs : List Char) :
    (withForms forms cs).map foldSigma = (withForms forms' cs).map foldSigma := by
  have hfold (f : Bool) : foldSigma (if f then 'ς' else 'σ') = 'σ' := by cases f <;> rfl
  induction cs generalizing forms forms' with
  | nil => rfl
  | cons c cs ih =>
      rw [withForms, withForms]
      split
      next => rw [List.map_cons, List.map_cons, hfold, hfold, ih forms.tail forms'.tail]
      next => rw [List.map_append, List.map_append, ih forms forms']

variable {s t : String}

theorem kept_congr (h : SameWithoutSpace s t) : kept s = kept t := by
  rw [kept_eq, kept_eq, h]

theorem map_collapse (h : SameWithoutSpace s t) :
    (collapse s).toList.map foldSigma = (collapse t).toList.map foldSigma := by
  rw [collapse_eq, collapse_eq, String.toList_ofList, String.toList_ofList, kept_congr h]
  exact map_nfkc (map_withForms _ _ _)

theorem collapse_eq_iff (h : SameWithoutSpace s t) : collapse s = collapse t ↔ SameFinals s t := by
  rw [collapse_eq, collapse_eq, String.ofList_inj, kept_congr h, nfkc_inj (map_withForms _ _ _),
    withForms_inj (by rw [length_finals_nfd, kept_congr h]) (length_finals_nfd t)]
  exact Iff.rfl

theorem sameWithoutSpace_insert (a b : String) {w : Char} (hw : isWhiteSpace w = true) :
    SameWithoutSpace (a ++ String.singleton w ++ b) (a ++ b) := by
  simp [SameWithoutSpace, hw]

theorem sameFinals_insert_iff (a b : String) {w : Char} (hw : isWhiteSpace w = true) :
    SameFinals (a ++ String.singleton w ++ b) (a ++ b) ↔
      ¬ SigmaAtSeam (nfd a.toList) (nfd b.toList) := by
  obtain ⟨c, hc, hsep⟩ := exists_separator hw
  -- The two sides of white space are put in order each for itself.
  have hnfd : nfd (a.toList ++ w :: b.toList) = nfd a.toList ++ c :: nfd b.toList := by
    rw [nfd, List.flatMap_append, List.flatMap_cons, hc]
    exact canonicalOrder_append_starter _ hsep.starter _
  have htext : (a ++ String.singleton w ++ b).toList = a.toList ++ w :: b.toList := by simp
  rw [SameFinals, htext, hnfd, String.toList_append, finals_nfd_append, finals_separator hsep]

theorem finals_eq_nil {cs : List Char} (h : 'Σ' ∉ cs) : finals [] [] (nfd cs) = [] := by
  rw [← finals_reorders (reorders_nfd cs), ← List.length_eq_zero_iff, length_finals,
    List.count_eq_zero]
  intro hmem
  obtain ⟨c, hc, hsigma⟩ := List.mem_flatMap.1 hmem
  rw [sigma_mem_canonicalDecomposition hsigma] at hc
  exact h hc

theorem sigma_mem_iff (h : SameWithoutSpace s t) : 'Σ' ∈ s.toList ↔ 'Σ' ∈ t.toList := by
  have hmem (text : String) : 'Σ' ∈ text.toList ↔ 'Σ' ∈ text.toList.filter (!isWhiteSpace ·) := by
    rw [List.mem_filter]
    exact (and_iff_left (by decide +kernel)).symm
  rw [hmem, hmem, h]

end ContentCode.Text

namespace ContentCode.TextCode

open Unicode Text

theorem map_characters (text : String) (bits : Nat) : (generate text bits).map characters =
    (Code.checkBits bits).map fun _ => (collapse text).length := by
  by_cases h : bits ∈ Code.supportedBits
  · obtain ⟨windows, hwindows⟩ : ∃ windows, Windows.ofText windowWidth (collapse text) = .ok windows := by
      rw [Windows.ofText, Windows.windows, if_neg (by decide)]
      split
      next => exact ⟨_, rfl⟩
      next => exact ⟨_, rfl⟩
    obtain ⟨code, hcode⟩ := Code.exists_generate (t := .content) .plain (by decide) (by decide) h
      (MinHash.length_digest (windows.map fun w => Hash.XxHash32.hash (utf8 w)))
    simp only [generate, Code.checkBits_of_mem h, hwindows, hcode, bind, Except.bind, pure, Except.pure,
      Except.map]
  · have hbits : Code.checkBits bits = .error (.unsupportedBits bits) := if_neg h
    rw [generate, hbits]
    rfl

/-- White space leaves nothing in a collapsed text, and where it stands makes no difference but to
the forms of the sigmas at its sides. -/
theorem whiteSpace_collapses :
    (∀ (a b : String) (w : Char), isWhiteSpace w = true →
      (collapse (a ++ String.singleton w ++ b) = collapse (a ++ b) ↔
        ¬ SigmaAtSeam (nfd a.toList) (nfd b.toList))) ∧
    ∀ s t : String, SameWithoutSpace s t →
      (collapse s = collapse t ↔ SameFinals s t) ∧
      (collapse s).toList.map foldSigma = (collapse t).toList.map foldSigma ∧
      ('Σ' ∉ s.toList → SameFinals s t) ∧
      ∀ bits, (SameFinals s t → generate s bits = generate t bits) ∧
        (generate s bits).map characters = (generate t bits).map characters := by
  refine ⟨fun a b w hw => ?_, fun s t h => ⟨collapse_eq_iff h, map_collapse h, fun hs => ?_, fun bits => ?_⟩⟩
  · rw [collapse_eq_iff (sameWithoutSpace_insert a b hw), sameFinals_insert_iff a b hw]
  · rw [SameFinals, finals_eq_nil hs, finals_eq_nil (by rwa [← sigma_mem_iff h])]
  · refine ⟨fun hfinals => ?_, ?_⟩
    · rw [generate, (collapse_eq_iff h).2 hfinals]
      rfl
    · have hlength : (collapse s).length = (collapse t).length := by
        rw [← String.length_toList, ← String.length_toList, ← List.length_map foldSigma,
          map_collapse h, List.length_map]
      rw [map_characters, map_characters, hlength]

/-- White space in front of a letter makes the sigma before it a final one. -/
theorem sigma_in_front_of_space :
    (isWhiteSpace ' ' = true ∧
      collapse ("AΣ" ++ String.singleton ' ' ++ "B") ≠ collapse ("AΣ" ++ "B")) ∧
    SameWithoutSpace "AΣ B" "AΣB" ∧ generate "AΣ B" 64 ≠ generate "AΣB" 64 := by
  refine ⟨by decide +kernel, ?_, fun h => ?_⟩
  · rw [SameWithoutSpace]
    decide +kernel
  · have hcodes : ((generate "AΣ B" 64).map iscc).toOption ≠ ((generate "AΣB" 64).map iscc).toOption := by
      decide +kernel
    exact hcodes (by rw [h])

end ContentCode.TextCode
