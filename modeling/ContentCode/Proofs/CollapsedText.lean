import ContentCode.Proofs.NormalSpaces
import ContentCode.Proofs.SimilarCharacters

/-!
What a collapsed text is made of. Characters that do not matter are dropped before the text is
composed, so that compatibility decompositions can bring others in; collapsing the text once more
drops these, and from then on it stays as it is.
-/

namespace ContentCode.Unicode

variable {c d : Char} {before cs : List Char} {points : Nat}

theorem lowerCase_sigmas : lowerCase 'Σ' = ['σ'] ∧ lowerCase 'σ' = ['σ'] ∧ lowerCase 'ς' = ['ς'] := by
  decide +kernel

theorem cases_of_mem_lowerCaseFrom (h : d ∈ lowerCaseFrom before cs) :
    (d = 'σ' ∨ d = 'ς') ∨ ∃ c ∈ cs, d ∈ lowerCase c := by
  induction cs generalizing before with
  | nil => cases h
  | cons c cs ih =>
      rw [lowerCaseFrom, List.mem_append] at h
      rcases h with h | h
      · by_cases hsigma : c = 'Σ'
        · rw [if_pos hsigma] at h
          split at h
          next => exact .inl (.inr (List.mem_singleton.1 h))
          next => exact .inl (.inl (List.mem_singleton.1 h))
        · rw [if_neg hsigma] at h
          exact .inr ⟨c, List.mem_cons_self, h⟩
      · exact (ih h).imp_right fun ⟨e, he, hd⟩ => ⟨e, List.mem_cons_of_mem c he, hd⟩

theorem lowerCase_of_mem_lowerCaseText (h : d ∈ lowerCaseText cs) : lowerCase d = [d] := by
  rcases cases_of_mem_lowerCaseFrom h with (rfl | rfl) | ⟨c, -, hd⟩
  · exact lowerCase_sigmas.2.1
  · exact lowerCase_sigmas.2.2
  · exact CaseRun.lowerCase_of_mem hd

theorem testBit_of_mem_lowerCaseText (hpoints : CaseRun.keepsOut points = true)
    (hcs : ∀ c ∈ cs, points.testBit c.toNat = false) (h : d ∈ lowerCaseText cs) :
    points.testBit d.toNat = false := by
  have hsigmas := (Bool.and_eq_true_iff.1 hpoints).2
  simp only [List.all_cons, Bool.and_eq_true, Bool.not_eq_true'] at hsigmas
  rcases cases_of_mem_lowerCaseFrom h with (rfl | rfl) | ⟨c, hc, hd⟩
  · exact hsigmas.2.2.1
  · exact hsigmas.2.2.2.1
  · exact CaseRun.testBit_of_mem_lowerCase hpoints (hcs c hc) hd

theorem lowerCaseFrom_eq_self (h : ∀ c ∈ cs, lowerCase c = [c]) : lowerCaseFrom before cs = cs := by
  induction cs generalizing before with
  | nil => rfl
  | cons c cs ih =>
      obtain ⟨hc, hcs⟩ := List.forall_mem_cons.1 h
      have hsigma : c ≠ 'Σ' := by
        rintro rfl
        rw [lowerCase_sigmas.1] at hc
        cases hc
      rw [lowerCaseFrom, ih hcs, if_neg hsigma, hc, List.singleton_append]

theorem nfkd_eq_self (h : ∀ c ∈ cs, IsDecomposed c ∧ combiningClass c = 0) : nfkd cs = cs := by
  rw [nfkd, flatMap_decomposition fun c hc => (h c hc).1]
  refine canonicalOrder_eq_self (List.Pairwise.isChain ?_)
  exact List.pairwise_of_forall_mem_list fun _ _ d hd => .inl (h d hd).2

theorem nfkc_nfkd (cs : List Char) : nfkc (nfkd cs) = nfkc cs := by
  have hself : nfkd (nfkd cs) = nfkd cs := by
    rw [nfkd, flatMap_decomposition fun c hc => isDecomposed_of_mem_nfkd hc]
    exact canonicalOrder_eq_self (isOrdered_canonicalOrder _)
  rw [nfkc, hself, nfkc]

end ContentCode.Unicode

namespace ContentCode.Text

open Unicode

variable {c : Char} {text : String}

def retained (text : String) : List Char := (lowerCaseText (nfd text.toList)).filter matters

theorem collapse_eq_nfkc (text : String) : collapse text = .ofList (nfkc (retained text)) := rfl

theorem toList_collapse (text : String) : (collapse text).toList = nfkc (retained text) :=
  String.toList_ofList

/-- A character that is retained. -/
structure IsSimilar (c : Char) : Prop where
  matters : matters c = true
  lower : lowerCase c = [c]
  canonical : canonicalPoints.testBit c.toNat = false

theorem isSimilar_of_mem (h : c ∈ retained text) : IsSimilar c := by
  obtain ⟨hlower, hmatters⟩ := List.mem_filter.1 h
  refine ⟨hmatters, lowerCase_of_mem_lowerCaseText hlower, ?_⟩
  refine testBit_of_mem_lowerCaseText CaseRun.smalls_tables.2.2.1 (fun d hd => ?_) hlower
  obtain ⟨e, -, hd⟩ := List.mem_flatMap.1 ((commutes_canonicalOrder _).perm.mem_iff.2 hd)
  exact canonicalPoints_of_mem hd

theorem IsSimilar.combiningClass_eq (h : IsSimilar c) : combiningClass c = 0 := by
  by_contra hmark
  have hdropped := (isDropped_of_combiningClass_pos (Nat.pos_of_ne_zero hmark)).1.lower
  rw [h.lower, List.filter_cons_of_pos h.matters] at hdropped
  cases hdropped

theorem IsSimilar.isDecomposed (h : IsSimilar c) (hplain : IsPlain c) : IsDecomposed c :=
  ⟨hplain, (canonicalPoints_eq_false.1 h.canonical).1, (canonicalPoints_eq_false.1 h.canonical).2⟩

theorem nfkd_retained (h : ∀ c ∈ retained text, IsPlain c) : nfkd (retained text) = retained text :=
  nfkd_eq_self fun c hc =>
    ⟨(isSimilar_of_mem hc).isDecomposed (h c hc), (isSimilar_of_mem hc).combiningClass_eq⟩

theorem retained_collapse (text : String) :
    retained (collapse text) = (lowerCaseText (nfkd (retained text))).filter matters := by
  rw [retained, toList_collapse, nfd_eq_nfkd (allSettled_nfkc _), nfkd_nfkc]

theorem isPlain_of_mem_collapse (h : c ∈ retained (collapse text)) : IsPlain c := by
  rw [retained_collapse] at h
  refine (points_eq_false.1 (testBit_of_mem_lowerCaseText CaseRun.smalls_tables.2.2.2 (fun d hd => ?_)
    (List.mem_of_mem_filter h))).plain
  exact points_eq_false.2 (isDecomposed_of_mem_nfkd hd)

theorem collapse_collapse_iff (text : String) : collapse (collapse text) = collapse text ↔
    ∀ c ∈ nfkd (retained text), matters c = true ∧ lowerCase c = [c] := by
  rw [collapse_eq_nfkc (collapse text), collapse_eq_nfkc text, String.ofList_inj, ← collapse_eq_nfkc text]
  constructor
  · intro h
    have hretained : retained (collapse text) = nfkd (retained text) := by
      rw [← nfkd_retained fun c => isPlain_of_mem_collapse, ← nfkd_nfkc, h, nfkd_nfkc]
    rw [← hretained]
    exact fun c hc => ⟨(isSimilar_of_mem hc).matters, (isSimilar_of_mem hc).lower⟩
  · intro h
    rw [retained_collapse, lowerCaseText, lowerCaseFrom_eq_self fun c hc => (h c hc).2,
      List.filter_eq_self.2 fun c hc => (h c hc).1, nfkc_nfkd]

theorem origin_of_mem_collapse (h : c ∈ (collapse text).toList) : matters c = true ∨
    ∃ d ∈ retained text, ¬ IsPlain d ∧ c ∈ compatibilityDecomposition d := by
  have horigin : ∀ d ∈ nfkd (retained text), matters d = true ∨
      ∃ e ∈ retained text, ¬ IsPlain e ∧ d ∈ compatibilityDecomposition e := by
    intro d hd
    obtain ⟨e, he, hd⟩ := mem_nfkd.1 hd
    by_cases hplain : IsPlain e
    · rw [((isSimilar_of_mem he).isDecomposed hplain).compatibilityDecomposition_eq, List.mem_singleton] at hd
      subst hd
      exact .inl (isSimilar_of_mem he).matters
    · exact .inr ⟨e, he, hplain, hd⟩
  rw [toList_collapse, nfkc] at h
  refine forall_mem_compose (fun a b q hq ha _ => .inl (matters_of_compose? hq ?_)) horigin c h
  rcases ha with ha | ⟨e, -, he, ha⟩
  · exact not_idleFirst_of_matters ha
  · exact not_idleFirst_of_mem he ha

/-- Collapsed texts hold what matters, and are collapsed no further, unless a character that was
retained has a compatibility decomposition; all are after a second time. -/
theorem collapse_settles (text : String) :
    (∀ c ∈ (collapse text).toList, matters c = true ∨
      ∃ d ∈ retained text, ¬ IsPlain d ∧ c ∈ compatibilityDecomposition d) ∧
    ((∀ c ∈ retained text, IsPlain c) →
      (∀ c ∈ (collapse text).toList, matters c = true) ∧ collapse (collapse text) = collapse text) ∧
    (collapse (collapse text) = collapse text ↔
      ∀ c ∈ nfkd (retained text), matters c = true ∧ lowerCase c = [c]) ∧
    (∀ c ∈ (collapse (collapse text)).toList, matters c = true) ∧
    collapse (collapse (collapse text)) = collapse (collapse text) := by
  have hplain {text : String} (h : ∀ c ∈ retained text, IsPlain c) :
      (∀ c ∈ (collapse text).toList, matters c = true) ∧ collapse (collapse text) = collapse text := by
    constructor
    · intro c hc
      refine (origin_of_mem_collapse hc).resolve_right ?_
      rintro ⟨d, hd, hcompatibility, -⟩
      exact hcompatibility (h d hd)
    · rw [collapse_collapse_iff, nfkd_retained h]
      exact fun c hc => ⟨(isSimilar_of_mem hc).matters, (isSimilar_of_mem hc).lower⟩
  have hagain := hplain fun c (hc : c ∈ retained (collapse text)) => isPlain_of_mem_collapse hc
  exact ⟨fun c => origin_of_mem_collapse, hplain, collapse_collapse_iff text, hagain.1, hagain.2⟩

/-- The account sign is taken for a symbol and composed to letters with a slash between. -/
theorem slash_of_account :
    ('/' ∈ (collapse "℀").toList ∧ matters '/' = false) ∧ collapse (collapse "℀") ≠ collapse "℀" := by
  decide +kernel

end ContentCode.Text
