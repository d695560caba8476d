import ContentCode.Proofs.CharacterClasses
import ContentCode.Proofs.NormalOrder

/-!
Sigmas in normalized texts. A small sigma takes no part in any composite, so that texts that differ
in the forms of their small sigmas are normalized to texts that differ in these forms alone.
-/

namespace ContentCode.Unicode

def isSmallSigma (c : Char) : Bool := c = 'σ' || c = 'ς'

/-- Takes the final form of the small sigma for the other one. -/
def foldSigma (c : Char) : Char := if c = 'ς' then 'σ' else c

theorem isSmallSigma_iff {c : Char} : isSmallSigma c = true ↔ c.toNat = 0x3C3 ∨ c.toNat = 0x3C2 := by
  rw [isSmallSigma, Bool.or_eq_true, decide_eq_true_eq, decide_eq_true_eq, ← Char.toNat_inj,
    ← Char.toNat_inj]
  rfl

theorem foldSigma_eq {c : Char} (h : isSmallSigma c = false) : foldSigma c = c := by
  rw [isSmallSigma, Bool.or_eq_false_iff, decide_eq_false_iff_not, decide_eq_false_iff_not] at h
  rw [foldSigma, if_neg h.2]

theorem isSmallSigma_foldSigma (c : Char) : isSmallSigma (foldSigma c) = isSmallSigma c := by
  rw [foldSigma]
  split
  next h =>
    rw [h]
    rfl
  next => rfl

theorem foldSigma_inj {c d : Char} (h : foldSigma c = foldSigma d) :
    c = d ∨ isSmallSigma c = true ∧ isSmallSigma d = true := by
  have hsmall : isSmallSigma c = isSmallSigma d := by
    rw [← isSmallSigma_foldSigma, h, isSmallSigma_foldSigma]
  cases hd : isSmallSigma d with
  | true => exact .inr ⟨hsmall.trans hd, rfl⟩
  | false => exact .inl (by rwa [foldSigma_eq (hsmall.trans hd), foldSigma_eq hd] at h)

theorem smallSigma_tables :
    (combiningClass 'σ' = 0 ∧ compatibilityDecomposition 'σ' = ['σ']) ∧
      combiningClass 'ς' = 0 ∧ compatibilityDecomposition 'ς' = ['ς'] :=
  ⟨⟨rfl, rfl⟩, rfl, rfl⟩

theorem composites_table : composites.spans.all (fun s =>
    (Nat.blt s.last 0x3C2 || Nat.blt 0x3C3 s.first) &&
      s.value.all fun p => !isSmallSigma (Char.ofNat p.1) && !isSmallSigma (Char.ofNat p.2)) = true := by
  decide +kernel

theorem canonical_table : Decomposition.canonical.spans.all (fun s =>
    (List.range (s.last + 1 - s.first)).all fun n =>
      !(Decomposition.advance n s.value).contains 'Σ') = true := by
  decide +kernel

variable {c a b q : Char} {xs ys : List Char}

theorem toNat_ofNat_or (n : Nat) : (Char.ofNat n).toNat = n ∨ (Char.ofNat n).toNat = 0 := by
  by_cases h : n.isValidChar
  · left
    rw [Char.ofNat, dif_pos h]
    rfl
  · right
    rw [Char.ofNat, dif_neg h]
    rfl

theorem tables_of_isSmallSigma (h : isSmallSigma c = true) :
    combiningClass c = 0 ∧ compatibilityDecomposition c = [c] := by
  rw [isSmallSigma, Bool.or_eq_true, decide_eq_true_eq, decide_eq_true_eq] at h
  rcases h with rfl | rfl
  · exact smallSigma_tables.1
  · exact smallSigma_tables.2

theorem Hangul.toNat_of_compose? (h : Hangul.compose? a b = some q) :
    0x1100 ≤ a.toNat ∧ 0x1100 ≤ b.toNat ∧ (0x1100 ≤ q.toNat ∨ q.toNat = 0) := by
  have hbases : leadBase = 0x1100 ∧ vowelBase = 0x1161 ∧ syllableBase = 0xAC00 ∧
      trailBase = 0x11A7 := ⟨rfl, rfl, rfl, rfl⟩
  obtain ⟨hlead, hvowel, hsyllable, htrail⟩ := hbases
  have hofNat {n : Nat} (hn : 0x1100 ≤ n) (hq : some (Char.ofNat n) = some q) :
      0x1100 ≤ q.toNat ∨ q.toNat = 0 := by
    obtain rfl := Option.some.inj hq
    exact (toNat_ofNat_or n).imp (fun h => by omega) id
  rw [Hangul.compose?] at h
  split at h
  next hr => exact ⟨by omega, by omega, hofNat (by omega) h⟩
  next =>
    split at h
    next hr => exact ⟨by omega, by omega, hofNat (by omega) h⟩
    next => cases h

theorem isSmallSigma_of_compose? (h : compose? a b = some q) :
    isSmallSigma a = false ∧ isSmallSigma b = false ∧ isSmallSigma q = false := by
  simp only [← Bool.not_eq_true]
  rw [compose?] at h
  split at h
  next hq =>
    obtain rfl := Option.some.inj h
    have := Hangul.toNat_of_compose? hq
    simp only [isSmallSigma_iff]
    omega
  next =>
    obtain ⟨n, hn, rfl⟩ := Option.map_eq_some_iff.1 h
    obtain ⟨pairs, hpairs, hlookup⟩ := Option.bind_eq_some_iff.1 hn
    obtain ⟨s, hs, rfl⟩ := Option.map_eq_some_iff.1 hpairs
    obtain ⟨hspan, hfirst, hlast⟩ := Table.mem_spans_of_find? hs
    have htable := List.all_eq_true.1 composites_table s hspan
    obtain ⟨l, l', hl, -⟩ := List.lookup_eq_some_iff.1 hlookup
    simp only [Bool.and_eq_true, Bool.or_eq_true, Nat.blt_eq] at htable
    have hpair := List.all_eq_true.1 htable.2 (b.toNat, n) (by simp [hl])
    simp only [Char.ofNat_toNat, Bool.and_eq_true, Bool.not_eq_true'] at hpair
    refine ⟨?_, by simp [hpair.1], by simp [hpair.2]⟩
    rw [isSmallSigma_iff]
    omega

theorem combiningClass_foldSigma (c : Char) : combiningClass (foldSigma c) = combiningClass c := by
  cases hc : isSmallSigma c with
  | true =>
      rw [(tables_of_isSmallSigma hc).1, (tables_of_isSmallSigma _).1]
      rwa [isSmallSigma_foldSigma]
  | false => rw [foldSigma_eq hc]

theorem compose?_foldSigma (a b : Char) :
    compose? (foldSigma a) (foldSigma b) = (compose? a b).map foldSigma := by
  have hnone {a b : Char} (h : isSmallSigma a = true ∨ isSmallSigma b = true) :
      compose? a b = none := by
    cases hq : compose? a b with
    | none => rfl
    | some q =>
        obtain ⟨ha, hb, -⟩ := isSmallSigma_of_compose? hq
        simp [ha, hb] at h
  by_cases h : isSmallSigma a = true ∨ isSmallSigma b = true
  · rw [hnone h, hnone (by simpa only [isSmallSigma_foldSigma] using h), Option.map_none]
  · rw [not_or, Bool.not_eq_true, Bool.not_eq_true] at h
    rw [foldSigma_eq h.1, foldSigma_eq h.2]
    cases hq : compose? a b with
    | none => rfl
    | some q => rw [Option.map_some, foldSigma_eq (isSmallSigma_of_compose? hq).2.2]

theorem filter_nfkc (cs : List Char) : (nfkc cs).filter isSmallSigma =
    (cs.flatMap compatibilityDecomposition).filter isSmallSigma := by
  rw [nfkc, filter_compose fun _ _ _ => isSmallSigma_of_compose?, nfkd,
    ← (reorders_canonicalOrder _).filter_eq]
  intro c hc
  cases hs : isSmallSigma c with
  | true =>
      rw [(tables_of_isSmallSigma hs).1] at hc
      exact absurd hc (Nat.lt_irrefl 0)
  | false => rfl

theorem map_nfkc (h : xs.map foldSigma = ys.map foldSigma) :
    (nfkc xs).map foldSigma = (nfkc ys).map foldSigma := by
  have hflat : (xs.flatMap compatibilityDecomposition).map foldSigma =
      (ys.flatMap compatibilityDecomposition).map foldSigma := by
    induction xs generalizing ys with
    | nil =>
        rw [List.map_nil, eq_comm, List.map_eq_nil_iff] at h
        rw [h]
    | cons x xs ih =>
        obtain ⟨y, ys, rfl, hy, hys⟩ := List.map_eq_cons_iff.1 h.symm
        rw [List.flatMap_cons, List.flatMap_cons, List.map_append, List.map_append, ih hys.symm]
        congr 1
        rcases foldSigma_inj hy with rfl | ⟨hsy, hsx⟩
        · rfl
        · rw [(tables_of_isSmallSigma hsx).2, (tables_of_isSmallSigma hsy).2, List.map_singleton,
            List.map_singleton, hy]
  rw [nfkc, nfkc, nfkd, nfkd, map_compose combiningClass_foldSigma compose?_foldSigma,
    map_compose combiningClass_foldSigma compose?_foldSigma,
    map_canonicalOrder combiningClass_foldSigma, map_canonicalOrder combiningClass_foldSigma, hflat]

/-- Normalizing does not make the forms of small sigmas alike. -/
theorem nfkc_inj (h : xs.map foldSigma = ys.map foldSigma) : nfkc xs = nfkc ys ↔ xs = ys := by
  refine ⟨fun he => ?_, fun he => by rw [he]⟩
  -- The small sigmas come through in their order, so they tell the texts apart one by one.
  have hfilter : (xs.flatMap compatibilityDecomposition).filter isSmallSigma =
      (ys.flatMap compatibilityDecomposition).filter isSmallSigma := by
    rw [← filter_nfkc, he, filter_nfkc]
  clear he
  induction xs generalizing ys with
  | nil =>
      rw [List.map_nil, eq_comm, List.map_eq_nil_iff] at h
      exact h.symm
  | cons x xs ih =>
      obtain ⟨y, ys, rfl, hy, hys⟩ := List.map_eq_cons_iff.1 h.symm
      rw [List.flatMap_cons, List.flatMap_cons, List.filter_append, List.filter_append] at hfilter
      rcases foldSigma_inj hy with rfl | ⟨hsy, hsx⟩
      · rw [ih hys.symm (List.append_cancel_left hfilter)]
      · rw [(tables_of_isSmallSigma hsx).2, (tables_of_isSmallSigma hsy).2,
          List.filter_cons_of_pos hsx, List.filter_cons_of_pos hsy] at hfilter
        obtain ⟨rfl, htail⟩ := List.cons.inj hfilter
        rw [ih hys.symm htail]

theorem sigma_mem_canonicalDecomposition (h : 'Σ' ∈ canonicalDecomposition c) : c = 'Σ' := by
  have hne (n : Nat) (hn : 0x1100 ≤ n) : 'Σ' ≠ Char.ofNat n := by
    intro he
    have hsigma : (Char.ofNat n).toNat = 0x3A3 := by rw [← he]; rfl
    rcases toNat_ofNat_or n with h | h <;> omega
  rw [canonicalDecomposition] at h
  split at h
  next i _ =>
    have hmem : 'Σ' ≠ Char.ofNat (Hangul.leadBase + i.lead) ∧
        'Σ' ≠ Char.ofNat (Hangul.vowelBase + i.vowel) ∧
        'Σ' ≠ Char.ofNat (Hangul.trailBase + i.trail) := by
      have hbases : 0x1100 ≤ Hangul.leadBase ∧ 0x1100 ≤ Hangul.vowelBase ∧
          0x1100 ≤ Hangul.trailBase := by decide
      exact ⟨hne _ (by omega), hne _ (by omega), hne _ (by omega)⟩
    rw [Hangul.decompose] at h
    split at h
    next => simp [hmem] at h
    next => simp [hmem] at h
  next =>
    rw [Decomposition.find?] at h
    cases hs : Decomposition.canonical.find? c.toNat with
    | none => simpa [hs, eq_comm] using h
    | some s =>
        obtain ⟨hspan, hfirst, hlast⟩ := Table.mem_spans_of_find? hs
        have htable := List.all_eq_true.1 (List.all_eq_true.1 canonical_table s hspan)
          (c.toNat - s.first) (List.mem_range.2 (by omega))
        simp [hs] at h
        simp [h] at htable

end ContentCode.Unicode
