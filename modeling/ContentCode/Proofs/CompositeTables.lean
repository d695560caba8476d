import ContentCode.Proofs.DecompositionTables

/-!
Composites and their parts. What a composite is decomposed into is what its first character is
decomposed into, and its second one; white space takes no part in any.
-/

namespace ContentCode.Unicode

open CodePoints

/-- What can follow the first characters of a span in a composite. -/
def seconds (s : Span (List (Nat × Nat))) : Nat := CodePoints.union (fun p => range p.1 p.1) s.value

def composed (s : Span (List (Nat × Nat))) : Nat := CodePoints.union (fun p => range p.2 p.2) s.value

def decompositionOf (n : Nat) : List Char :=
  match Decomposition.canonical.lookup n with
  | some s => Decomposition.advance (n - s.first) s.value
  | none => [Char.ofNat n]

theorem composite_tables :
    composites.points &&& (whiteSpace.points ||| combiningClasses.points ||| Hangul.syllables) = 0 ∧
    composites.union seconds &&& whiteSpace.points = 0 ∧
    composites.union composed &&& (whiteSpace.points ||| combiningClasses.points ||| Hangul.syllables) = 0 ∧
    composites.union composed ||| Category.table.points = Category.table.points ∧
    composites.union (Decomposition.plain composed) &&& Decomposition.compatibility.points = 0 := by
  decide +kernel

theorem composites_decomposition : composites.spans.all (fun s =>
    Nat.beq s.first s.last && s.value.all fun p =>
      decompositionOf p.2 == decompositionOf s.first ++ [Char.ofNat p.1]) = true := by
  decide +kernel

variable {a b c q : Char}

/-- What there is to say of a composite and the two characters that it is made of. -/
structure IsComposite (a b q : Char) : Prop where
  decomposition : canonicalDecomposition q = canonicalDecomposition a ++ [b]
  plain : IsPlain a → IsPlain q
  starter : combiningClass a = 0 ∧ combiningClass q = 0
  not_white : isWhiteSpace a = false ∧ isWhiteSpace b = false ∧ isWhiteSpace q = false
  visible : Text.isOther q = false

theorem decompositionOf_eq (h : Hangul.ofChar? c = none) :
    canonicalDecomposition c = decompositionOf c.toNat := by
  rw [canonicalDecomposition, h, Decomposition.find?, decompositionOf, Table.lookup_eq]
  cases Decomposition.canonical.find? c.toNat with
  | none => simp
  | some s => rfl

theorem canonicalDecomposition_of_syllables (h : 0xAC00 ≤ c.toNat ∧ c.toNat ≤ 0xD7A3) :
    canonicalDecomposition c = Char.ofNat (0x1100 + (c.toNat - 0xAC00) / 588) ::
      Char.ofNat (0x1161 + (c.toNat - 0xAC00) / 28 % 21) ::
        if (c.toNat - 0xAC00) % 28 = 0 then [] else [Char.ofNat (0x11A7 + (c.toNat - 0xAC00) % 28)] := by
  rw [canonicalDecomposition, Hangul.ofChar?, if_pos (show _ from ⟨h.1, Nat.lt_succ_of_le h.2⟩)]
  rfl

theorem Hangul.cases_of_compose? (h : Hangul.compose? a b = some q) :
    ((0x1100 ≤ a.toNat ∧ a.toNat ≤ 0x1112) ∧ (0x1161 ≤ b.toNat ∧ b.toNat ≤ 0x1175) ∧
      q = Char.ofNat (0xAC00 + ((a.toNat - 0x1100) * 21 + (b.toNat - 0x1161)) * 28)) ∨
    ((0xAC00 ≤ a.toNat ∧ a.toNat ≤ 0xD7A3) ∧ (a.toNat - 0xAC00) % 28 = 0 ∧
      (0x11A8 ≤ b.toNat ∧ b.toNat ≤ 0x11C2) ∧ q = Char.ofNat (a.toNat + (b.toNat - 0x11A7))) := by
  rw [Hangul.compose?] at h
  split at h
  next hr =>
    obtain ⟨hlead, hlead', hvowel, hvowel'⟩ := hr
    exact .inl ⟨⟨hlead, Nat.le_of_lt_succ hlead'⟩, ⟨hvowel, Nat.le_of_lt_succ hvowel'⟩,
      (Option.some.inj h).symm⟩
  next =>
    split at h
    next hr =>
      obtain ⟨hsyllable, hsyllable', hno, htrail, htrail'⟩ := hr
      have hend : syllableBase + syllableCount = 0xD7A4 ∧ trailBase + trailCount = 0x11C3 := ⟨rfl, rfl⟩
      exact .inr ⟨⟨hsyllable, by omega⟩, hno, ⟨htrail, by omega⟩, (Option.some.inj h).symm⟩
    next => cases h

theorem Hangul.syllables_of_compose? (h : Hangul.compose? a b = some q) :
    Hangul.syllables.testBit q.toNat = true := by
  have hofNat {n : Nat} (hn : 0xAC00 ≤ n ∧ n ≤ 0xD7A3) :
      Hangul.syllables.testBit (Char.ofNat n).toNat = true := by
    rw [Hangul.toNat_ofNat (by omega)]
    exact Hangul.testBit_syllables.2 hn
  rcases Hangul.cases_of_compose? h with ⟨hlead, hvowel, hq⟩ | ⟨hsyllable, hno, htrail, hq⟩
  · rw [hq]
    exact hofNat (by omega)
  · rw [hq]
    exact hofNat (by omega)

theorem isComposite_of_hangul (h : Hangul.compose? a b = some q) : IsComposite a b q := by
  have hletter {c : Char} (hc : (0x1100 ≤ c.toNat ∧ c.toNat ≤ 0x1112 ∨ 0x1161 ≤ c.toNat ∧ c.toNat ≤ 0x1175) ∨
      0x11A8 ≤ c.toNat ∧ c.toNat ≤ 0x11C2) := of_letters (Hangul.testBit_letters.2 hc)
  have hsyllable' {c : Char} (hc : 0xAC00 ≤ c.toNat ∧ c.toNat ≤ 0xD7A3) :=
    of_syllables (Hangul.testBit_syllables.2 hc)
  rcases Hangul.cases_of_compose? h with ⟨hlead, hvowel, hq⟩ | ⟨hsyllable, hno, htrail, hq⟩
  · generalize hn : 0xAC00 + ((a.toNat - 0x1100) * 21 + (b.toNat - 0x1161)) * 28 = n at hq
    subst hq
    have hrange : 0xAC00 ≤ n ∧ n ≤ 0xD7A3 := by omega
    have hn' := Hangul.toNat_ofNat (n := n) (by omega)
    obtain ⟨ha, hawhite, -, haclass⟩ := hletter (.inl (.inl hlead))
    obtain ⟨-, hbwhite, -⟩ := hletter (.inl (.inr hvowel))
    obtain ⟨hq, hqwhite, hqother, hqclass⟩ := hsyllable' (c := Char.ofNat n) (by rwa [hn'])
    refine ⟨?_, fun _ => hq, ⟨haclass, hqclass⟩, ⟨hawhite, hbwhite, hqwhite⟩, hqother⟩
    rw [ha.canonicalDecomposition_eq, canonicalDecomposition_of_syllables (by rwa [hn']), hn',
      if_pos (by omega), show 0x1100 + (n - 0xAC00) / 588 = a.toNat by omega,
      show 0x1161 + (n - 0xAC00) / 28 % 21 = b.toNat by omega, Char.ofNat_toNat, Char.ofNat_toNat]
    rfl
  · generalize hn : a.toNat + (b.toNat - 0x11A7) = n at hq
    subst hq
    have hrange : 0xAC00 ≤ n ∧ n ≤ 0xD7A3 := by omega
    have hn' := Hangul.toNat_ofNat (n := n) (by omega)
    obtain ⟨-, hbwhite, -⟩ := hletter (.inr htrail)
    obtain ⟨-, hawhite, -, haclass⟩ := hsyllable' hsyllable
    obtain ⟨hq, hqwhite, hqother, hqclass⟩ := hsyllable' (c := Char.ofNat n) (by rwa [hn'])
    refine ⟨?_, fun _ => hq, ⟨haclass, hqclass⟩, ⟨hawhite, hbwhite, hqwhite⟩, hqother⟩
    rw [canonicalDecomposition_of_syllables (by rwa [hn']), canonicalDecomposition_of_syllables hsyllable,
      hn', if_neg (by omega), if_pos (by omega),
      show (n - 0xAC00) / 588 = (a.toNat - 0xAC00) / 588 by omega,
      show (n - 0xAC00) / 28 % 21 = (a.toNat - 0xAC00) / 28 % 21 by omega,
      show 0x11A7 + (n - 0xAC00) % 28 = b.toNat by omega, Char.ofNat_toNat]
    rfl

theorem isComposite_of_mem {s : Span (List (Nat × Nat))} {n : Nat} (hs : s ∈ composites.spans)
    (ha : s.contains a.toNat = true) (hmem : (b.toNat, n) ∈ s.value) : IsComposite a b (Char.ofNat n) := by
  obtain ⟨hfirsts, hseconds, hcomposites, hshown, hplain⟩ := composite_tables
  have hdecomposition := List.all_eq_true.1 composites_decomposition s hs
  simp only [Bool.and_eq_true, Nat.beq_eq, List.all_eq_true, beq_iff_eq] at hdecomposition
  have hrange : s.first ≤ a.toNat ∧ a.toNat ≤ s.last := by simpa [Span.contains] using ha
  have hq : (composed s).testBit n = true := testBit_union.2 ⟨_, hmem, testBit_range.2 ⟨le_rfl, le_rfl⟩⟩
  have hb : (seconds s).testBit b.toNat = true := testBit_union.2 ⟨_, hmem, testBit_range.2 ⟨le_rfl, le_rfl⟩⟩
  have hvisible := testBit_of_lor_eq hshown (Table.testBit_union.2 ⟨s, hs, hq⟩)
  have hn := toNat_ofNat_of_visible hvisible
  rw [← hn] at hq hvisible
  have hfirst := testBit_of_land_eq_zero hfirsts (Table.testBit_points.2 ⟨s, hs, ha⟩)
  have hcomposite := testBit_of_land_eq_zero hcomposites (Table.testBit_union.2 ⟨s, hs, hq⟩)
  simp only [Nat.testBit_lor, Bool.or_eq_false_iff] at hfirst hcomposite
  refine ⟨?_, fun hc => ?_, ⟨combiningClass_eq_zero hfirst.1.2, combiningClass_eq_zero hcomposite.1.2⟩,
    ?_, isOther_of_visible hvisible⟩
  · rw [decompositionOf_eq (ofChar?_eq_none hcomposite.2), decompositionOf_eq (ofChar?_eq_none hfirst.2),
      hn, show a.toNat = s.first by omega, hdecomposition.2 (b.toNat, n) hmem, Char.ofNat_toNat]
  · rw [← plain_eq composed hc ha] at hq
    exact Table.find?_eq_none (testBit_of_land_eq_zero hplain (Table.testBit_union.2 ⟨s, hs, hq⟩))
  · simp only [isWhiteSpace_eq]
    exact ⟨hfirst.1.1, testBit_of_land_eq_zero hseconds (Table.testBit_union.2 ⟨s, hs, hb⟩), hcomposite.1.1⟩

theorem cases_of_compose? (h : compose? a b = some q) : Hangul.compose? a b = some q ∨
    ∃ s ∈ composites.spans, s.contains a.toNat = true ∧ ∃ n, (b.toNat, n) ∈ s.value ∧ q = Char.ofNat n := by
  rw [compose?] at h
  split at h
  next hq =>
    obtain rfl := Option.some.inj h
    exact .inl hq
  next =>
    obtain ⟨n, hn, rfl⟩ := Option.map_eq_some_iff.1 h
    obtain ⟨pairs, hpairs, hlookup⟩ := Option.bind_eq_some_iff.1 hn
    obtain ⟨s, hs, rfl⟩ := Option.map_eq_some_iff.1 hpairs
    obtain ⟨l, l', hl, -⟩ := List.lookup_eq_some_iff.1 hlookup
    refine .inr ⟨s, (Table.mem_spans_of_find? hs).1, Table.find?_contains hs, n, ?_, rfl⟩
    rw [hl]
    exact List.mem_append_right l List.mem_cons_self

theorem isComposite_of_compose? (h : compose? a b = some q) : IsComposite a b q := by
  rcases cases_of_compose? h with h | ⟨s, hs, ha, n, hmem, rfl⟩
  · exact isComposite_of_hangul h
  · exact isComposite_of_mem hs ha hmem

end ContentCode.Unicode
