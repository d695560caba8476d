import ContentCode.Proofs.CompositeTables

/-!
What the tables say of the characters that matter for similarity. They are the letters, numbers and
symbols; lower-case forms have none themselves, and are not decomposed unless the capitals are; and
a composite matters unless it begins with one of a few marks.
-/

namespace ContentCode.Unicode

open CodePoints

namespace Category

def counts : Category → Bool
  | .letter | .number | .symbol => true
  | .mark | .punctuation | .separator | .other => false

def members (p : Category → Bool) : Nat :=
  table.union fun s => bif p s.value then range s.first s.last else 0

def similar : Nat := members counts

theorem similar_tables : similar &&& (whiteSpace.points ||| members fun k => !counts k) = 0 ∧
    members (· == .separator) ||| whiteSpace.points = whiteSpace.points := by
  decide +kernel

theorem testBit_members {p : Category → Bool} {n : Nat} :
    (members p).testBit n = true ↔ ∃ s ∈ table.spans, p s.value = true ∧ s.contains n = true := by
  rw [members, Table.testBit_union]
  refine exists_congr fun s => and_congr_right fun _ => ?_
  cases p s.value with
  | false => simp
  | true => simp [testBit_range, Span.contains]

end Category

/-- The marks with which the composites begin that do not matter for similarity. -/
def idleFirsts : Nat := composites.union fun s =>
  bif Nat.beq (composed s ||| Category.similar) Category.similar then 0 else range s.first s.last

theorem composite_similar : Hangul.syllables ||| Category.similar = Category.similar ∧
    idleFirsts &&& (Category.similar ||| Decomposition.compatibility.union Decomposition.parts) = 0 := by
  decide +kernel

def canonicalPoints : Nat := Decomposition.canonical.points ||| Hangul.syllables

theorem canonical_tables : Decomposition.canonical.isPaged 0 = true ∧
    (Decomposition.canonical.union Decomposition.parts ||| Hangul.letters) &&& canonicalPoints = 0 ∧
    Decomposition.canonical.union Decomposition.parts ||| Category.table.points = Category.table.points := by
  decide +kernel

namespace CaseRun

def strides (s : Span CaseRun) : Nat :=
  CodePoints.union (fun i => range (s.value.step * i) (s.value.step * i))
    (List.range ((s.last - s.first) / s.value.step + 1))

def capitals : Nat := caseRuns.union fun s => Nat.shiftLeft (strides s) s.first

def smalls : Nat := caseRuns.union fun s => Nat.shiftLeft (strides s) s.value.lower

/-- No capital has a lower-case form in `points` unless it is there itself. -/
def keepsOut (points : Nat) : Bool :=
  (caseRuns.spans.all fun s =>
    Nat.beq (strides s &&& Nat.shiftRight points s.value.lower ||| Nat.shiftRight points s.first)
      (Nat.shiftRight points s.first)) &&
    [0x69, 0x307, 0x3C3, 0x3C2].all fun n => !points.testBit n

theorem smalls_tables : smalls &&& (capitals ||| range 0x130 0x130) = 0 ∧
    smalls ||| Category.table.points = Category.table.points ∧
    keepsOut canonicalPoints = true ∧ keepsOut Decomposition.points = true := by
  decide +kernel

end CaseRun

variable {a b c d q : Char} {points : Nat}

theorem matters_iff : Text.matters c = true ↔ Category.similar.testBit c.toNat = true := by
  obtain ⟨hdisjoint, hseparator⟩ := Category.similar_tables
  have hmatters : Text.matters c = true ↔ isWhiteSpace c = false ∧ Category.ofChar c ≠ .other ∧
      Category.ofChar c ≠ .mark ∧ Category.ofChar c ≠ .punctuation := by
    simp [Text.matters, Text.isOther, Text.isMarkOrPunctuation, and_assoc]
  have hfound {s : Span Category} (hs : Category.table.find? c.toNat = some s) :
      Category.ofChar c = s.value := by
    rw [Category.ofChar, Table.get?, hs]
    rfl
  rw [hmatters]
  constructor
  · rintro ⟨hwhite, hother, hmark, hpunctuation⟩
    cases hs : Category.table.find? c.toNat with
    | none =>
        rw [Category.ofChar, Table.get?, hs] at hother
        exact absurd rfl hother
    | some s =>
        have hspan := (Table.mem_spans_of_find? hs).1
        rw [hfound hs] at hother hmark hpunctuation
        refine Category.testBit_members.2 ⟨s, hspan, ?_, Table.find?_contains hs⟩
        cases hvalue : s.value with
        | letter | number | symbol => rfl
        | mark => exact absurd hvalue hmark
        | punctuation => exact absurd hvalue hpunctuation
        | other => exact absurd hvalue hother
        | separator =>
            have hseparated := Category.testBit_members (p := (· == .separator)).2
              ⟨s, hspan, by rw [hvalue]; rfl, Table.find?_contains hs⟩
            rw [isWhiteSpace_eq, testBit_of_lor_eq hseparator hseparated] at hwhite
            cases hwhite
  · intro hsimilar
    have hout := testBit_of_land_eq_zero hdisjoint hsimilar
    rw [Nat.testBit_lor, Bool.or_eq_false_iff] at hout
    obtain ⟨s, hspan, -, hcontains⟩ := Category.testBit_members.1 hsimilar
    obtain ⟨-, s', hs'⟩ := Table.exists_find? character_tables.1 hspan hcontains
    have hcounts : Category.counts s'.value = true := by
      by_contra hno
      have hidle := Category.testBit_members (p := fun k => !Category.counts k).2
        ⟨s', (Table.mem_spans_of_find? hs').1, by simpa using hno, Table.find?_contains hs'⟩
      rw [hout.2] at hidle
      cases hidle
    rw [isWhiteSpace_eq, hout.1, hfound hs']
    cases hvalue : s'.value with
    | letter | number | symbol => simp
    | mark | punctuation | separator | other =>
        rw [hvalue] at hcounts
        cases hcounts

theorem similar_visible {n : Nat} (h : Category.similar.testBit n = true) :
    Category.table.points.testBit n = true := by
  obtain ⟨s, hs, -, hn⟩ := Category.testBit_members.1 h
  exact Table.testBit_points.2 ⟨s, hs, hn⟩

/-- A composite matters for similarity, but for some that begin with a mark. -/
theorem matters_of_compose? (h : compose? a b = some q) (ha : idleFirsts.testBit a.toNat = false) :
    Text.matters q = true := by
  rw [matters_iff]
  rcases cases_of_compose? h with h | ⟨s, hs, hcontains, n, hn, rfl⟩
  · exact testBit_of_lor_eq composite_similar.1 (Hangul.syllables_of_compose? h)
  · have hcomposed : (composed s).testBit n = true :=
      testBit_union.2 ⟨_, hn, testBit_range.2 ⟨le_rfl, le_rfl⟩⟩
    cases hidle : Nat.beq (composed s ||| Category.similar) Category.similar with
    | true =>
        have hsimilar := testBit_of_lor_eq (Nat.eq_of_beq_eq_true hidle) hcomposed
        rwa [toNat_ofNat_of_visible (similar_visible hsimilar)]
    | false =>
        have hfirst : idleFirsts.testBit a.toNat = true := by
          refine Table.testBit_union.2 ⟨s, hs, ?_⟩
          rw [hidle, cond_false, testBit_range]
          simpa [Span.contains] using hcontains
        rw [ha] at hfirst
        cases hfirst

theorem not_idleFirst {n : Nat}
    (h : (Category.similar ||| Decomposition.compatibility.union Decomposition.parts).testBit n = true) :
    idleFirsts.testBit n = false := by
  rw [← Bool.not_eq_true]
  intro hidle
  rw [testBit_of_land_eq_zero composite_similar.2 hidle] at h
  cases h

theorem not_idleFirst_of_matters (h : Text.matters c = true) : idleFirsts.testBit c.toNat = false :=
  not_idleFirst (by rw [Nat.testBit_lor, matters_iff.1 h, Bool.true_or])

theorem not_idleFirst_of_mem (hc : ¬ IsPlain c) (h : d ∈ compatibilityDecomposition c) :
    idleFirsts.testBit d.toNat = false := by
  obtain ⟨i, hi⟩ := Option.ne_none_iff_exists'.1 hc
  have hcs : Decomposition.find? Decomposition.compatibility c = some (compatibilityDecomposition c) := by
    rw [compatibilityDecomposition, Decomposition.find?, hi]
    rfl
  obtain ⟨s, hs, -, v, rfl, hv⟩ := exists_of_mem_find? hcs h
  replace hv := Table.testBit_union.2 ⟨s, hs, hv⟩
  rw [toNat_ofNat_of_visible (testBit_of_lor_eq Decomposition.parts_tables.2.2.1 hv)]
  exact not_idleFirst (by rw [Nat.testBit_lor, hv, Bool.or_true])

theorem canonicalPoints_eq_false : canonicalPoints.testBit c.toNat = false ↔
    Decomposition.canonical.find? c.toNat = none ∧ Hangul.ofChar? c = none := by
  rw [canonicalPoints, Nat.testBit_lor, Bool.or_eq_false_iff, Table.find?_eq_none_iff canonical_tables.1]
  refine and_congr_right fun _ => ⟨ofChar?_eq_none, fun h => ?_⟩
  rw [← Bool.not_eq_true, Hangul.testBit_syllables]
  intro hrange
  rw [Hangul.ofChar?, if_pos (show _ from ⟨hrange.1, Nat.lt_succ_of_le hrange.2⟩)] at h
  cases h

theorem canonicalPoints_of_mem (h : d ∈ canonicalDecomposition c) :
    canonicalPoints.testBit d.toNat = false := by
  obtain ⟨-, hfull, hshown⟩ := canonical_tables
  rcases decomposition_cases c with ⟨i, hi, hcs⟩ | ⟨-, hcs⟩ | ⟨hi, hcanonical, hcs⟩
  · rw [hcs] at h
    exact testBit_of_land_eq_zero hfull (by rw [Nat.testBit_lor, letters_of_mem_decompose hi h, Bool.or_true])
  · obtain ⟨s, hs, -, v, rfl, hv⟩ := exists_of_mem_find? hcs h
    replace hv := Table.testBit_union.2 ⟨s, hs, hv⟩
    rw [toNat_ofNat_of_visible (testBit_of_lor_eq hshown hv)]
    exact testBit_of_land_eq_zero hfull (by rw [Nat.testBit_lor, hv, Bool.true_or])
  · rw [hcs, List.mem_singleton] at h
    subst h
    exact canonicalPoints_eq_false.2 ⟨hcanonical, hi⟩

theorem points_eq_false : Decomposition.points.testBit c.toNat = false ↔ IsDecomposed c := by
  refine ⟨isDecomposed_of_points, fun h => ?_⟩
  have hcanonical := canonicalPoints_eq_false.2 ⟨h.canonical, h.hangul⟩
  rw [canonicalPoints, Nat.testBit_lor, Bool.or_eq_false_iff] at hcanonical
  rw [Decomposition.points, Nat.testBit_lor, Nat.testBit_lor, points_of_isPlain h.plain, hcanonical.1,
    hcanonical.2]
  rfl

namespace CaseRun

theorem dottedCapital : lowerCase (Char.ofNat 0x69) = [Char.ofNat 0x69] ∧
    lowerCase (Char.ofNat 0x307) = [Char.ofNat 0x307] := by
  decide +kernel

theorem lowerCase_cases (c : Char) : lowerCase c = [c] ∨
    c.toNat = 0x130 ∧ lowerCase c = [Char.ofNat 0x69, Char.ofNat 0x307] ∨
    ∃ s ∈ caseRuns.spans, ∃ n, (strides s).testBit n = true ∧ c.toNat = s.first + n ∧
      lowerCase c = [Char.ofNat (s.value.lower + n)] := by
  by_cases hdot : c.toNat = 0x130
  · exact .inr (.inl ⟨hdot, if_pos hdot⟩)
  rw [lowerCase, if_neg hdot]
  cases hs : caseRuns.find? c.toNat with
  | none => exact .inl rfl
  | some s =>
      dsimp only
      by_cases hstep : (c.toNat - s.first) % s.value.step = 0
      · rw [if_pos hstep]
        obtain ⟨hspan, hfirst, hlast⟩ := Table.mem_spans_of_find? hs
        refine .inr (.inr ⟨s, hspan, c.toNat - s.first, ?_, by omega, rfl⟩)
        refine testBit_union.2 ⟨(c.toNat - s.first) / s.value.step, ?_, ?_⟩
        · exact List.mem_range.2 (Nat.lt_succ_of_le (Nat.div_le_div_right (by omega)))
        · rw [Nat.mul_div_cancel' (Nat.dvd_of_mod_eq_zero hstep), testBit_range]
          exact ⟨le_rfl, le_rfl⟩
      · exact .inl (if_neg hstep)

section run

variable {s : Span CaseRun} {n : Nat}

theorem smalls_of_strides (hs : s ∈ caseRuns.spans) (hn : (strides s).testBit n = true) :
    smalls.testBit (s.value.lower + n) = true ∧
      (Char.ofNat (s.value.lower + n)).toNat = s.value.lower + n := by
  have hsmall : smalls.testBit (s.value.lower + n) = true := by
    refine Table.testBit_union.2 ⟨s, hs, ?_⟩
    change (strides s <<< s.value.lower).testBit (s.value.lower + n) = true
    rw [Nat.testBit_shiftLeft, Nat.add_sub_cancel_left, hn]
    simp
  exact ⟨hsmall, toNat_ofNat_of_visible (testBit_of_lor_eq smalls_tables.2.1 hsmall)⟩

theorem capitals_of_strides (hs : s ∈ caseRuns.spans) (hn : (strides s).testBit n = true) :
    capitals.testBit (s.first + n) = true := by
  refine Table.testBit_union.2 ⟨s, hs, ?_⟩
  change (strides s <<< s.first).testBit (s.first + n) = true
  rw [Nat.testBit_shiftLeft, Nat.add_sub_cancel_left, hn]
  simp

end run

theorem lowerCase_of_smalls (h : smalls.testBit c.toNat = true) : lowerCase c = [c] := by
  have hcapital := testBit_of_land_eq_zero smalls_tables.1 h
  rw [Nat.testBit_lor, Bool.or_eq_false_iff] at hcapital
  rcases lowerCase_cases c with hself | ⟨hdot, -⟩ | ⟨s, hs, n, hn, hfirst, -⟩
  · exact hself
  · rw [hdot, testBit_range.2 ⟨le_rfl, le_rfl⟩] at hcapital
    cases hcapital.2
  · rw [hfirst, capitals_of_strides hs hn] at hcapital
    cases hcapital.1

theorem lowerCase_of_mem (h : d ∈ lowerCase c) : lowerCase d = [d] := by
  rcases lowerCase_cases c with hself | ⟨-, hdot⟩ | ⟨s, hs, n, hn, -, hrun⟩
  · rw [hself, List.mem_singleton] at h
    rwa [h]
  · rw [hdot, List.mem_pair] at h
    rcases h with rfl | rfl
    · exact dottedCapital.1
    · exact dottedCapital.2
  · rw [hrun, List.mem_singleton] at h
    subst h
    obtain ⟨hsmall, hcode⟩ := smalls_of_strides hs hn
    exact lowerCase_of_smalls (by rwa [hcode])

theorem testBit_of_mem_lowerCase (hpoints : keepsOut points = true) (hc : points.testBit c.toNat = false)
    (h : d ∈ lowerCase c) : points.testBit d.toNat = false := by
  rw [keepsOut, Bool.and_eq_true, List.all_eq_true] at hpoints
  obtain ⟨hruns, hothers⟩ := hpoints
  rcases lowerCase_cases c with hself | ⟨-, hdot⟩ | ⟨s, hs, n, hn, hfirst, hrun⟩
  · rw [hself, List.mem_singleton] at h
    rwa [h]
  · simp only [List.all_cons, Bool.and_eq_true, Bool.not_eq_true'] at hothers
    rw [hdot, List.mem_pair] at h
    rcases h with rfl | rfl
    · exact hothers.1
    · exact hothers.2.1
  · rw [hrun, List.mem_singleton] at h
    subst h
    rw [(smalls_of_strides hs hn).2, ← Bool.not_eq_true]
    intro hsmall
    have hcapital := testBit_of_lor_eq (n := n) (Nat.eq_of_beq_eq_true (hruns s hs)) (by
      rw [Nat.testBit_land, hn, Bool.true_and]
      change (points >>> s.value.lower).testBit n = true
      rwa [Nat.testBit_shiftRight])
    change (points >>> s.first).testBit n = true at hcapital
    rw [Nat.testBit_shiftRight, ← hfirst, hc] at hcapital
    cases hcapital

end CaseRun

end ContentCode.Unicode
