import ContentCode.Proofs.CodePointSets
import ContentCode.Proofs.SigmaFolding

/-!
What the tables say of decompositions. They are full, nothing visible is decomposed into characters
of no visible form, and canonical ones keep white space apart from everything else. The tables are
compared as sets of code points, whole spans at a time.
-/

namespace ContentCode.Unicode

open CodePoints

namespace Hangul

def syllables : Nat := range 0xAC00 0xD7A3

def letters : Nat := range 0x1100 0x1112 ||| range 0x1161 0x1175 ||| range 0x11A8 0x11C2

end Hangul

namespace Decomposition

def partsFrom (n : Nat) : List Nat → Nat
  | [] => 0
  | [v] => range v (v + n)
  | v :: vs => range v v ||| partsFrom n vs

def parts (s : Span (List Nat)) : Nat := partsFrom (s.last - s.first) s.value

def points : Nat := compatibility.points ||| canonical.points ||| Hangul.syllables

/-- The set of a span, if that has more than characters with compatibility decompositions. -/
def plain {α : Type} (f : Span α → Nat) (s : Span α) : Nat :=
  bif Nat.beq (range s.first s.last ||| compatibility.points) compatibility.points then 0 else f s

theorem parts_tables : compatibility.isPaged 0 = true ∧
    compatibility.union parts &&& points = 0 ∧
    compatibility.union parts ||| Category.table.points = Category.table.points ∧
    canonical.union (plain parts) &&& (points ||| whiteSpace.points) = 0 ∧
    canonical.union (plain parts) ||| Category.table.points = Category.table.points := by
  decide +kernel

end Decomposition

theorem character_tables : Category.table.isPaged 0 = true ∧
    (Category.table.spans.all fun s => s.value != .other &&
      (Nat.blt s.last 0xD800 || Nat.blt 0xDFFF s.first && Nat.blt s.last 0x110000)) = true ∧
    whiteSpace.isPaged 0 = true ∧
    (whiteSpace.points &&& Decomposition.points) ||| Decomposition.compatibility.points =
      Decomposition.compatibility.points := by
  decide +kernel

theorem hangul_points :
    Hangul.syllables &&& (whiteSpace.points ||| combiningClasses.points |||
      Decomposition.compatibility.points) = 0 ∧
    (Hangul.syllables ||| Hangul.letters) ||| Category.table.points = Category.table.points ∧
    Hangul.letters &&& (whiteSpace.points ||| combiningClasses.points ||| Decomposition.points) = 0 := by
  decide +kernel

variable {c d : Char} {n : Nat}

theorem isWhiteSpace_eq (c : Char) : isWhiteSpace c = whiteSpace.points.testBit c.toNat := by
  rw [isWhiteSpace, Table.get?, Option.isSome_map]
  cases hs : whiteSpace.find? c.toNat with
  | none => rw [(Table.find?_eq_none_iff character_tables.2.2.1).1 hs, Option.isSome_none]
  | some s => rw [Table.testBit_points_of_find? hs, Option.isSome_some]

theorem combiningClass_eq_zero (h : combiningClasses.points.testBit c.toNat = false) :
    combiningClass c = 0 := by
  rw [combiningClass, Table.get?, Table.find?_eq_none h]
  rfl

theorem toNat_ofNat_of_visible (h : Category.table.points.testBit n = true) :
    (Char.ofNat n).toNat = n := by
  obtain ⟨s, hs, hn⟩ := Table.testBit_points.1 h
  have htable := List.all_eq_true.1 character_tables.2.1 s hs
  simp only [Bool.and_eq_true, Bool.or_eq_true, Nat.blt_eq] at htable
  have hrange : s.first ≤ n ∧ n ≤ s.last := by simpa [Span.contains] using hn
  have hvalid : n.isValidChar := by
    rw [Nat.isValidChar]
    omega
  rw [Char.ofNat, dif_pos hvalid]
  rfl

theorem isOther_of_visible (h : Category.table.points.testBit c.toNat = true) : Text.isOther c = false := by
  cases hs : Category.table.find? c.toNat with
  | none =>
      rw [(Table.find?_eq_none_iff character_tables.1).1 hs] at h
      cases h
  | some s =>
      have htable := List.all_eq_true.1 character_tables.2.1 s (Table.mem_spans_of_find? hs).1
      rw [Bool.and_eq_true, bne_iff_ne] at htable
      rw [Text.isOther, Category.ofChar, Table.get?, hs]
      exact decide_eq_false htable.1

/-- A character that has no decomposition but canonical ones. -/
def IsPlain (c : Char) : Prop := Decomposition.compatibility.find? c.toNat = none

structure IsDecomposed (c : Char) : Prop where
  plain : IsPlain c
  canonical : Decomposition.canonical.find? c.toNat = none
  hangul : Hangul.ofChar? c = none

theorem points_of_isPlain (hc : IsPlain c) : Decomposition.compatibility.points.testBit c.toNat = false :=
  (Table.find?_eq_none_iff Decomposition.parts_tables.1).1 hc

theorem IsPlain.decomposition (h : IsPlain c) : compatibilityDecomposition c = canonicalDecomposition c := by
  rw [compatibilityDecomposition, Decomposition.find?, h]
  rfl

theorem IsDecomposed.canonicalDecomposition_eq (h : IsDecomposed c) : canonicalDecomposition c = [c] := by
  rw [canonicalDecomposition, h.hangul, Decomposition.find?, h.canonical]
  rfl

theorem IsDecomposed.compatibilityDecomposition_eq (h : IsDecomposed c) :
    compatibilityDecomposition c = [c] := by
  rw [h.plain.decomposition, h.canonicalDecomposition_eq]

theorem Hangul.testBit_syllables : Hangul.syllables.testBit n = true ↔ 0xAC00 ≤ n ∧ n ≤ 0xD7A3 :=
  testBit_range

theorem Hangul.testBit_letters : Hangul.letters.testBit n = true ↔
    (0x1100 ≤ n ∧ n ≤ 0x1112 ∨ 0x1161 ≤ n ∧ n ≤ 0x1175) ∨ 0x11A8 ≤ n ∧ n ≤ 0x11C2 := by
  simp only [Hangul.letters, Nat.testBit_lor, Bool.or_eq_true, testBit_range]

theorem syllables_of_ofChar? {i : Hangul} (h : Hangul.ofChar? c = some i) :
    Hangul.syllables.testBit c.toNat = true := by
  rw [Hangul.ofChar?] at h
  split at h
  next hrange =>
    exact Hangul.testBit_syllables.2 ⟨hrange.1, Nat.le_of_lt_succ hrange.2⟩
  next => cases h

theorem ofChar?_eq_none (h : Hangul.syllables.testBit c.toNat = false) : Hangul.ofChar? c = none := by
  cases hi : Hangul.ofChar? c with
  | none => rfl
  | some i =>
      rw [syllables_of_ofChar? hi] at h
      cases h

theorem isDecomposed_of_points (h : Decomposition.points.testBit c.toNat = false) : IsDecomposed c := by
  simp only [Decomposition.points, Nat.testBit_lor, Bool.or_eq_false_iff] at h
  exact ⟨Table.find?_eq_none h.1.1, Table.find?_eq_none h.1.2, ofChar?_eq_none h.2⟩

theorem exists_of_mem_advance {k : Nat} {vs : List Nat} (h : d ∈ Decomposition.advance k vs) (hk : k ≤ n) :
    ∃ v, (Decomposition.partsFrom n vs).testBit v = true ∧ d = Char.ofNat v := by
  fun_induction Decomposition.advance k vs with
  | case1 => cases h
  | case2 v =>
      obtain rfl := List.mem_singleton.1 h
      exact ⟨v + k, testBit_range.2 ⟨Nat.le_add_right v k, Nat.add_le_add_left hk v⟩, rfl⟩
  | case3 v vs hne ih =>
      rw [Decomposition.partsFrom]
      · simp only [Nat.testBit_lor, Bool.or_eq_true, testBit_range]
        rcases List.mem_cons.1 h with rfl | h
        · exact ⟨v, .inl ⟨le_rfl, le_rfl⟩, rfl⟩
        · obtain ⟨w, hw, rfl⟩ := ih h
          exact ⟨w, .inr hw, rfl⟩
      · exact hne

theorem exists_of_mem_find? {t : Table (List Nat)} {cs : List Char} (h : Decomposition.find? t c = some cs)
    (hd : d ∈ cs) : ∃ s ∈ t.spans, s.contains c.toNat = true ∧ ∃ v, d = Char.ofNat v ∧
      (Decomposition.parts s).testBit v = true := by
  obtain ⟨s, hs, rfl⟩ := Option.map_eq_some_iff.1 h
  obtain ⟨hspan, hfirst, hlast⟩ := Table.mem_spans_of_find? hs
  obtain ⟨v, hv, hd⟩ := exists_of_mem_advance hd (Nat.sub_le_sub_right hlast s.first)
  exact ⟨s, hspan, Table.find?_contains hs, v, hd, hv⟩

theorem Hangul.toNat_ofNat (h : n < 0xD800) : (Char.ofNat n).toNat = n := by
  rw [Char.ofNat, dif_pos (.inl h)]
  rfl

theorem letters_of_mem_decompose {i : Hangul} (h : Hangul.ofChar? c = some i) (hd : d ∈ i.decompose) :
    Hangul.letters.testBit d.toNat = true := by
  have hcounts : i.lead < 19 ∧ i.vowel < 21 ∧ i.trail < 28 := by
    rw [Hangul.ofChar?] at h
    split at h
    next hrange =>
      obtain rfl := Option.some.inj h
      simp only [Hangul.syllableBase, Hangul.syllableCount, Hangul.leadCount, Hangul.vowelCount,
        Hangul.trailCount] at hrange ⊢
      omega
    next => cases h
  have hletter : d = Char.ofNat (0x1100 + i.lead) ∨ d = Char.ofNat (0x1161 + i.vowel) ∨
      0 < i.trail ∧ d = Char.ofNat (0x11A7 + i.trail) := by
    rw [Hangul.decompose] at hd
    split at hd
    next => exact (List.mem_cons.1 hd).imp_right fun hd => .inl (List.mem_singleton.1 hd)
    next htrail =>
      simp only [List.mem_cons, List.not_mem_nil, or_false] at hd
      exact hd.imp_right (.imp_right fun hd => ⟨Nat.pos_of_ne_zero htrail, hd⟩)
  rw [Hangul.testBit_letters]
  rcases hletter with rfl | rfl | ⟨htrail, rfl⟩ <;> rw [Hangul.toNat_ofNat (by omega)] <;> omega

theorem of_mem_compatibility {cs : List Char}
    (h : Decomposition.find? Decomposition.compatibility c = some cs) (hd : d ∈ cs) :
    IsDecomposed d ∧ Text.isOther d = false := by
  obtain ⟨s, hs, -, v, rfl, hv⟩ := exists_of_mem_find? h hd
  obtain ⟨-, hfull, hshown, -⟩ := Decomposition.parts_tables
  replace hv := Table.testBit_union.2 ⟨s, hs, hv⟩
  have hvisible := testBit_of_lor_eq hshown hv
  have hcode := toNat_ofNat_of_visible hvisible
  rw [← hcode] at hvisible hv
  exact ⟨isDecomposed_of_points (testBit_of_land_eq_zero hfull hv), isOther_of_visible hvisible⟩

theorem plain_eq {α : Type} (f : Span α → Nat) {s : Span α} (hc : IsPlain c) (hs : s.contains c.toNat = true) :
    Decomposition.plain f s = f s := by
  have hrange : s.first ≤ c.toNat ∧ c.toNat ≤ s.last := by simpa [Span.contains] using hs
  have houtside : ¬ Nat.beq (range s.first s.last ||| Decomposition.compatibility.points)
      Decomposition.compatibility.points = true := by
    intro hinside
    have hmem := testBit_of_lor_eq (Nat.eq_of_beq_eq_true hinside) (testBit_range.2 hrange)
    rw [points_of_isPlain hc] at hmem
    cases hmem
  rw [Decomposition.plain, Bool.eq_false_iff.2 houtside, cond_false]

theorem of_mem_canonical {cs : List Char} (hc : IsPlain c)
    (h : Decomposition.find? Decomposition.canonical c = some cs) (hd : d ∈ cs) :
    IsDecomposed d ∧ isWhiteSpace d = false ∧ Text.isOther d = false := by
  obtain ⟨s, hs, hcontains, v, rfl, hv⟩ := exists_of_mem_find? h hd
  obtain ⟨-, -, -, hfull, hshown⟩ := Decomposition.parts_tables
  rw [← plain_eq Decomposition.parts hc hcontains] at hv
  replace hv := Table.testBit_union.2 ⟨s, hs, hv⟩
  have hvisible := testBit_of_lor_eq hshown hv
  have hcode := toNat_ofNat_of_visible hvisible
  rw [← hcode] at hvisible hv
  have hneither := testBit_of_land_eq_zero hfull hv
  rw [Nat.testBit_lor, Bool.or_eq_false_iff] at hneither
  exact ⟨isDecomposed_of_points hneither.1, by rw [isWhiteSpace_eq, hneither.2], isOther_of_visible hvisible⟩

theorem of_letters (h : Hangul.letters.testBit d.toNat = true) :
    IsDecomposed d ∧ isWhiteSpace d = false ∧ Text.isOther d = false ∧ combiningClass d = 0 := by
  have hnone := testBit_of_land_eq_zero hangul_points.2.2 h
  simp only [Nat.testBit_lor, Bool.or_eq_false_iff] at hnone
  refine ⟨isDecomposed_of_points hnone.2, by rw [isWhiteSpace_eq, hnone.1.1],
    isOther_of_visible (testBit_of_lor_eq hangul_points.2.1 ?_), combiningClass_eq_zero hnone.1.2⟩
  rw [Nat.testBit_lor, h, Bool.or_true]

theorem of_syllables (h : Hangul.syllables.testBit c.toNat = true) :
    IsPlain c ∧ isWhiteSpace c = false ∧ Text.isOther c = false ∧ combiningClass c = 0 := by
  have hnone := testBit_of_land_eq_zero hangul_points.1 h
  simp only [Nat.testBit_lor, Bool.or_eq_false_iff] at hnone
  refine ⟨Table.find?_eq_none hnone.2, by rw [isWhiteSpace_eq, hnone.1.1],
    isOther_of_visible (testBit_of_lor_eq hangul_points.2.1 ?_), combiningClass_eq_zero hnone.1.2⟩
  rw [Nat.testBit_lor, h, Bool.true_or]

/-- A character is decomposed in one of three ways, or not at all. -/
theorem decomposition_cases (c : Char) :
    (∃ i, Hangul.ofChar? c = some i ∧ canonicalDecomposition c = i.decompose) ∨
    (Hangul.ofChar? c = none ∧
      Decomposition.find? Decomposition.canonical c = some (canonicalDecomposition c)) ∨
    (Hangul.ofChar? c = none ∧ Decomposition.canonical.find? c.toNat = none ∧
      canonicalDecomposition c = [c]) := by
  cases hi : Hangul.ofChar? c with
  | some i =>
      refine .inl ⟨i, rfl, ?_⟩
      rw [canonicalDecomposition, hi]
  | none =>
      rw [canonicalDecomposition, hi]
      cases hs : Decomposition.canonical.find? c.toNat with
      | some s => exact .inr (.inl ⟨rfl, by simp [Decomposition.find?, hs]⟩)
      | none => exact .inr (.inr ⟨rfl, rfl, by simp [Decomposition.find?, hs]⟩)

theorem canonical_of_isWhiteSpace (hc : IsPlain c) (hwhite : isWhiteSpace c = true) : IsDecomposed c := by
  refine isDecomposed_of_points (Bool.eq_false_iff.2 fun hpoints => ?_)
  rw [isWhiteSpace_eq] at hwhite
  have hmem := testBit_of_lor_eq (n := c.toNat) character_tables.2.2.2 (by
    rw [Nat.testBit_land, hwhite, hpoints]
    rfl)
  rw [points_of_isPlain hc] at hmem
  cases hmem

/-- What a plain character is decomposed into is not decomposed further, and is white space or not
as the character is. -/
theorem of_mem_canonicalDecomposition (hc : IsPlain c) (hd : d ∈ canonicalDecomposition c) :
    IsDecomposed d ∧ isWhiteSpace d = isWhiteSpace c ∧ (Text.isOther c = false → Text.isOther d = false) := by
  rcases decomposition_cases c with ⟨i, hi, hcs⟩ | ⟨hi, hcs⟩ | ⟨hi, hcanonical, hcs⟩
  · rw [hcs] at hd
    obtain ⟨hdecomposed, hwhite, hother, -⟩ := of_letters (letters_of_mem_decompose hi hd)
    exact ⟨hdecomposed, by rw [hwhite, (of_syllables (syllables_of_ofChar? hi)).2.1], fun _ => hother⟩
  · obtain ⟨hdecomposed, hwhite, hother⟩ := of_mem_canonical hc hcs hd
    refine ⟨hdecomposed, ?_, fun _ => hother⟩
    cases hc' : isWhiteSpace c with
    | false => exact hwhite
    | true =>
        rw [Decomposition.find?, (canonical_of_isWhiteSpace hc hc').canonical] at hcs
        cases hcs
  · rw [hcs, List.mem_singleton] at hd
    subst hd
    exact ⟨⟨hc, hcanonical, hi⟩, rfl, id⟩

theorem isDecomposed_of_mem (h : d ∈ compatibilityDecomposition c) : IsDecomposed d := by
  cases hcs : Decomposition.find? Decomposition.compatibility c with
  | some cs =>
      rw [compatibilityDecomposition, hcs] at h
      exact (of_mem_compatibility hcs h).1
  | none =>
      have hplain : IsPlain c := Option.map_eq_none_iff.1 hcs
      rw [hplain.decomposition] at h
      exact (of_mem_canonicalDecomposition hplain h).1

theorem isOther_of_mem (hc : Text.isOther c = false) (h : d ∈ compatibilityDecomposition c) :
    Text.isOther d = false := by
  cases hcs : Decomposition.find? Decomposition.compatibility c with
  | some cs =>
      rw [compatibilityDecomposition, hcs] at h
      exact (of_mem_compatibility hcs h).2
  | none =>
      have hplain : IsPlain c := Option.map_eq_none_iff.1 hcs
      rw [hplain.decomposition] at h
      exact (of_mem_canonicalDecomposition hplain h).2.2 hc

end ContentCode.Unicode
