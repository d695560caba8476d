import Mathlib.Data.List.Basic
import ContentCode.Text

/-!
What the tables say of the characters that a collapsed text loses: marks of a combining class above
zero, which a decomposition puts in order, and white space.
-/

namespace ContentCode.Unicode

variable {α : Type}

/-- `P` holds of what every code point from `first` to `last` is looked up as, where spans are looked
up instead of the code points in them. -/
def Span.forallIn (P : Option α → Bool) (first last : Nat) : List (Span α) → Bool
  | [] => P none
  | s :: spans =>
    bif Nat.blt last s.first || Nat.blt s.last first then forallIn P first last spans
    else P (some s.value) && (Nat.ble s.first first || forallIn P first (s.first - 1) spans) &&
      (Nat.ble last s.last || forallIn P (s.last + 1) last spans)

def Table.forallIn (P : Option α → Bool) (first last : Nat) : Table α → Bool
  | [] => P none
  | p :: pages =>
    bif Nat.ble last p.last then Span.forallIn P first last p.spans
    else bif Nat.blt p.last first then forallIn P first last pages
    else Span.forallIn P first p.last p.spans && forallIn P (p.last + 1) last pages

def Table.spans (t : Table α) : List (Span α) := t.flatMap Page.spans

section lookup

variable {P : Option α → Bool} {first last n : Nat} {t : Table α}

theorem Span.of_forallIn {spans : List (Span α)} (h : forallIn P first last spans = true)
    (hfirst : first ≤ n) (hlast : n ≤ last) : P ((spans.find? (·.contains n)).map value) = true := by
  induction spans generalizing first last with
  | nil => exact h
  | cons s spans ih =>
      have hcontains : s.contains n = true ↔ s.first ≤ n ∧ n ≤ s.last := by simp [contains]
      rw [forallIn] at h
      cases hout : (Nat.blt last s.first || Nat.blt s.last first) with
      | true =>
          rw [hout] at h
          have hno : s.contains n = false := by
            rw [← Bool.not_eq_true, hcontains]
            simp only [Bool.or_eq_true, Nat.blt_eq] at hout
            omega
          rw [List.find?_cons, hno]
          exact ih h hfirst hlast
      | false =>
          rw [hout] at h
          simp only [cond_false, Bool.and_eq_true, Bool.or_eq_true, Nat.ble_eq] at h
          obtain ⟨⟨hvalue, hbefore⟩, hbehind⟩ := h
          rw [List.find?_cons]
          cases hn : s.contains n with
          | true => exact hvalue
          | false =>
              rw [← Bool.not_eq_true, hcontains] at hn
              by_cases hlt : n < s.first
              · exact ih (hbefore.resolve_left (by omega)) hfirst (by omega)
              · exact ih (hbehind.resolve_left (by omega)) (by omega) hlast

theorem Table.of_forallIn (h : t.forallIn P first last = true) (hfirst : first ≤ n) (hlast : n ≤ last) :
    P ((t.find? n).map Span.value) = true := by
  induction t generalizing first last with
  | nil => exact h
  | cons p pages ih =>
      rw [forallIn] at h
      cases hend : Nat.ble last p.last with
      | true =>
          rw [hend] at h
          rw [Nat.ble_eq] at hend
          rw [find?, if_pos (by omega)]
          exact Span.of_forallIn h hfirst hlast
      | false =>
          rw [hend] at h
          cases hstart : Nat.blt p.last first with
          | true =>
              rw [hstart] at h
              rw [Nat.blt_eq] at hstart
              rw [find?, if_neg (by omega)]
              exact ih h hfirst hlast
          | false =>
              rw [hstart] at h
              simp only [cond_false, Bool.and_eq_true] at h
              rw [find?]
              split
              next hle => exact Span.of_forallIn h.1 hfirst hle
              next hgt => exact ih h.2 (by omega) hlast

theorem Table.mem_spans_of_find? {s : Span α} (h : t.find? n = some s) :
    s ∈ t.spans ∧ s.first ≤ n ∧ n ≤ s.last := by
  refine ⟨?_, by simpa [Span.contains] using find?_contains h⟩
  induction t with
  | nil => cases h
  | cons p pages ih =>
      rw [spans, List.flatMap_cons, List.mem_append]
      rw [find?] at h
      split at h
      · exact .inl (List.mem_of_find?_eq_some h)
      · exact .inr (ih h)

end lookup

end ContentCode.Unicode

namespace ContentCode.Text

open Unicode

def matters (c : Char) : Bool := !isWhiteSpace c && !isOther c && !isMarkOrPunctuation c

/-- A character that leaves nothing in a collapsed text. -/
structure IsDropped (c : Char) : Prop where
  lower : (lowerCase c).filter matters = []
  ne_sigma : c ≠ 'Σ'

theorem mark_tables : combiningClasses.spans.all (fun s =>
    (Category.table.forallIn (· == some .mark) s.first s.last &&
      caseRuns.forallIn Option.isNone s.first s.last) &&
    (casedTable.forallIn Option.isNone s.first s.last ||
      caseIgnorableTable.forallIn Option.isSome s.first s.last)) = true := by
  decide +kernel

theorem combiningClass_capitals : combiningClass 'İ' = 0 ∧ combiningClass 'Σ' = 0 := ⟨rfl, rfl⟩

theorem matters_of_mark {c : Char} (h : Category.ofChar c = .mark) : matters c = false := by
  rw [matters, isMarkOrPunctuation, h]
  simp

theorem isDropped_of_combiningClass_pos {c : Char} (h : 0 < combiningClass c) :
    IsDropped c ∧ (isCaseIgnorable c = true ∨ isCased c = false) := by
  have hne {d : Char} (hd : combiningClass d = 0) : c ≠ d := by
    rintro rfl
    omega
  obtain ⟨s, hs⟩ : ∃ s, combiningClasses.find? c.toNat = some s := by
    by_contra hnone
    rw [not_exists] at hnone
    rw [combiningClass, Table.get?, Option.eq_none_iff_forall_ne_some.2 hnone] at h
    exact Nat.lt_irrefl 0 h
  obtain ⟨hspan, hfirst, hlast⟩ := Table.mem_spans_of_find? hs
  have htables := List.all_eq_true.1 mark_tables s hspan
  simp only [Bool.and_eq_true, Bool.or_eq_true] at htables
  obtain ⟨⟨hcategory, hlower⟩, hcased⟩ := htables
  have hmark : Category.ofChar c = .mark := by
    have hvalue : Category.table.get? c = some .mark := by
      simpa [Table.get?] using Table.of_forallIn hcategory hfirst hlast
    rw [Category.ofChar, hvalue]
    rfl
  have hself : lowerCase c = [c] := by
    have hrun : caseRuns.find? c.toNat = none := by
      simpa using Table.of_forallIn hlower hfirst hlast
    have hdot : c.toNat ≠ 0x130 := fun he =>
      hne combiningClass_capitals.1 (Char.toNat_inj.1 he)
    rw [lowerCase, if_neg hdot, hrun]
  refine ⟨⟨?_, hne combiningClass_capitals.2⟩, ?_⟩
  · rw [hself, List.filter_cons_of_neg (by simp [matters_of_mark hmark]), List.filter_nil]
  · rcases hcased with hcased | hignorable
    · right
      simpa [isCased, Table.get?] using Table.of_forallIn hcased hfirst hlast
    · exact .inl (Table.of_forallIn hignorable hfirst hlast)

/-- A character that stands on its own between words, and leaves nothing in a collapsed text. -/
structure IsSeparator (c : Char) : Prop where
  dropped : IsDropped c
  starter : combiningClass c = 0
  not_cased : isCased c = false
  not_ignorable : isCaseIgnorable c = false

instance (c : Char) : Decidable (IsSeparator c) :=
  decidable_of_iff (((lowerCase c).filter matters = [] ∧ c ≠ 'Σ') ∧ combiningClass c = 0 ∧
    isCased c = false ∧ isCaseIgnorable c = false)
    ⟨fun h => ⟨⟨h.1.1, h.1.2⟩, h.2.1, h.2.2.1, h.2.2.2⟩, fun h => ⟨⟨h.1.1, h.1.2⟩, h.2, h.3, h.4⟩⟩

theorem whiteSpace_table : whiteSpace.spans.all (fun s =>
    (List.range' s.first (s.last + 1 - s.first)).all fun n =>
      (canonicalDecomposition (Char.ofNat n)).length = 1 &&
        (canonicalDecomposition (Char.ofNat n)).all fun c => decide (IsSeparator c)) = true := by
  decide +kernel

theorem exists_separator {w : Char} (h : isWhiteSpace w = true) :
    ∃ c, canonicalDecomposition w = [c] ∧ IsSeparator c := by
  rw [isWhiteSpace, Table.get?, Option.isSome_map] at h
  obtain ⟨s, hs⟩ := Option.isSome_iff_exists.1 h
  obtain ⟨hspan, hfirst, hlast⟩ := Table.mem_spans_of_find? hs
  have htable := List.all_eq_true.1 (List.all_eq_true.1 whiteSpace_table s hspan) w.toNat
    (List.mem_range'_1.2 ⟨hfirst, by omega⟩)
  rw [Char.ofNat_toNat, Bool.and_eq_true, decide_eq_true_eq, List.length_eq_one_iff] at htable
  obtain ⟨⟨c, hc⟩, hall⟩ := htable
  rw [hc] at hall
  exact ⟨c, hc, by simpa using hall⟩

end ContentCode.Text
