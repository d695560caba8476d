import Mathlib.Data.Nat.Bitwise
import ContentCode.Proofs.CharacterClasses

/-!
Sets of code points. A set is a number that has a bit for each of its members, so that sets of
thousands of ranges are compared by a few operations on numbers.
-/

namespace ContentCode.Unicode

namespace CodePoints

def range (first last : Nat) : Nat :=
  Nat.shiftLeft (Nat.sub (Nat.pow 2 (Nat.sub (Nat.succ last) first)) 1) first

def union {α : Type} (f : α → Nat) : List α → Nat
  | [] => 0
  | a :: l => Nat.lor (f a) (union f l)

variable {α : Type} {f : α → Nat} {l : List α} {points points' first last n : Nat}

theorem testBit_range : (range first last).testBit n = true ↔ first ≤ n ∧ n ≤ last := by
  change ((2 ^ (last + 1 - first) - 1) <<< first).testBit n = true ↔ first ≤ n ∧ n ≤ last
  rw [Nat.testBit_shiftLeft, Nat.testBit_two_pow_sub_one, Bool.and_eq_true, decide_eq_true_eq,
    decide_eq_true_eq]
  omega

theorem testBit_union : (union f l).testBit n = true ↔ ∃ a ∈ l, (f a).testBit n = true := by
  induction l with
  | nil => simp [union]
  | cons a l ih =>
      change (f a ||| union f l).testBit n = true ↔ _
      rw [Nat.testBit_lor, Bool.or_eq_true, ih, List.exists_mem_cons_iff]

theorem testBit_of_lor_eq (h : points ||| points' = points') (hn : points.testBit n = true) :
    points'.testBit n = true := by
  rw [← h, Nat.testBit_lor, hn]
  rfl

theorem testBit_of_land_eq_zero (h : points &&& points' = 0) (hn : points.testBit n = true) :
    points'.testBit n = false := by
  have hbit := Nat.testBit_land points points' n
  rw [h, Nat.zero_testBit, hn, Bool.true_and] at hbit
  exact hbit.symm

end CodePoints

open CodePoints

namespace Table

variable {α : Type} {t : Table α} {s : Span α} {n : Nat}

def union (f : Span α → Nat) (t : Table α) : Nat := CodePoints.union (fun p => CodePoints.union f p.spans) t

theorem testBit_union {f : Span α → Nat} :
    (t.union f).testBit n = true ↔ ∃ s ∈ t.spans, (f s).testBit n = true := by
  simp only [union, CodePoints.testBit_union, spans, List.mem_flatMap]
  constructor
  · rintro ⟨p, hp, s, hs, hn⟩
    exact ⟨s, ⟨p, hp, hs⟩, hn⟩
  · rintro ⟨s, ⟨p, hp, hs⟩, hn⟩
    exact ⟨p, hp, s, hs, hn⟩

def points (t : Table α) : Nat := t.union fun s => range s.first s.last

theorem testBit_points : t.points.testBit n = true ↔ ∃ s ∈ t.spans, s.contains n = true := by
  simp only [points, testBit_union, testBit_range, Span.contains, Bool.and_eq_true, decide_eq_true_eq]

theorem testBit_points_of_find? (h : t.find? n = some s) : t.points.testBit n = true :=
  testBit_points.2 ⟨s, (mem_spans_of_find? h).1, find?_contains h⟩

theorem find?_eq_none (h : t.points.testBit n = false) : t.find? n = none := by
  cases hs : t.find? n with
  | none => rfl
  | some s =>
      rw [testBit_points_of_find? hs] at h
      cases h

/-- Each page keeps to the code points above the one before. -/
def isPaged (first : Nat) : Table α → Bool
  | [] => true
  | p :: pages => Nat.ble first p.last &&
      p.spans.all (fun s => Nat.ble first s.first && Nat.ble s.last p.last) && isPaged (p.last + 1) pages

theorem exists_find? {first : Nat} (ht : t.isPaged first = true) (hs : s ∈ t.spans)
    (hn : s.contains n = true) : first ≤ n ∧ ∃ s, t.find? n = some s := by
  induction t generalizing first with
  | nil => cases hs
  | cons p pages ih =>
      simp only [isPaged, Bool.and_eq_true, List.all_eq_true, Nat.ble_eq] at ht
      obtain ⟨⟨hfirst, hpage⟩, hpages⟩ := ht
      rw [spans, List.flatMap_cons, List.mem_append] at hs
      rw [find?]
      rcases hs with hs | hs
      · have hrange : s.first ≤ n ∧ n ≤ s.last := by simpa [Span.contains] using hn
        have hlast := (hpage s hs).2
        refine ⟨(hpage s hs).1.trans hrange.1, ?_⟩
        rw [if_pos (hrange.2.trans hlast)]
        exact Option.isSome_iff_exists.1 (List.find?_isSome.2 ⟨s, hs, hn⟩)
      · obtain ⟨hlast, hfind⟩ := ih hpages hs
        exact ⟨by omega, by rwa [if_neg (by omega)]⟩

theorem find?_eq_none_iff {first : Nat} (ht : t.isPaged first = true) :
    t.find? n = none ↔ t.points.testBit n = false := by
  refine ⟨fun h => ?_, find?_eq_none⟩
  rw [← Bool.not_eq_true, testBit_points]
  rintro ⟨s, hs, hn⟩
  obtain ⟨-, s', hs'⟩ := exists_find? ht hs hn
  rw [h] at hs'
  cases hs'

/-- The look-up of a span, with comparisons that come to an end soon. -/
def lookup (n : Nat) : Table α → Option (Span α)
  | [] => none
  | p :: pages =>
    bif Nat.ble n p.last then p.spans.find? fun s => Nat.ble n s.last && Nat.ble s.first n
    else lookup n pages

theorem lookup_eq (n : Nat) (t : Table α) : t.lookup n = t.find? n := by
  have hcontains : (fun s : Span α => Nat.ble n s.last && Nat.ble s.first n) = (·.contains n) := by
    funext s
    rw [Bool.eq_iff_iff]
    simp [Span.contains, and_comm]
  induction t with
  | nil => rfl
  | cons p pages ih =>
      rw [lookup, find?, ih, hcontains, Page.find?]
      by_cases hle : n ≤ p.last
      · rw [if_pos hle, Nat.ble_eq_true_of_le hle, cond_true]
      · rw [if_neg hle, Bool.eq_false_iff.2 (mt Nat.le_of_ble_eq_true hle), cond_false]

end Table

end ContentCode.Unicode
