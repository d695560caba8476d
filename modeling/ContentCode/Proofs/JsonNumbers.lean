import Mathlib.Algebra.Ring.Int.Defs
import Mathlib.Algebra.Ring.Nat
import Mathlib.Data.List.TakeWhile
import Mathlib.Data.Option.Basic
import ContentCode.Json.Token

/-!
Integers in JSON. An integer that fits 64 bits, with or without a sign, is written as digits, and
these are read as the integer.
-/

namespace ContentCode

namespace Decimal

theorem digitChar_of_lt : ∀ d < 10, (digitChar d).isDigit = true ∧ digitValue (digitChar d) = d ∧
    (digitChar d = '0' → d = 0) := by
  decide +kernel

theorem exists_of_mem_digits {c : Char} {n : Nat} (h : c ∈ digits n) : ∃ d < 10, c = digitChar d := by
  fun_induction digits n with
  | case1 n hn => exact ⟨n, hn, List.mem_singleton.1 h⟩
  | case2 n hn ih =>
      rcases List.mem_append.1 h with h | h
      · exact ih h
      · exact ⟨n % 10, Nat.mod_lt n (by decide), List.mem_singleton.1 h⟩

theorem isDigit_of_mem_digits {c : Char} {n : Nat} (h : c ∈ digits n) : c.isDigit = true := by
  obtain ⟨d, hd, rfl⟩ := exists_of_mem_digits h
  exact (digitChar_of_lt d hd).1

theorem value_append_singleton (ds : List Char) (c : Char) :
    value (ds ++ [c]) = 10 * value ds + digitValue c :=
  List.foldl_append ..

theorem value_digits (n : Nat) : value (digits n) = n := by
  fun_induction digits n with
  | case1 n hn =>
      change 10 * 0 + digitValue (digitChar n) = n
      rw [(digitChar_of_lt n hn).2.1, Nat.mul_zero, Nat.zero_add]
  | case2 n hn ih =>
      rw [value_append_singleton, ih, (digitChar_of_lt _ (Nat.mod_lt n (by decide))).2.1, Nat.div_add_mod]

theorem digits_ne_nil (n : Nat) : digits n ≠ [] := by
  rw [digits]
  split <;> simp

theorem head?_digits {n : Nat} (h : (digits n).head? = some '0') : n = 0 := by
  fun_induction digits n with
  | case1 n hn => exact (digitChar_of_lt n hn).2.2 (Option.some.inj h)
  | case2 n hn ih =>
      rw [List.head?_append, List.head?_eq_some_head (digits_ne_nil _), Option.some_or,
        ← List.head?_eq_some_head] at h
      have hzero := ih h
      omega

end Decimal

namespace Json

open Decimal

variable {n : Numeral} {i : Int}

/-- An integer that fits 64 bits, with or without a sign. -/
def FitsWord (i : Int) : Prop := -2 ^ 63 ≤ i ∧ i < 2 ^ 64

/-- Numerals without a point and an exponent stand for the integers that fit 64 bits, and for no
others; the negative zero is not one of them. -/
theorem ofNumeral_eq_integer_iff : Number.ofNumeral n = some (.integer i) ↔
    n.fraction = none ∧ n.exponent = none ∧
      (n.negative = true ∧ 0 < value n.whole ∧ value n.whole ≤ 2 ^ 63 ∧ i = -value n.whole ∨
        n.negative = false ∧ value n.whole < 2 ^ 64 ∧ i = value n.whole) := by
  obtain ⟨negative, whole, fraction, exponent⟩ := n
  rw [Number.ofNumeral]
  -- a floating-point number is no integer
  generalize hfloat : (Significand.toBinary _).map _ = float
  replace hfloat : float ≠ some (.integer i) := by
    rw [← hfloat]
    simp
  rw [show Nat.pow 2 63 = 2 ^ 63 from rfl, show Nat.pow 2 64 = 2 ^ 64 from rfl]
  generalize 2 ^ 63 = low, 2 ^ 64 = high
  cases fraction with
  | some ds => simpa using hfloat
  | none =>
      cases exponent with
      | some e => simpa using hfloat
      | none =>
          cases negative with
          | true =>
              by_cases hrange : 0 < value whole ∧ value whole ≤ low
              · simp [hrange, eq_comm]
              · refine iff_of_false (by simpa [hrange] using hfloat) ?_
                rintro ⟨-, -, ⟨-, hpos, hle, -⟩ | ⟨hsign, -⟩⟩
                · exact hrange ⟨hpos, hle⟩
                · cases hsign
          | false =>
              by_cases hrange : value whole < high
              · simp [hrange, eq_comm]
              · simp [hrange, hfloat]

theorem fitsWord_of_ofNumeral (h : Number.ofNumeral n = some (.integer i)) : FitsWord i := by
  obtain ⟨-, -, ⟨-, hpos, hle, rfl⟩ | ⟨-, hlt, rfl⟩⟩ := ofNumeral_eq_integer_iff.1 h
  · exact ⟨by omega, by omega⟩
  · exact ⟨by omega, by omega⟩

theorem readDigits_digits (n : Nat) : Numeral.readDigits (digits n) = some (digits n, []) := by
  have hall : ∀ c ∈ digits n, c.isDigit = true := fun c => isDigit_of_mem_digits
  rw [Numeral.readDigits, List.takeWhile_eq_self_iff.2 hall, List.dropWhile_eq_nil_iff.2 hall, if_neg]
  simpa using digits_ne_nil n

theorem digits_front (n : Nat) : (digits n).length = 1 ∨ (digits n).head? ≠ some '0' := by
  by_cases h : (digits n).head? = some '0'
  · rw [head?_digits h, digits]
    exact .inl rfl
  · exact .inr h

theorem read?_write (i : Int) : Numeral.read? (Number.integer i).write =
    some ⟨decide (i < 0), digits i.natAbs, none, none⟩ := by
  have hfront := digits_front i.natAbs
  rw [Number.write]
  by_cases hsign : i < 0
  · simp [hsign, Numeral.read?, readDigits_digits, hfront, Numeral.readFraction, Numeral.readExponent, guard]
  · have hdigit : ∀ cs, digits i.natAbs = '-' :: cs → False := by
      intro cs hcs
      have hminus : Char.isDigit '-' = true := isDigit_of_mem_digits (by rw [hcs]; exact List.mem_cons_self)
      exact absurd hminus (by decide)
    rw [if_neg hsign, Numeral.read?]
    · simp [hsign, readDigits_digits, hfront, Numeral.readFraction, Numeral.readExponent, guard]
    · exact hdigit

theorem finishNumber_write (h : FitsWord i) :
    finishNumber (Number.integer i).write.reverse = some (.number (.integer i)) := by
  have hinteger : Number.ofNumeral ⟨decide (i < 0), digits i.natAbs, none, none⟩ = some (.integer i) := by
    rw [ofNumeral_eq_integer_iff]
    obtain ⟨hlow, hhigh⟩ := h
    refine ⟨rfl, rfl, ?_⟩
    by_cases hsign : i < 0
    · exact .inl ⟨decide_eq_true hsign, by rw [value_digits]; omega, by rw [value_digits]; omega,
        by rw [value_digits]; omega⟩
    · exact .inr ⟨decide_eq_false hsign, by rw [value_digits]; omega, by rw [value_digits]; omega⟩
  rw [finishNumber, List.reverse_reverse, read?_write]
  simp [hinteger]

end Json

end ContentCode
