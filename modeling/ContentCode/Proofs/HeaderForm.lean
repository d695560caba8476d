import Mathlib.Tactic.IntervalCases
import Mathlib.Tactic.Tauto
import ContentCode.Proofs.ReaderForm

/-!
Varnibbles and headers have one form each: what is read as a number or as a header is what writing
it gives.
-/

namespace ContentCode

open Bits Bits.Reading

variable {r r' : Reader}

namespace Varnibble

theorem yields_branch {α : Type} {a : α} {m m' : Reading α} :
    Yields (do if !(← bit) then m else m') r a r' ↔
      (∃ s, r.Takes [false] s ∧ Yields m s a r') ∨ ∃ s, r.Takes [true] s ∧ Yields m' s a r' := by
  rw [yields_bind]
  constructor
  · rintro ⟨b, s, hb, h⟩
    cases b with
    | false => exact .inl ⟨s, yields_bit.1 hb, h⟩
    | true => exact .inr ⟨s, yields_bit.1 hb, h⟩
  · rintro (⟨s, hb, h⟩ | ⟨s, hb, h⟩)
    · exact ⟨false, s, yields_bit.2 hb, h⟩
    · exact ⟨true, s, yields_bit.2 hb, h⟩

theorem yields_bits_add {n k v : Nat} :
    Yields (do return (← bits n) + k) r v r' ↔
      (k ≤ v ∧ v < k + 2 ^ n) ∧ r.Takes (ofNat n (v - k)) r' := by
  rw [yields_bind]
  constructor
  · rintro ⟨w, s, hw, h⟩
    obtain ⟨hlt, htake⟩ := yields_bits.1 hw
    obtain ⟨rfl, rfl⟩ := yields_pure.1 h
    rw [Nat.add_sub_cancel]
    exact ⟨⟨by omega, by omega⟩, htake⟩
  · rintro ⟨⟨hle, hlt⟩, htake⟩
    exact ⟨v - k, r', yields_bits.2 ⟨by omega, htake⟩, yields_pure.2 ⟨by omega, rfl⟩⟩

theorem yields_read {v : Nat} : Yields read r v r' ↔ v ≤ maxValue ∧ r.Takes (digits v) r' := by
  have hread : Yields read r v r' ↔
      (∃ s, r.Takes [false] s ∧ v < 8 ∧ s.Takes (ofNat 3 v) r') ∨
      ∃ s, r.Takes [true] s ∧
        ((∃ s', s.Takes [false] s' ∧ (8 ≤ v ∧ v < 72) ∧ s'.Takes (ofNat 6 (v - 8)) r') ∨
        ∃ s', s.Takes [true] s' ∧
          ((∃ t, s'.Takes [false] t ∧ (72 ≤ v ∧ v < 584) ∧ t.Takes (ofNat 9 (v - 72)) r') ∨
          ∃ t, s'.Takes [true] t ∧
            ∃ t', t.Takes [false] t' ∧ (584 ≤ v ∧ v < 4680) ∧ t'.Takes (ofNat 12 (v - 584)) r')) := by
    simp only [read, yields_branch, yields_bits, yields_bits_add, not_yields_throw,
      and_false, exists_false, or_false, Nat.reducePow, Nat.reduceAdd]
  rw [hread]
  clear hread
  by_cases h8 : v < 8
  · have hform : digits v = [false] ++ ofNat 3 v := by simp [digits, h8]
    simp only [hform, Reader.takes_append]
    simp [maxValue, h8, show ¬ 8 ≤ v by omega, show ¬ 72 ≤ v by omega, show ¬ 584 ≤ v by omega,
      show v ≤ 4679 by omega]
  by_cases h72 : v < 72
  · have hform : digits v = [true] ++ ([false] ++ ofNat 6 (v - 8)) := by simp [digits, h8, h72]
    simp only [hform, Reader.takes_append]
    simp [maxValue, h8, h72, show 8 ≤ v by omega, show ¬ 72 ≤ v by omega, show ¬ 584 ≤ v by omega,
      show v ≤ 4679 by omega]
  by_cases h584 : v < 584
  · have hform : digits v = [true] ++ ([true] ++ ([false] ++ ofNat 9 (v - 72))) := by
      simp [digits, h8, h72, h584]
    simp only [hform, Reader.takes_append]
    simp [maxValue, h8, h72, h584, show 72 ≤ v by omega, show ¬ 584 ≤ v by omega,
      show v ≤ 4679 by omega]
  · have hform : digits v = [true] ++ ([true] ++ ([true] ++ ([false] ++ ofNat 12 (v - 584)))) := by
      simp [digits, h8, h72, h584]
    simp only [hform, Reader.takes_append]
    simp [maxValue, h8, h72, h584, show 584 ≤ v by omega, Nat.lt_succ_iff]
    grind

theorem length_digits {v : Nat} (h : v < 8) : (digits v).length = 4 := by
  simp [digits, h]

end Varnibble

theorem MainType.ofNumber_eq_ok {v : Nat} {t : MainType} : ofNumber v = .ok t ↔ v = t.number := by
  constructor
  · intro h
    cases hs : all[v]? with
    | none => simp [ofNumber, hs] at h
    | some s =>
        simp only [ofNumber, hs, Except.ok.injEq] at h
        obtain ⟨hlt, hv⟩ := List.getElem?_eq_some_iff.1 hs
        change v < 8 at hlt
        interval_cases v <;> subst h <;> rw [← hv] <;> rfl
  · rintro rfl
    rw [ofNumber, getElem?_all]

theorem SubType.ofNumber_eq_ok {v : Nat} {s : SubType} : ofNumber v = .ok s ↔ v = s.number := by
  constructor
  · intro h
    cases hs : all[v]? with
    | none => simp [ofNumber, hs] at h
    | some t =>
        simp only [ofNumber, hs, Except.ok.injEq] at h
        obtain ⟨hlt, hv⟩ := List.getElem?_eq_some_iff.1 hs
        change v < 8 at hlt
        interval_cases v <;> subst h <;> rw [← hv] <;> rfl
  · rintro rfl
    rw [ofNumber, getElem?_all]

theorem Version.ofNumber_eq_ok {n : Nat} {v : Version} : ofNumber n = .ok v ↔ n = v.number := by
  cases v
  cases n with
  | zero => simp [ofNumber, all, number]
  | succ n => simp [ofNumber, all, number]

theorem MainType.maxLength_le (t : MainType) : t.maxLength ≤ 7 := by
  cases t <;> decide

namespace Header

theorem ofLength_eq_ok {t : MainType} {s : SubType} {v : Version} {length : Nat} {h : Header} :
    ofLength t s v length = .ok h ↔
      h.maintype = t ∧ h.subtype = s ∧ h.version = v ∧ h.length = length := by
  rcases h with ⟨t', s', v', l', hl⟩
  simp only [ofLength]
  split
  next hle =>
    simp only [Except.ok.injEq, Header.mk.injEq]
    tauto
  next hgt =>
    simp only [reduceCtorEq, false_iff]
    rintro ⟨rfl, -, -, rfl⟩
    exact hgt hl

theorem length_lt (h : Header) : h.length < 8 :=
  Nat.lt_succ_of_le (h.length_le.trans h.maintype.maxLength_le)

theorem length_digits (h : Header) : h.digits.length = 16 := by
  have ht := Varnibble.length_digits h.maintype.number_lt
  have hs := Varnibble.length_digits h.subtype.number_lt
  have hv := Varnibble.length_digits (v := h.version.number) (by cases h.version; decide)
  have hl := Varnibble.length_digits h.length_lt
  simp [digits, ht, hs, hv, hl]

/-- Four fields of four bits fill two bytes, so no padding follows them. -/
theorem yields_read {h : Header} (hr : r.position % 8 = 0) :
    Yields read r h r' ↔ r.Takes h.digits r' := by
  have hnopad {s : Reader} (hs : r.Takes h.digits s) : paddingSize s.position = 0 := by
    rw [hs.position, length_digits, paddingSize]
    omega
  simp only [read, yields_bind, yields_ofExcept, Varnibble.yields_read, MainType.ofNumber_eq_ok,
    SubType.ofNumber_eq_ok, Version.ofNumber_eq_ok, ofLength_eq_ok]
  constructor
  · rintro ⟨_, _, ⟨-, h₁⟩, _, s₁, ⟨rfl, rfl⟩, _, _, ⟨-, h₂⟩, _, s₂, ⟨rfl, rfl⟩, _, _, ⟨-, h₃⟩, _, s₃,
      ⟨rfl, rfl⟩, _, s₄, ⟨-, h₄⟩, _, s₅, hpad, ⟨rfl, rfl, -, rfl⟩, rfl⟩
    have hall : r.Takes h.digits s₄ := by
      simp only [digits, Reader.takes_append]
      exact ⟨s₃, ⟨s₂, ⟨s₁, h₁, h₂⟩, h₃⟩, h₄⟩
    rw [yields_padding, hnopad hall, List.replicate_zero, Reader.takes_nil] at hpad
    rwa [hpad]
  · intro hall
    have hdigits := hall
    simp only [digits, Reader.takes_append] at hdigits
    obtain ⟨s₃, ⟨s₂, ⟨s₁, h₁, h₂⟩, h₃⟩, h₄⟩ := hdigits
    have hpad : Yields padding r' () r' := by
      rw [yields_padding, hnopad hall, List.replicate_zero, Reader.takes_nil]
    have hle {n : Nat} (hn : n < 8) : n ≤ Varnibble.maxValue := by
      simp only [Varnibble.maxValue]
      omega
    exact ⟨_, s₁, ⟨hle h.maintype.number_lt, h₁⟩, _, _, ⟨rfl, rfl⟩, _, s₂,
      ⟨hle h.subtype.number_lt, h₂⟩, _, _, ⟨rfl, rfl⟩, _, s₃, ⟨hle (by cases h.version; decide), h₃⟩,
      _, _, ⟨rfl, rfl⟩, _, _, ⟨hle h.length_lt, h₄⟩, _, _, hpad, ⟨rfl, rfl, trivial, rfl⟩, rfl⟩

end Header

end ContentCode
