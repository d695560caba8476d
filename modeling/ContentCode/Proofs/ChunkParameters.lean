import Mathlib.Algebra.Order.Round
import Mathlib.Analysis.SpecialFunctions.Log.Base
import Mathlib.Order.CompletePartialOrder
import ContentCode.Chunking.Parameters

/-!
Parameters for every average size there may be. The logarithm of a whole number is never halfway between
two integers, so that one integer is nearest to it; and with the masks and sizes that follow from it no
step gets out of the word in which it is taken.
-/

namespace ContentCode.Chunking

variable {n b k w average : ℕ} {mask : UInt32}

section logarithm

/-- `2 * n ^ 2` lies between the `b`-th power of four and the next one. -/
def Brackets (n b : ℕ) : Prop := 4 ^ b ≤ 2 * n ^ 2 ∧ 2 * n ^ 2 < 4 ^ (b + 1)

theorem brackets_iff (hn : 0 < n) : Brackets n b ↔ b = roundedLog2 n := by
  have hpos : 2 * n ^ 2 ≠ 0 := by positivity
  rw [Brackets, ← Nat.log_eq_iff (.inr ⟨by decide, hpos⟩), roundedLog2, ← sq, Nat.log2_eq_log_two,
    ← Nat.log_pow_left, eq_comm]

theorem brackets_roundedLog2 (hn : 0 < n) : Brackets n (roundedLog2 n) := (brackets_iff hn).2 rfl

/-- Twice a square is no power of four, since the number of its factors of two is odd. -/
theorem four_pow_ne (b n : ℕ) : 4 ^ b ≠ 2 * n ^ 2 := by
  induction b generalizing n with
  | zero => omega
  | succ b ih =>
      intro h
      rw [pow_succ] at h
      have heven : Even (n ^ 2) := ⟨4 ^ b, by omega⟩
      obtain ⟨m, rfl⟩ := (Nat.even_pow.1 heven).1
      have hsq : (m + m) ^ 2 = 4 * m ^ 2 := by ring
      rw [hsq] at h
      exact ih m (by omega)

theorem logb_four_pow (k : ℕ) : Real.logb 2 (4 ^ k) = 2 * k := by
  have hfour : (4 : ℝ) ^ k = 2 ^ (2 * k) := by
    rw [pow_mul]
    norm_num
  rw [hfour, Real.logb_pow, Real.logb_self_eq_one one_lt_two]
  push_cast
  ring

theorem logb_two_mul_sq (hn : 0 < n) : Real.logb 2 (2 * n ^ 2) = 1 + 2 * Real.logb 2 n := by
  have hsq : (n : ℝ) ^ 2 ≠ 0 := by positivity
  rw [Real.logb_mul two_ne_zero hsq, Real.logb_self_eq_one one_lt_two, Real.logb_pow]
  push_cast
  rfl

theorem Brackets.abs_sub_lt (hn : 0 < n) (h : Brackets n b) : |Real.logb 2 n - b| < 1 / 2 := by
  -- a size at the lower bound itself would be halfway
  have hbelow : (4 : ℝ) ^ b < 2 * n ^ 2 := by exact_mod_cast Nat.lt_of_le_of_ne h.1 (four_pow_ne b n)
  have habove : 2 * (n : ℝ) ^ 2 < 4 ^ (b + 1) := by exact_mod_cast h.2
  have hlow := Real.logb_lt_logb one_lt_two (by positivity) hbelow
  have hhigh := Real.logb_lt_logb one_lt_two (by positivity) habove
  rw [logb_four_pow, logb_two_mul_sq hn] at hlow hhigh
  push_cast at hhigh
  rw [abs_sub_lt_iff]
  constructor
  · linarith
  · linarith

theorem round_logb_eq (hn : 0 < n) : round (Real.logb 2 n) = roundedLog2 n := by
  have hnear := (brackets_roundedLog2 hn).abs_sub_lt hn
  rw [abs_sub_lt_iff] at hnear
  rw [round_eq_iff, Set.mem_Ico, Int.cast_natCast]
  constructor
  · linarith
  · linarith

theorem roundedLog2_le (hn : 0 < n) (hle : n ≤ 2 ^ k) : roundedLog2 n ≤ k := by
  by_contra! hlt
  have hlow := (brackets_roundedLog2 hn).1
  have hpow : 4 ^ (k + 1) ≤ 4 ^ roundedLog2 n := Nat.pow_le_pow_right (by decide) hlt
  have hsq : n ^ 2 ≤ 4 ^ k := by
    calc n ^ 2 ≤ (2 ^ k) ^ 2 := Nat.pow_le_pow_left hle 2
      _ = 4 ^ k := by rw [pow_right_comm]; rfl
  have hpos : 0 < 4 ^ k := Nat.pow_pos (by decide)
  rw [pow_succ] at hpow
  omega

end logarithm

section masks

def ones (mask : UInt32) : Set ℕ := {i | mask.toNat.testBit i}

theorem ones_of_toNat (h : mask.toNat = 2 ^ k - 1) : ones mask = Set.Iio k := by
  ext i
  rw [ones, Set.mem_ofPred_eq, h, Nat.testBit_two_pow_sub_one, decide_eq_true_iff, Set.mem_Iio]

theorem toNat_lowMask (hk : k < 32) : (UInt32.ofNat (Nat.pow 2 k - 1)).toNat = 2 ^ k - 1 := by
  apply UInt32.toNat_ofNat_of_lt'
  have hlt : 2 ^ k < UInt32.size := Nat.pow_lt_pow_right (by decide) hk
  exact Nat.lt_of_le_of_lt (Nat.sub_le _ _) hlt

end masks

section words

def word? (w n : ℕ) : Option ℕ := if n < 2 ^ w then some n else none

def difference? (m n : ℕ) : Option ℕ := if n ≤ m then some (m - n) else none

/-- One, shifted to place `k` of a mask, less one; none if a mask has no such place. -/
def lowMask? (k : ℕ) : Option UInt32 := if k < 32 then some ((1 <<< UInt32.ofNat k) - 1) else none

/-- `Parameters.derive` step by step in words, with `w` bits for a size, if `log` is what the logarithm is
read as; none if a step has no exact result. -/
noncomputable def Parameters.derive? (w : ℕ) (log : ℝ) (average : ℕ) : Option Parameters := do
  let b ← word? 32 (round log).toNat
  let minSize := average / 4
  let maxSize ← word? w (average * 8)
  let front ← word? w (minSize + (minSize + 1) / 2)
  let centerSize ← difference? average front
  let strictMask ← lowMask? (b + 1)
  let relaxedMask ← lowMask? (b - 1)
  return { minSize, maxSize, centerSize, strictMask, relaxedMask }

theorem word?_of_lt (hn : n < 2 ^ 32) (hw : 32 ≤ w) : word? w n = some n :=
  if_pos (Nat.lt_of_lt_of_le hn (Nat.pow_le_pow_right (by decide) hw))

theorem lowMask?_eq (hk : k < 32) : lowMask? k = some (UInt32.ofNat (Nat.pow 2 k - 1)) := by
  have hlt : 2 ^ k < 2 ^ 32 := Nat.pow_lt_pow_right (by decide) hk
  have hshift : ((1 : UInt32) <<< UInt32.ofNat k).toNat = 2 ^ k := by
    rw [UInt32.toNat_shiftLeft, UInt32.toNat_ofNat_of_lt' (Nat.lt_trans hk (by decide)), Nat.mod_eq_of_lt hk,
      UInt32.toNat_one, Nat.one_shiftLeft, Nat.mod_eq_of_lt hlt]
  have hle : (1 : UInt32) ≤ 1 <<< UInt32.ofNat k := by
    rw [UInt32.le_iff_toNat_le, hshift]
    exact Nat.one_le_two_pow
  rw [lowMask?, if_pos hk, Option.some.injEq, ← UInt32.toNat_inj, toNat_lowMask hk,
    UInt32.toNat_sub_of_le _ _ hle, hshift, UInt32.toNat_one]

theorem derive?_eq (haverage : 0 < average) (hle : average ≤ 2 ^ 28) (hw : 32 ≤ w) :
    Parameters.derive? w (Real.logb 2 average) average = some (.derive average) := by
  have hb := roundedLog2_le haverage hle
  have hlog : word? 32 (round (Real.logb 2 average)).toNat = some (roundedLog2 average) := by
    rw [round_logb_eq haverage, Int.toNat_natCast]
    exact word?_of_lt (by omega) (Nat.le_refl 32)
  have hmax : word? w (average * 8) = some (8 * average) := by
    rw [Nat.mul_comm]
    exact word?_of_lt (by omega) hw
  have hfront : word? w (average / 4 + (average / 4 + 1) / 2) = some (average / 4 + (average / 4 + 1) / 2) :=
    word?_of_lt (by omega) hw
  have hcenter : difference? average (average / 4 + (average / 4 + 1) / 2) =
      some (average - (average / 4 + (average / 4 + 1) / 2)) := if_pos (by omega)
  have hstrict := lowMask?_eq (k := roundedLog2 average + 1) (by omega)
  have hrelaxed := lowMask?_eq (k := roundedLog2 average - 1) (by omega)
  simp only [Parameters.derive?, hlog, hmax, hfront, hcenter, hstrict, hrelaxed, Option.bind_eq_bind,
    Option.bind_some]
  rfl

end words

/-- What parameters for an average size have to be like, `b` being its logarithm. -/
structure Parameters.Suits (p : Parameters) (average b : ℕ) : Prop where
  strictMask : p.strictMask.toNat = 2 ^ (b + 1) - 1
  relaxedMask : p.relaxedMask.toNat = 2 ^ (max b 1 - 1) - 1
  ones_ssubset : ones p.relaxedMask ⊂ ones p.strictMask
  centerSize : p.centerSize + (p.minSize + (p.minSize + 1) / 2) = average
  minSize_le : p.minSize ≤ p.centerSize
  centerSize_le : p.centerSize ≤ p.maxSize
  minSize_lt : p.minSize < p.maxSize

theorem suits_derive (haverage : 0 < average) (hb : roundedLog2 average ≤ 28) :
    (Parameters.derive average).Suits average (roundedLog2 average) := by
  have hstrict : (Parameters.derive average).strictMask.toNat = 2 ^ (roundedLog2 average + 1) - 1 :=
    toNat_lowMask (by omega)
  have hrelaxed : (Parameters.derive average).relaxedMask.toNat = 2 ^ (roundedLog2 average - 1) - 1 :=
    toNat_lowMask (by omega)
  have hmin : (Parameters.derive average).minSize = average / 4 := rfl
  have hmax : (Parameters.derive average).maxSize = 8 * average := rfl
  have hcenter : (Parameters.derive average).centerSize = average - (average / 4 + (average / 4 + 1) / 2) := rfl
  have hplace : max (roundedLog2 average) 1 - 1 = roundedLog2 average - 1 := by omega
  refine ⟨hstrict, ?_, ?_, ?_, ?_, ?_, ?_⟩
  · rw [hrelaxed, hplace]
  · rw [ones_of_toNat hstrict, ones_of_toNat hrelaxed]
    exact Set.Iio_ssubset_Iio (by omega)
  · omega
  · omega
  · omega
  · omega

/-- Every average size has its parameters. There is one integer nearest to its logarithm, told by the powers
of four, from which the masks follow; and words of 32 bits have room for every step. -/
theorem parameters_of_average (h : 1 ≤ average ∧ average ≤ Parameters.maxAverage) :
    ∃ p b, Parameters.ofAverage average = .ok p ∧ (∀ c, Brackets average c ↔ c = b) ∧
      round (Real.logb 2 average) = b ∧ |Real.logb 2 average - b| < 1 / 2 ∧ b ≤ 28 ∧
      (∀ w, 32 ≤ w → Parameters.derive? w (Real.logb 2 average) average = some p) ∧ p.Suits average b := by
  have hb : roundedLog2 average ≤ 28 := roundedLog2_le h.1 h.2
  refine ⟨.derive average, roundedLog2 average, if_pos h, fun _ => brackets_iff h.1, round_logb_eq h.1,
    (brackets_roundedLog2 h.1).abs_sub_lt h.1, hb, fun _ hw => derive?_eq h.1 h.2 hw, suits_derive h.1 hb⟩

theorem parameters_of_average_halfway :
    (1 ≤ 189812531 ∧ 189812532 ≤ Parameters.maxAverage) ∧
    (∃ p, Parameters.ofAverage 189812531 = .ok p ∧ round (Real.logb 2 (189812531 : ℕ)) = (27 : ℕ) ∧
      Parameters.derive? 32 (Real.logb 2 (189812531 : ℕ)) 189812531 = some p ∧ p.Suits 189812531 27) ∧
    ∃ p, Parameters.ofAverage 189812532 = .ok p ∧ round (Real.logb 2 (189812532 : ℕ)) = (28 : ℕ) ∧
      Parameters.derive? 32 (Real.logb 2 (189812532 : ℕ)) 189812532 = some p ∧ p.Suits 189812532 28 := by
  obtain ⟨p, b, hp, hb, hround, -, -, hwords, hsuits⟩ := @parameters_of_average 189812531 (by decide)
  obtain ⟨q, c, hq, hc, hround', -, -, hwords', hsuits'⟩ := @parameters_of_average 189812532 (by decide)
  obtain rfl : 27 = b := (hb 27).1 ⟨by norm_num, by norm_num⟩
  obtain rfl : 28 = c := (hc 28).1 ⟨by norm_num, by norm_num⟩
  exact ⟨by decide, ⟨p, hp, hround, hwords 32 (Nat.le_refl 32), hsuits⟩,
    q, hq, hround', hwords' 32 (Nat.le_refl 32), hsuits'⟩

end ContentCode.Chunking
