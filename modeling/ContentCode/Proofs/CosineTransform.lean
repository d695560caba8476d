import Mathlib.Algebra.BigOperators.Intervals
import Mathlib.Analysis.SpecialFunctions.Trigonometric.Basic
import ContentCode.Proofs.DigestSize

/-!
The transform over the real numbers. Each coefficient is the sum of the entries, each times a cosine
that depends on its place and on the number of the coefficient; and no cosine that is divided by on the
way is zero.
-/

namespace ContentCode

noncomputable instance Arithmetic.real : Arithmetic ℝ where
  ofNat := Nat.cast
  pi := Real.pi
  cos := Real.cos

/-- A real number, or none where there has been a division by zero on the way to it. -/
abbrev CheckedReal := Option ℝ

namespace CheckedReal

noncomputable instance arithmetic : Arithmetic CheckedReal where
  add := Option.map₂ (· + ·)
  sub := Option.map₂ (· - ·)
  mul := Option.map₂ (· * ·)
  div x y := x.bind fun a => y.bind fun b => open Classical in if b = 0 then none else some (a / b)
  ofNat n := some n
  pi := some Real.pi
  cos := Option.map Real.cos

theorem some_add (a b : ℝ) : (some a : CheckedReal) + some b = some (a + b) := rfl

theorem some_sub (a b : ℝ) : (some a : CheckedReal) - some b = some (a - b) := rfl

theorem some_mul (a b : ℝ) : (some a : CheckedReal) * some b = some (a * b) := rfl

theorem some_div (a : ℝ) {b : ℝ} (h : b ≠ 0) : (some a : CheckedReal) / some b = some (a / b) :=
  if_neg h

end CheckedReal

namespace Transform

open Finset Real

variable {h i k m n : ℕ} {v : List ℝ}

/-- The `k`-th cosine wave at the middle of the `i`-th of `n` parts of a half turn. -/
noncomputable def wave (n i k : ℕ) : ℝ := cos (π / n * (i + 1 / 2) * k)

/-- The `k`-th coefficient of a vector, summed up directly. -/
noncomputable def coefficient (v : List ℝ) (k : ℕ) : ℝ := ∑ i : Fin v.length, v[i] * wave v.length i k

theorem coefficient_eq (hlen : v.length = n) (k : ℕ) :
    coefficient v k = ∑ i ∈ range n, v.getD i 0 * wave n i k := by
  subst hlen
  rw [coefficient, Finset.sum_range]
  simp

theorem scale_eq (n i : ℕ) : scale n i = wave n i 1 := by
  change cos ((i + (1 : ℕ) / (2 : ℕ)) * π / n) = cos (π / n * (i + 1 / 2) * (1 : ℕ))
  congr 1
  push_cast
  ring

theorem wave_two_mul (h i k : ℕ) : wave (2 * h) i (2 * k) = wave h i k := by
  rw [wave, wave]
  congr 1
  push_cast
  ring

theorem wave_reflect (hi : i < n) (k : ℕ) : wave n (n - 1 - i) k = (-1) ^ k * wave n i k := by
  have hn : (n : ℝ) ≠ 0 := Nat.cast_ne_zero.2 (by omega)
  have hplace : ((n - 1 - i : ℕ) : ℝ) = n - 1 - i := by
    rw [Nat.cast_sub (by omega), Nat.cast_sub (by omega), Nat.cast_one]
  rw [wave, wave, ← cos_nat_mul_pi_sub, hplace]
  congr 1
  field_simp
  ring

theorem wave_half_pos (hi : i < h) : 0 < wave (2 * h) i 1 := by
  have hh : (0 : ℝ) < h := Nat.cast_pos.2 (by omega)
  have hlt : (i : ℝ) + 1 ≤ h := by exact_mod_cast hi
  apply cos_pos_of_mem_Ioo
  constructor
  · have : 0 ≤ π / ((2 * h : ℕ) : ℝ) * (i + 1 / 2) * ((1 : ℕ) : ℝ) := by positivity
    linarith [pi_pos]
  · push_cast
    rw [mul_one, div_mul_eq_mul_div, div_lt_iff₀ (by positivity)]
    nlinarith [pi_pos]

theorem wave_self (hh : h ≠ 0) (i : ℕ) : wave h i h = 0 := by
  have hh' : (h : ℝ) ≠ 0 := Nat.cast_ne_zero.2 hh
  have hplace : π / h * (i + 1 / 2) * h = π / 2 + i * π := by
    field_simp
    ring
  rw [wave, hplace, cos_add_nat_mul_pi, cos_pi_div_two, mul_zero]

/-- The sum of a wave and the next one is a wave of twice the size times the first one. -/
theorem wave_add_wave (h i k : ℕ) :
    wave h i k + wave h i (k + 1) = 2 * wave (2 * h) i 1 * wave (2 * h) i (2 * k + 1) := by
  rw [wave, wave, cos_add_cos, wave, wave]
  have hmean : (π / h * (i + 1 / 2) * k + π / h * (i + 1 / 2) * ((k + 1 : ℕ) : ℝ)) / 2 =
      π / ((2 * h : ℕ) : ℝ) * (i + 1 / 2) * ((2 * k + 1 : ℕ) : ℝ) := by
    push_cast
    ring
  have hhalf : (π / h * (i + 1 / 2) * k - π / h * (i + 1 / 2) * ((k + 1 : ℕ) : ℝ)) / 2 =
      -(π / ((2 * h : ℕ) : ℝ) * (i + 1 / 2) * ((1 : ℕ) : ℝ)) := by
    push_cast
    ring
  rw [hmean, hhalf, cos_neg]
  ring

theorem sum_halves (f : ℕ → ℝ) (h : ℕ) :
    ∑ i ∈ range (2 * h), f i = ∑ i ∈ range h, (f i + f (2 * h - 1 - i)) := by
  have hback : ∑ i ∈ range h, f (h + i) = ∑ i ∈ range h, f (2 * h - 1 - i) := by
    rw [← sum_range_reflect]
    refine sum_congr rfl fun i hi => ?_
    rw [mem_range] at hi
    congr 1
    omega
  rw [two_mul, sum_range_add, sum_add_distrib, hback, two_mul]

section Halves

variable (hlen : v.length = 2 * h)

include hlen

theorem getElem?_front (hi : i < h) : (v.take h)[i]? = some (v.getD i 0) := by
  rw [List.getElem?_take_of_lt hi, List.getElem?_eq_getElem (by omega), List.getD_eq_getElem?_getD,
    List.getElem?_eq_getElem (by omega), Option.getD_some]

theorem getElem?_back (hi : i < h) : (v.drop h).reverse[i]? = some (v.getD (2 * h - 1 - i) 0) := by
  have hplace : h + ((v.drop h).length - 1 - i) = 2 * h - 1 - i := by
    rw [List.length_drop]
    omega
  rw [List.getElem?_reverse (by rw [List.length_drop]; omega), List.getElem?_drop, hplace,
    List.getElem?_eq_getElem (by omega), List.getD_eq_getElem?_getD, List.getElem?_eq_getElem (by omega),
    Option.getD_some]

theorem getD_sums (hi : i < h) :
    (sums (v.take h) (v.drop h).reverse).getD i 0 = v.getD i 0 + v.getD (2 * h - 1 - i) 0 := by
  rw [List.getD_eq_getElem?_getD, sums, List.getElem?_zipWith, getElem?_front hlen hi, getElem?_back hlen hi]
  rfl

theorem getD_differences (hi : i < h) :
    (differences (2 * h) (v.take h) (v.drop h).reverse).getD i 0 =
      (v.getD i 0 - v.getD (2 * h - 1 - i) 0) / wave (2 * h) i 1 / 2 := by
  have hpair : ((v.take h).zip (v.drop h).reverse)[i]? = some (v.getD i 0, v.getD (2 * h - 1 - i) 0) := by
    rw [List.zip, List.getElem?_zipWith, getElem?_front hlen hi, getElem?_back hlen hi]
  rw [List.getD_eq_getElem?_getD, differences, List.getElem?_mapIdx, hpair, ← scale_eq]
  rfl

theorem length_sums : (sums (v.take h) (v.drop h).reverse).length = h := by
  rw [sums, List.length_zipWith, List.length_take, List.length_reverse, List.length_drop]
  omega

theorem length_differences : (differences (2 * h) (v.take h) (v.drop h).reverse).length = h := by
  rw [differences, List.length_mapIdx, List.length_zip, List.length_take, List.length_reverse,
    List.length_drop]
  omega

theorem coefficient_even (k : ℕ) :
    coefficient v (2 * k) = coefficient (sums (v.take h) (v.drop h).reverse) k := by
  rw [coefficient_eq hlen, coefficient_eq (length_sums hlen), sum_halves]
  refine sum_congr rfl fun i hi => ?_
  rw [mem_range] at hi
  rw [getD_sums hlen hi, wave_reflect (by omega), wave_two_mul, pow_mul, neg_one_sq, one_pow]
  ring

theorem coefficient_odd (k : ℕ) : coefficient v (2 * k + 1) =
    coefficient (differences (2 * h) (v.take h) (v.drop h).reverse) k +
      coefficient (differences (2 * h) (v.take h) (v.drop h).reverse) (k + 1) := by
  rw [coefficient_eq hlen, coefficient_eq (length_differences hlen), coefficient_eq (length_differences hlen),
    sum_halves, ← sum_add_distrib]
  refine sum_congr rfl fun i hi => ?_
  rw [mem_range] at hi
  have hpos := (wave_half_pos hi).ne'
  rw [getD_differences hlen hi, ← mul_add, wave_add_wave, wave_reflect (by omega), pow_succ, pow_mul,
    neg_one_sq, one_pow]
  field_simp
  ring

end Halves

theorem coefficient_length (hlen : v.length = h) (hh : h ≠ 0) : coefficient v h = 0 := by
  rw [coefficient_eq hlen]
  refine sum_eq_zero fun i _ => ?_
  rw [wave_self hh, mul_zero]

theorem combine_map {f g : ℕ → ℝ} {start size : ℕ} (hend : g (start + size) = 0) :
    combine ((List.range' start size).map f) ((List.range' start size).map g) =
      (List.range' start size).flatMap fun k => [f k, g k + g (k + 1)] := by
  induction size generalizing start with
  | zero => rfl
  | succ size ih =>
      cases size with
      | zero => simp [List.range'_succ, combine, hend]
      | succ size =>
          have hrest := @ih (start + 1) (by rw [← hend]; congr 1; omega)
          rw [List.range'_succ, List.map_cons, List.map_cons, List.flatMap_cons, ← hrest, List.range'_succ]
          rfl

theorem flatMap_range_two_mul {α : Type} (f : ℕ → α) (h : ℕ) :
    ((List.range h).flatMap fun k => [f (2 * k), f (2 * k + 1)]) = (List.range (2 * h)).map f := by
  induction h with
  | zero => rfl
  | succ h ih => simp [List.range_succ, Nat.mul_succ, ih]

theorem transform_eq (hlen : v.length = 2 ^ m) :
    transform m v = (List.range (2 ^ m)).map (coefficient v) := by
  induction m generalizing v with
  | zero =>
      obtain ⟨x, rfl⟩ := List.length_eq_one_iff.1 hlen
      simp [transform, coefficient, wave]
  | succ m ih =>
      rw [Nat.pow_succ, Nat.mul_comm] at hlen
      have hlast := coefficient_length (length_differences hlen) (Nat.two_pow_pos m).ne'
      rw [transform, Nat.pow_eq, Nat.pow_eq, Nat.pow_succ, Nat.mul_comm, ih (length_sums hlen),
        ih (length_differences hlen), List.range_eq_range', combine_map (by rwa [Nat.zero_add]),
        ← List.range_eq_range', ← flatMap_range_two_mul]
      refine List.flatMap_congr fun k _ => ?_
      rw [coefficient_even hlen, coefficient_odd hlen]

section Checked

open CheckedReal

theorem checked_sums (front back : List ℝ) :
    sums (front.map some) (back.map some) = (sums front back).map (some : ℝ → CheckedReal) := by
  rw [sums, sums, List.zipWith_map, List.map_zipWith]
  rfl

theorem checked_scale (hn : n ≠ 0) (i : ℕ) : (scale n i : CheckedReal) = some (scale n i) := by
  have htwo : ((2 : ℕ) : ℝ) ≠ 0 := by norm_num
  have hn' : (n : ℝ) ≠ 0 := Nat.cast_ne_zero.2 hn
  change Option.map cos
    ((some (i : ℝ) + some ((1 : ℕ) : ℝ) / some ((2 : ℕ) : ℝ)) * some π / some (n : ℝ)) = _
  rw [some_div _ htwo, some_add, some_mul, some_div _ hn']
  rfl

theorem checked_differences {front back : List ℝ} (hlen : front.length ≤ h) :
    differences (2 * h) (front.map some) (back.map some) =
      (differences (2 * h) front back).map (some : ℝ → CheckedReal) := by
  have htwo : ((2 : ℕ) : ℝ) ≠ 0 := by norm_num
  apply List.ext_getElem (by simp [differences])
  intro i hi hi'
  have hfirst : i < h := by
    rw [List.length_map, differences, List.length_mapIdx, List.length_zip] at hi'
    omega
  have hpos := (wave_half_pos hfirst).ne'
  simp only [differences, List.getElem_map, List.getElem_mapIdx, List.getElem_zip,
    checked_scale (show 2 * h ≠ 0 by omega), some_sub]
  rw [some_div _ (scale_eq (2 * h) i ▸ hpos)]
  exact some_div _ htwo

theorem checked_combine (even odd : List ℝ) :
    combine (even.map some) (odd.map some) = (combine even odd).map (some : ℝ → CheckedReal) := by
  fun_induction combine even odd with
  | case1 a even b b' odd ih =>
      rw [List.map_cons, List.map_cons, List.map_cons, List.map_cons, List.map_cons, ← ih]
      rfl
  | case2 a even b => rfl
  | case3 odd even hmany hone =>
      cases even with
      | nil => cases odd <;> rfl
      | cons a even =>
          cases odd with
          | nil => rfl
          | cons b odd =>
              cases odd with
              | nil => exact (hone a even b rfl rfl).elim
              | cons b' odd => exact (hmany a even b b' odd rfl rfl).elim

theorem checked_transform (hlen : v.length = 2 ^ m) :
    transform m (v.map some) = (transform m v).map (some : ℝ → CheckedReal) := by
  induction m generalizing v with
  | zero => rfl
  | succ m ih =>
      rw [Nat.pow_succ, Nat.mul_comm] at hlen
      rw [transform, transform, Nat.pow_eq, Nat.pow_eq, Nat.pow_succ, Nat.mul_comm, ← List.map_take,
        ← List.map_drop, ← List.map_reverse, checked_sums, checked_differences (by simp), ih (length_sums hlen),
        ih (length_differences hlen), checked_combine]

end Checked

/-- The transform of a vector of `2 ^ m` real numbers consists of its coefficients, and it does so too
where a division by zero would leave nothing; a vector of any other length is refused. -/
theorem dct_eq_coefficients :
    (∀ (m : ℕ) (v : List ℝ), v.length = 2 ^ m →
      dct v = .ok ((List.range (2 ^ m)).map fun k : ℕ =>
        ∑ i : Fin v.length, v[i] * cos (π / v.length * (i + 1 / 2) * k)) ∧
      dct (v.map some : List CheckedReal) = .ok ((List.range (2 ^ m)).map fun k : ℕ =>
        some (∑ i : Fin v.length, v[i] * cos (π / v.length * (i + 1 / 2) * k)))) ∧
    ∀ {α : Type} [Arithmetic α] (v : List α), (∀ m, v.length ≠ 2 ^ m) →
      dct v = .error (.transformLength v.length) := by
  refine ⟨fun m v hlen => ⟨?_, ?_⟩, fun v hlen => if_neg (hlen _)⟩
  · rw [dct_of_length hlen, transform_eq hlen]
    rfl
  · rw [dct_of_length (by rwa [List.length_map]), checked_transform hlen, transform_eq hlen, List.map_map]
    rfl

theorem dct_eq_coefficients_pair :
    dct [(1 : ℝ), 3] = .ok [4, -√2] ∧ dct [some (1 : ℝ), some 3] = .ok [some 4, some (-√2)] ∧
      dct ([] : List Float) = .error (.transformLength 0) := by
  have hpair := dct_eq_coefficients.1 1 [1, 3] rfl
  have hfirst : ∑ i : Fin 2, [(1 : ℝ), 3][i] * cos (π / (2 : ℕ) * (i + 1 / 2) * (0 : ℕ)) = 4 := by
    norm_num [Fin.sum_univ_two]
  have hsecond : ∑ i : Fin 2, [(1 : ℝ), 3][i] * cos (π / (2 : ℕ) * (i + 1 / 2) * (1 : ℕ)) = -√2 := by
    have hfront : π / (2 : ℕ) * ((0 : ℕ) + 1 / 2) * (1 : ℕ) = π / 4 := by push_cast; ring
    have hback : π / (2 : ℕ) * ((1 : ℕ) + 1 / 2) * (1 : ℕ) = π - π / 4 := by push_cast; ring
    calc ∑ i : Fin 2, [(1 : ℝ), 3][i] * cos (π / (2 : ℕ) * (i + 1 / 2) * (1 : ℕ))
      _ = 1 * cos (π / (2 : ℕ) * ((0 : ℕ) + 1 / 2) * (1 : ℕ)) +
          3 * cos (π / (2 : ℕ) * ((1 : ℕ) + 1 / 2) * (1 : ℕ)) := Fin.sum_univ_two _
      _ = -√2 := by rw [hfront, hback, cos_pi_sub, cos_pi_div_four]; ring
  refine ⟨?_, ?_, dct_eq_coefficients.2 [] fun m => (Nat.two_pow_pos m).ne⟩
  · rw [hpair.1, ← hfirst, ← hsecond]
    rfl
  · exact hpair.2.trans (by rw [← hfirst, ← hsecond]; rfl)

end Transform

end ContentCode
