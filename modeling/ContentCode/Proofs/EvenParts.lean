import Mathlib.Algebra.BigOperators.Group.List.Basic
import Mathlib.Algebra.Ring.Nat
import ContentCode.Generator.Audio

/-!
Splitting a row evenly. The parts stand for the row one behind the other, and no part is longer than
another by more than one.
-/

namespace ContentCode.AudioCode

variable {α : Type} {n : Nat} {sizes : List Nat} {xs p q : List α}

section sizes

theorem flatten_splitSizes (sizes : List Nat) (xs : List α) : (splitSizes sizes xs).flatten = xs.take sizes.sum := by
  induction sizes generalizing xs with
  | nil => rfl
  | cons n sizes ih => rw [splitSizes, List.flatten_cons, ih, List.sum_cons, List.take_add]

theorem map_length_splitSizes (h : sizes.sum ≤ xs.length) : (splitSizes sizes xs).map List.length = sizes := by
  induction sizes generalizing xs with
  | nil => rfl
  | cons n sizes ih =>
      rw [List.sum_cons] at h
      have hrest : sizes.sum ≤ (xs.drop n).length := by
        rw [List.length_drop]
        omega
      rw [splitSizes, List.map_cons, ih hrest, List.length_take_of_le (by omega)]

/-- The sizes of `n` even parts of a row of length `len`: the remainder goes to the first ones. -/
def evenSizes (n len : Nat) : List Nat := (List.range n).map fun i => len / n + if i < len % n then 1 else 0

theorem splitEven_eq (n : Nat) (xs : List α) : splitEven n xs = splitSizes (evenSizes n xs.length) xs := rfl

theorem sum_evenSizes (hn : 0 < n) (len : Nat) : (evenSizes n len).sum = len := by
  -- the sizes of the first parts, as many of them with one more as there are such parts
  have hfirst (k : Nat) : ((List.range k).map fun i => len / n + if i < len % n then 1 else 0).sum =
      k * (len / n) + min k (len % n) := by
    induction k with
    | zero => simp
    | succ k ih =>
        rw [List.range_succ, List.map_append, List.sum_append, ih, List.map_singleton, List.sum_singleton,
          Nat.succ_mul]
        split_ifs <;> omega
  have hrest := Nat.mod_lt len hn
  rw [evenSizes, hfirst, Nat.min_eq_right (Nat.le_of_lt hrest), Nat.div_add_mod]

theorem mem_evenSizes {size len : Nat} (h : size ∈ evenSizes n len) : len / n ≤ size ∧ size ≤ len / n + 1 := by
  obtain ⟨i, -, rfl⟩ := List.mem_map.1 h
  split_ifs <;> omega

end sizes

theorem flatten_splitEven (hn : 0 < n) (xs : List α) : (splitEven n xs).flatten = xs := by
  rw [splitEven_eq, flatten_splitSizes, sum_evenSizes hn, List.take_length]

theorem map_length_splitEven (hn : 0 < n) (xs : List α) :
    (splitEven n xs).map List.length = evenSizes n xs.length := by
  rw [splitEven_eq, map_length_splitSizes (Nat.le_of_eq (sum_evenSizes hn _))]

theorem length_le_of_mem_splitEven (hn : 0 < n) (hp : p ∈ splitEven n xs) (hq : q ∈ splitEven n xs) :
    p.length ≤ q.length + 1 := by
  have hsize {part : List α} (hpart : part ∈ splitEven n xs) : part.length ∈ evenSizes n xs.length := by
    rw [← map_length_splitEven hn]
    exact List.mem_map_of_mem hpart
  exact Nat.le_trans (mem_evenSizes (hsize hp)).2 (Nat.succ_le_succ (mem_evenSizes (hsize hq)).1)

end ContentCode.AudioCode
