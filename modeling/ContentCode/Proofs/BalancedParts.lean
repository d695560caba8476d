import Mathlib.Algebra.Group.Action.Defs
import Mathlib.Algebra.Order.BigOperators.Group.List
import Mathlib.Algebra.Order.Ring.Nat
import ContentCode.Proofs.DigestSize
import ContentCode.Proofs.EvenParts

/-!
The only balanced split. Even parts are no longer than those in front of them, which leaves no choice of
how long each one is; and a loop over offsets that cuts them out never leaves the row.
-/

namespace ContentCode.AudioCode

variable {α : Type} {n : Nat} {sizes : List Nat} {xs p q : List α}

section offsets

/-- The entries from one offset up to another; none unless both are in range. -/
def slice? (xs : List α) (start stop : Nat) : Option (List α) :=
  if start ≤ stop ∧ stop ≤ xs.length then some ((xs.take stop).drop start) else none

structure Cutting (α : Type) where
  start : Nat
  parts : List (List α)

def Cutting.step (xs : List α) (c : Cutting α) (size : Nat) : Option (Cutting α) := do
  let stop := c.start + size
  let part ← slice? xs c.start stop
  return ⟨stop, c.parts ++ [part]⟩

/-- `splitEven` by offsets, one part after the other; none if an offset gets out of range. -/
def splitByOffset (n : Nat) (xs : List α) : Option (List (List α)) := do
  let c ← (List.range n).foldlM
    (fun c i => Cutting.step xs c (xs.length / n + if i < xs.length % n then 1 else 0)) ⟨0, []⟩
  return c.parts

theorem Cutting.step_eq {c : Cutting α} {size : Nat} (h : c.start + size ≤ xs.length) :
    c.step xs size = some ⟨c.start + size, c.parts ++ [(xs.drop c.start).take size]⟩ := by
  have hslice : slice? xs c.start (c.start + size) = some ((xs.drop c.start).take size) := by
    rw [slice?, if_pos ⟨Nat.le_add_right c.start size, h⟩, List.drop_take, Nat.add_sub_cancel_left]
  simp only [step, hslice, Option.bind_eq_bind, Option.bind_some]
  rfl

theorem Cutting.foldlM_step {c : Cutting α} (h : c.start + sizes.sum ≤ xs.length) :
    sizes.foldlM (Cutting.step xs) c =
      some ⟨c.start + sizes.sum, c.parts ++ splitSizes sizes (xs.drop c.start)⟩ := by
  -- each part is cut out of the whole row, so the induction is for a cutting that starts anywhere in it
  induction sizes generalizing c with
  | nil => simp [splitSizes]
  | cons size sizes ih =>
      rw [List.sum_cons, ← Nat.add_assoc] at h
      have hstep : c.step xs size = some ⟨c.start + size, c.parts ++ [(xs.drop c.start).take size]⟩ :=
        step_eq (Nat.le_trans (Nat.le_add_right _ _) h)
      rw [List.foldlM_cons, hstep, Option.bind_eq_bind, Option.bind_some, ih h, splitSizes, List.sum_cons,
        List.drop_drop, List.append_assoc, Nat.add_assoc]
      rfl

theorem splitByOffset_eq (hn : 0 < n) (xs : List α) : splitByOffset n xs = some (splitEven n xs) := by
  have hsum : (⟨0, []⟩ : Cutting α).start + (evenSizes n xs.length).sum ≤ xs.length := by
    rw [sum_evenSizes hn, Nat.zero_add]
  have hloop := Cutting.foldlM_step hsum
  rw [evenSizes, List.foldlM_map] at hloop
  rw [splitByOffset, hloop]
  rfl

end offsets

section balance

/-- `xs` in `n` parts one behind the other, none longer than one in front of it, and all about as long. -/
structure Balanced (n : Nat) (xs : List α) (parts : List (List α)) : Prop where
  length_eq : parts.length = n
  flatten_eq : parts.flatten = xs
  falling : parts.Pairwise fun p q => q.length ≤ p.length
  close : ∀ p ∈ parts, ∀ q ∈ parts, p.length ≤ q.length + 1

variable {parts parts' : List (List α)}

theorem pairwise_evenSizes (n len : Nat) : (evenSizes n len).Pairwise fun size later => later ≤ size := by
  rw [evenSizes, List.pairwise_map]
  refine List.pairwise_lt_range.imp fun hlt => ?_
  split_ifs <;> omega

theorem balanced_splitEven (hn : 0 < n) (xs : List α) : Balanced n xs (splitEven n xs) where
  length_eq := length_splitEven n xs
  flatten_eq := flatten_splitEven hn xs
  falling := by
    rw [← List.pairwise_map (f := List.length) (R := fun size later => later ≤ size), map_length_splitEven hn]
    exact pairwise_evenSizes n xs.length
  close p hp q hq := length_le_of_mem_splitEven hn hp hq

theorem Balanced.tail (h : Balanced (n + 1) xs (p :: parts)) : Balanced n (xs.drop p.length) parts where
  length_eq := Nat.succ.inj h.length_eq
  flatten_eq := by rw [← h.flatten_eq, List.flatten_cons, List.drop_left]
  falling := h.falling.of_cons
  close q hq r hr := h.close q (List.mem_cons_of_mem p hq) r (List.mem_cons_of_mem p hr)

theorem Balanced.head_eq (h : Balanced n xs (p :: parts)) : p = xs.take p.length := by
  rw [← h.flatten_eq, List.flatten_cons, List.take_left]

theorem Balanced.length_bounds (h : Balanced (n + 1) xs (p :: parts)) :
    xs.length ≤ (n + 1) * p.length ∧ (n + 1) * p.length ≤ xs.length + n := by
  have hlength : xs.length = p.length + (parts.map List.length).sum := by
    rw [← h.flatten_eq, List.length_flatten, List.map_cons, List.sum_cons]
  have hn : (parts.map List.length).length = n := by
    rw [List.length_map, h.tail.length_eq]
  have hmost : (parts.map List.length).sum ≤ n * p.length := by
    rw [← hn, ← smul_eq_mul]
    refine List.sum_le_card_nsmul _ _ fun size hsize => ?_
    obtain ⟨q, hq, rfl⟩ := List.mem_map.1 hsize
    exact List.rel_of_pairwise_cons h.falling hq
  have hleast : n * (p.length - 1) ≤ (parts.map List.length).sum := by
    rw [← hn, ← smul_eq_mul]
    refine List.card_nsmul_le_sum _ _ fun size hsize => ?_
    obtain ⟨q, hq, rfl⟩ := List.mem_map.1 hsize
    exact Nat.sub_le_of_le_add (h.close p List.mem_cons_self q (List.mem_cons_of_mem p hq))
  rw [Nat.mul_sub, Nat.mul_one] at hleast
  rw [Nat.succ_mul]
  omega

theorem Balanced.length_le (h : Balanced (n + 1) xs (p :: parts)) (h' : Balanced (n + 1) xs (q :: parts')) :
    p.length ≤ q.length := by
  have hp := h.length_bounds.2
  have hq := h'.length_bounds.1
  have hlt : (n + 1) * p.length < (n + 1) * (q.length + 1) := by
    rw [Nat.mul_succ]
    omega
  exact Nat.le_of_lt_succ (Nat.lt_of_mul_lt_mul_left hlt)

theorem Balanced.unique (h : Balanced n xs parts) (h' : Balanced n xs parts') : parts = parts' := by
  -- the first parts are equally long, and what they leave of the row is balanced again
  induction n generalizing xs parts parts' with
  | zero => rw [List.length_eq_zero_iff.1 h.length_eq, List.length_eq_zero_iff.1 h'.length_eq]
  | succ n ih =>
      obtain ⟨p, parts, rfl⟩ := List.exists_cons_of_length_eq_add_one h.length_eq
      obtain ⟨p', parts', rfl⟩ := List.exists_cons_of_length_eq_add_one h'.length_eq
      have hlength : p.length = p'.length := Nat.le_antisymm (h.length_le h') (h'.length_le h)
      obtain rfl : p = p' := by rw [h.head_eq, h'.head_eq, hlength]
      rw [ih h.tail h'.tail]

/-- The parts are balanced, as no others are, and cutting them out by offsets never leaves the row. -/
theorem splitEven_balanced (hn : 1 ≤ n) (xs : List α) :
    splitByOffset n xs = some (splitEven n xs) ∧ Balanced n xs (splitEven n xs) ∧
      ∀ parts, Balanced n xs parts → parts = splitEven n xs :=
  ⟨splitByOffset_eq hn xs, balanced_splitEven hn xs, fun _ h => h.unique (balanced_splitEven hn xs)⟩

theorem splitEven_balanced_short :
    1 ≤ 4 ∧ splitByOffset 4 [1, 2] = some [[1], [2], [], []] ∧ Balanced 4 [1, 2] [[1], [2], [], []] := by
  obtain ⟨hoffsets, hbalanced, -⟩ := splitEven_balanced (n := 4) (by decide) [1, 2]
  exact ⟨by decide, hoffsets, hbalanced⟩

end balance

end ContentCode.AudioCode
