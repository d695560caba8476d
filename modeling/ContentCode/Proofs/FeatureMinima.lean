import ContentCode.Proofs.DigestSize

/-!
MinHash values belong to sets of features. Each of them is at least a number exactly if that number is at
most the largest value and at most what the hash function makes of every feature, so that neither order nor
repetition counts, and the values of a union are the lesser ones of those of its parts.
-/

namespace ContentCode.MinHash

open Bits

variable {m : UInt64} {xs ys : List UInt32} {p : Nat}

theorem le_minimum_iff (h : HashFunction) (features : List UInt32) :
    m ≤ minimum h features ↔ m ≤ maxValue ∧ ∀ f ∈ features, m ≤ h.apply f := by
  have hfrom (least : UInt64) : m ≤ features.foldl (fun m f => min m (h.apply f)) least ↔
      m ≤ least ∧ ∀ f ∈ features, m ≤ h.apply f := by
    induction features generalizing least with
    | nil => simp
    | cons f fs ih => rw [List.foldl_cons, ih, Std.le_min_iff, List.forall_mem_cons, and_assoc]
  exact hfrom maxValue

theorem eq_of_le_iff {a b : UInt64} (h : ∀ m, m ≤ a ↔ m ≤ b) : a = b :=
  UInt64.le_antisymm ((h a).1 (UInt64.le_refl a)) ((h b).2 (UInt64.le_refl b))

theorem minimum_append (h : HashFunction) (xs ys : List UInt32) :
    minimum h (xs ++ ys) = min (minimum h xs) (minimum h ys) := by
  apply eq_of_le_iff
  intro m
  rw [Std.le_min_iff, le_minimum_iff, le_minimum_iff, le_minimum_iff, List.forall_mem_append,
    and_and_left]

theorem minimum_congr (h : HashFunction) (hset : ∀ f, f ∈ xs ↔ f ∈ ys) : minimum h xs = minimum h ys := by
  apply eq_of_le_iff
  intro m
  simp only [le_minimum_iff, hset]

theorem minimum_le (h : HashFunction) (xs : List UInt32) : minimum h xs ≤ maxValue :=
  ((le_minimum_iff h xs).1 (UInt64.le_refl _)).1

theorem minima_append (xs ys : List UInt32) :
    minima (xs ++ ys) = List.zipWith min (minima xs) (minima ys) := by
  simp only [minima, minimum_append, List.zipWith_map, List.zipWith_self]

theorem minima_congr (hset : ∀ f, f ∈ xs ↔ f ∈ ys) : minima xs = minima ys := by
  simp only [minima, minimum_congr _ hset]

/-- The bits of a digest, one row of 64 for each of the four places that are taken from the minima. -/
def rows (features : List UInt32) : List (List Bool) :=
  (List.range 4).map fun i => (minima features).map fun m => m.toNat.testBit i

theorem length_of_mem_rows {row : List Bool} (h : row ∈ rows xs) : row.length = 64 := by
  obtain ⟨i, -, rfl⟩ := List.mem_map.1 h
  rw [List.length_map, length_minima]

theorem length_flatten_rows (xs : List UInt32) : (rows xs).flatten.length = 256 := by
  rw [length_flatten_of_length fun row => length_of_mem_rows]
  rfl

theorem digest_eq (xs : List UInt32) : digest xs = toBytes (rows xs).flatten := rfl

theorem ofBytes_digest (xs : List UInt32) : ofBytes (digest xs) = (rows xs).flatten := by
  rw [digest_eq, ofBytes_toBytes_of_dvd]
  rw [length_flatten_rows]
  decide

theorem bitAt_digest (xs : List UInt32) (hp : p < 256) :
    bitAt (digest xs) p = ((minima xs).getD (p % 64) 0).toNat.testBit (p / 64) := by
  have hbit : (ofBytes (digest xs))[p]? = some (bitAt (digest xs) p) :=
    getElem?_ofBytes (by rwa [length_digest])
  have hplace : p % 64 < (minima xs).length := by
    rw [length_minima]
    exact Nat.mod_lt p (by decide)
  rw [ofBytes_digest, getElem?_flatten_of_length (by decide) fun row => length_of_mem_rows, rows, List.getElem?_map,
    List.getElem?_range (by omega), Option.map_some, Option.bind_some, List.getElem?_map,
    List.getElem?_eq_getElem hplace, Option.map_some] at hbit
  rw [List.getD_eq_getElem _ _ hplace]
  exact (Option.some.inj hbit).symm

theorem low_eq_iff {a b : UInt64} :
    a % 16 = b % 16 ↔ ∀ i < 4, a.toNat.testBit i = b.toNat.testBit i := by
  have hlow (c : UInt64) : (c % 16).toNat = c.toNat % 2 ^ 4 := UInt64.toNat_mod c 16
  rw [← UInt64.toNat_inj, hlow, hlow]
  constructor
  · intro h i hi
    have hbit : (a.toNat % 2 ^ 4).testBit i = (b.toNat % 2 ^ 4).testBit i := by rw [h]
    rwa [Nat.testBit_mod_two_pow, Nat.testBit_mod_two_pow, decide_eq_true hi, Bool.true_and,
      Bool.true_and] at hbit
  · intro h
    apply Nat.eq_of_testBit_eq
    intro i
    rw [Nat.testBit_mod_two_pow, Nat.testBit_mod_two_pow]
    by_cases hi : i < 4
    · rw [h i hi]
    · simp [hi]

theorem digest_eq_iff (xs ys : List UInt32) : digest xs = digest ys ↔
    ∀ j < 64, (minima xs).getD j 0 % 16 = (minima ys).getD j 0 % 16 := by
  constructor
  · intro h j hj
    rw [low_eq_iff]
    intro i hi
    have hbit := congrArg (bitAt · (64 * i + j)) h
    have hdiv : (64 * i + j) / 64 = i := by omega
    have hmod : (64 * i + j) % 64 = j := by omega
    simpa only [bitAt_digest xs (show 64 * i + j < 256 by omega),
      bitAt_digest ys (show 64 * i + j < 256 by omega), hdiv, hmod] using hbit
  · intro h
    have hlen : (digest xs).length = (digest ys).length := by rw [length_digest, length_digest]
    refine eq_of_bitAt hlen fun p hp => ?_
    rw [length_digest] at hp
    rw [bitAt_digest xs hp, bitAt_digest ys hp]
    exact low_eq_iff.1 (h (p % 64) (Nat.mod_lt p (by decide))) (p / 64) (by omega)

/-- The minima of all features of two lists are the lesser ones of those of each, the order of features
and their repetition count for nothing, and the digest has the four low bits of the 64 minima, first the
lowest one of each, then the next one. -/
theorem minima_union (xs ys : List UInt32) :
    minima (xs ++ ys) = List.zipWith min (minima xs) (minima ys) ∧
    ((∀ f, f ∈ xs ↔ f ∈ ys) → minima xs = minima ys ∧ digest xs = digest ys) ∧
    ((minima xs).length = 64 ∧ ∀ m ∈ minima xs, m.toNat ≤ 2 ^ 32 - 1) ∧
    ((digest xs).length = 32 ∧ ∀ p < 256,
      bitAt (digest xs) p = ((minima xs).getD (p % 64) 0).toNat.testBit (p / 64)) ∧
    (digest xs = digest ys ↔ ∀ j < 64, (minima xs).getD j 0 % 16 = (minima ys).getD j 0 % 16) := by
  refine ⟨minima_append xs ys, fun hset => ?_, ⟨length_minima xs, fun m hm => ?_⟩,
    ⟨length_digest xs, fun p => bitAt_digest xs⟩, digest_eq_iff xs ys⟩
  · have hminima := minima_congr hset
    exact ⟨hminima, by rw [digest_eq, digest_eq, rows, rows, hminima]⟩
  · obtain ⟨h, -, rfl⟩ := List.mem_map.1 hm
    exact UInt64.le_iff_toNat_le.1 (minimum_le h xs)

theorem minima_union_repeated :
    digest [500, 300, 100, 300] = digest [100, 300, 500] ∧
    bitAt (digest [500, 300, 100, 300]) 65 =
      ((minima [100, 300, 500]).getD 1 0).toNat.testBit 1 := by
  obtain ⟨-, hset, -, hbits, -⟩ := minima_union [500, 300, 100, 300] [100, 300, 500]
  obtain ⟨hminima, hdigest⟩ := hset (by grind)
  refine ⟨hdigest, ?_⟩
  rw [← hminima]
  exact hbits.2 65 (by decide)

end ContentCode.MinHash
