import Mathlib.Data.Nat.Bitwise
import Mathlib.Tactic.Ring
import ContentCode.Bits

/-!
Bit strings and the digits of some width that they are cut into determine each other: the digits of
a bit string spell it again, with zeros behind it, and digits spelt out are cut into themselves.
-/

namespace ContentCode

theorem map_range_slice {α : Type} {xs : List (List α)} {n : Nat} (h : ∀ x ∈ xs, x.length = n) :
    (List.range xs.length).map (fun i => (xs.flatten.take (n * i + n)).drop (n * i)) = xs := by
  induction xs with
  | nil => rfl
  | cons x xs ih =>
      obtain ⟨hx, hxs⟩ := List.forall_mem_cons.1 h
      have hnext (i : Nat) : ((x ++ xs.flatten).take (n * (i + 1) + n)).drop (n * (i + 1)) =
          (xs.flatten.take (n * i + n)).drop (n * i) := by
        rw [show n * (i + 1) + n = x.length + (n * i + n) by rw [hx]; ring, List.take_length_add_append,
          show n * (i + 1) = x.length + n * i by rw [hx]; ring, List.drop_length_add_append]
      rw [List.length_cons, List.range_succ_eq_map, List.map_cons, List.map_map, List.flatten_cons]
      simp only [Function.comp_def, Nat.succ_eq_add_one, hnext, ih hxs, Nat.mul_zero, Nat.zero_add,
        List.drop_zero, List.take_left' hx]

/-- Of blocks of one size, the quotient of a place tells the block and the remainder the place in it. -/
theorem getElem?_flatten_of_length {α : Type} {xs : List (List α)} {n : Nat} (hn : 0 < n)
    (h : ∀ x ∈ xs, x.length = n) (p : Nat) : xs.flatten[p]? = xs[p / n]?.bind fun x => x[p % n]? := by
  induction xs generalizing p with
  | nil => rfl
  | cons x xs ih =>
      obtain ⟨hx, hxs⟩ := List.forall_mem_cons.1 h
      rw [List.flatten_cons]
      by_cases hp : p < n
      · rw [List.getElem?_append_left (by rwa [hx]), Nat.div_eq_of_lt hp, Nat.mod_eq_of_lt hp,
          List.getElem?_cons_zero, Option.bind_some]
      · obtain ⟨q, rfl⟩ := Nat.exists_eq_add_of_le' (Nat.not_lt.1 hp)
        rw [List.getElem?_append_right (by omega), hx, Nat.add_sub_cancel, ih hxs, Nat.add_mod_right,
          Nat.add_div_right q hn, List.getElem?_cons_succ]

theorem length_flatten_of_length {α : Type} {xs : List (List α)} {n : Nat} (h : ∀ x ∈ xs, x.length = n) :
    xs.flatten.length = n * xs.length := by
  rw [List.length_flatten, List.map_congr_left h, List.map_const', List.sum_replicate_nat, Nat.mul_comm]

theorem drop_flatten_of_length {α : Type} {xs : List (List α)} {n : Nat} (h : ∀ x ∈ xs, x.length = n) (k : Nat) :
    xs.flatten.drop (n * k) = (xs.drop k).flatten := by
  induction k generalizing xs with
  | zero => rfl
  | succ k ih =>
      cases xs with
      | nil => exact List.drop_nil
      | cons x xs =>
          obtain ⟨hx, hxs⟩ := List.forall_mem_cons.1 h
          have hsize : n * (k + 1) = x.length + n * k := by rw [hx, Nat.mul_succ, Nat.add_comm]
          rw [List.flatten_cons, hsize, List.drop_length_add_append, ih hxs, List.drop_succ_cons]

theorem take_drop_flatten_of_length {α : Type} {xs : List (List α)} {x : List α} {n i : Nat}
    (h : ∀ x ∈ xs, x.length = n) (hi : xs[i]? = some x) : (xs.flatten.drop (n * i)).take n = x := by
  obtain ⟨hlt, rfl⟩ := List.getElem?_eq_some_iff.1 hi
  rw [drop_flatten_of_length h, List.drop_eq_getElem_cons hlt, List.flatten_cons,
    List.take_left' (h _ (List.getElem_mem hlt))]

namespace Bits

theorem toNat_append_singleton (d : List Bool) (b : Bool) : toNat (d ++ [b]) = 2 * toNat d + b.toNat := by
  simp [toNat]

theorem toNat_append (d e : List Bool) : toNat (d ++ e) = toNat d * 2 ^ e.length + toNat e := by
  induction e generalizing d with
  | nil => simp [toNat]
  | cons b e ih =>
      have hb := ih [b]
      rw [List.append_cons, ih, toNat_append_singleton]
      simp only [List.singleton_append, List.length_cons, Nat.pow_succ] at hb ⊢
      have h : toNat [b] = b.toNat := by simp [toNat]
      rw [hb, h]
      ring

theorem toNat_cons (b : Bool) (d : List Bool) : toNat (b :: d) = b.toNat * 2 ^ d.length + toNat d := by
  have h : toNat [b] = b.toNat := by simp [toNat]
  rw [← List.singleton_append, toNat_append, h]

theorem toNat_lt (d : List Bool) : toNat d < 2 ^ d.length := by
  induction d with
  | nil => simp [toNat]
  | cons b d ih =>
      rw [toNat_cons, List.length_cons, Nat.pow_succ]
      cases b <;> simp <;> omega

theorem toNat_replicate_false (n : Nat) : toNat (List.replicate n false) = 0 := by
  induction n with
  | zero => rfl
  | succ n ih => simp [List.replicate_succ, toNat_cons, ih]

theorem toNat_ofNat (n v : Nat) : toNat (ofNat n v) = v % 2 ^ n := by
  induction n with
  | zero => simp [ofNat, toNat, Nat.mod_one]
  | succ n ih =>
      rw [ofNat, toNat_cons, length_ofNat, ih, Nat.toNat_testBit, Nat.mod_pow_succ]
      ring

theorem ofNat_congr {n v w : Nat} (h : ∀ i < n, v.testBit i = w.testBit i) : ofNat n v = ofNat n w := by
  induction n with
  | zero => rfl
  | succ n ih => rw [ofNat, ofNat, h n (Nat.lt_succ_self n), ih fun i hi => h i (by omega)]

theorem ofNat_toNat (d : List Bool) : ofNat d.length (toNat d) = d := by
  induction d with
  | nil => rfl
  | cons b d ih =>
      have hd := toNat_lt d
      have hsum : toNat (b :: d) = 2 ^ d.length * b.toNat + toNat d := by
        rw [toNat_cons, Nat.mul_comm]
      have hhead : (toNat (b :: d)).testBit d.length = b := by
        rw [hsum, Nat.testBit_two_pow_mul_add _ hd]
        cases b <;> simp
      have htail : ofNat d.length (toNat (b :: d)) = ofNat d.length (toNat d) :=
        ofNat_congr fun i hi => by rw [hsum, Nat.testBit_two_pow_mul_add _ hd, if_pos hi]
      rw [List.length_cons, ofNat, hhead, htail, ih]

theorem ofNat_fill {width : Nat} {d : List Bool} (h : d.length ≤ width) :
    ofNat width (toNat d * 2 ^ (width - d.length)) = d ++ List.replicate (width - d.length) false := by
  have hlen : (d ++ List.replicate (width - d.length) false).length = width := by simp; omega
  have := ofNat_toNat (d ++ List.replicate (width - d.length) false)
  rwa [hlen, toNat_append, toNat_replicate_false, List.length_replicate, Nat.add_zero] at this

/-- What the digits of a bit string say, the bits `d` of the first digit being read already. -/
theorem flatMap_groupsFrom {width : Nat} (d bits : List Bool) (h : d.length < width) :
    (groupsFrom width d.length (toNat d) bits).flatMap (ofNat width) =
      d ++ bits ++ List.replicate ((width - (d ++ bits).length % width) % width) false := by
  induction bits generalizing d with
  | nil =>
      rw [List.append_nil, Nat.mod_eq_of_lt h]
      cases d with
      | nil => simp [groupsFrom]
      | cons b d =>
          rw [List.length_cons, groupsFrom, ← List.length_cons (a := b), List.flatMap_singleton,
            Nat.pow_eq, ofNat_fill h.le, Nat.mod_eq_of_lt (by simp only [List.length_cons] at h ⊢; omega)]
  | cons b bits ih =>
      have hnext := toNat_append_singleton d b
      rw [groupsFrom]
      split
      next hlt =>
        have := ih (d ++ [b]) (by simpa using hlt)
        rwa [List.length_append, List.length_singleton, hnext, List.append_assoc d,
          List.singleton_append] at this
      next hge =>
        have hfull : (d ++ [b]).length = width := by simp; omega
        have hdigit : ofNat width (2 * toNat d + b.toNat) = d ++ [b] := by
          rw [← hnext, ← hfull, ofNat_toNat]
        have hsize : (d ++ b :: bits).length % width = bits.length % width := by
          rw [← List.singleton_append, ← List.append_assoc, List.length_append, hfull, Nat.add_mod_left]
        have hrest : (groupsFrom width 0 0 bits).flatMap (ofNat width) =
            bits ++ List.replicate ((width - bits.length % width) % width) false :=
          ih [] (by simp; omega)
        rw [List.flatMap_cons, hdigit, hsize, hrest]
        simp

theorem flatMap_groups {width : Nat} (h : 0 < width) (bits : List Bool) :
    (groups width bits).flatMap (ofNat width) =
      bits ++ List.replicate ((width - bits.length % width) % width) false :=
  flatMap_groupsFrom [] bits h

theorem groupsFrom_append {width : Nat} (d e bits : List Bool) (he : e ≠ [])
    (h : d.length + e.length = width) :
    groupsFrom width d.length (toNat d) (e ++ bits) = toNat (d ++ e) :: groups width bits := by
  induction e generalizing d with
  | nil => exact absurd rfl he
  | cons b e ih =>
      have hnext := toNat_append_singleton d b
      rw [List.cons_append, groupsFrom]
      cases e with
      | nil =>
          rw [if_neg (by simp at h; omega), ← hnext]
          rfl
      | cons c e =>
          have := ih (d ++ [b]) (List.cons_ne_nil c e) (by simp at h ⊢; omega)
          rw [if_pos (by simp at h; omega), ← hnext]
          simpa using this

theorem groups_append {width : Nat} (hw : 0 < width) {d : List Bool} (h : d.length = width)
    (bits : List Bool) : groups width (d ++ bits) = toNat d :: groups width bits := by
  have hne : d ≠ [] := fun he => by simp [he] at h; omega
  exact groupsFrom_append [] d bits hne (by simpa using h)

theorem groups_flatMap {width : Nat} (hw : 0 < width) (vs : List Nat) (h : ∀ v ∈ vs, v < 2 ^ width) :
    groups width (vs.flatMap (ofNat width)) = vs := by
  induction vs with
  | nil => rfl
  | cons v vs ih =>
      rw [List.flatMap_cons, groups_append hw (length_ofNat width v), toNat_ofNat,
        Nat.mod_eq_of_lt (h v List.mem_cons_self), ih fun x hx => h x (List.mem_cons_of_mem v hx)]

theorem mem_groupsFrom_lt {width : Nat} (d bits : List Bool) (h : d.length < width) :
    ∀ v ∈ groupsFrom width d.length (toNat d) bits, v < 2 ^ width := by
  induction bits generalizing d with
  | nil =>
      cases d with
      | nil => simp [groupsFrom]
      | cons b d =>
          intro v hv
          simp only [List.length_cons, groupsFrom, List.mem_singleton] at hv
          have hd := toNat_lt (b :: d)
          have hpow : 2 ^ (d.length + 1) * 2 ^ (width - (d.length + 1)) = 2 ^ width := by
            rw [← Nat.pow_add]
            congr 1
            simp only [List.length_cons] at h
            omega
          rw [hv, ← hpow, Nat.pow_eq]
          exact Nat.mul_lt_mul_of_pos_right hd (Nat.two_pow_pos _)
  | cons b bits ih =>
      have hnext := toNat_append_singleton d b
      rw [groupsFrom]
      split
      next hlt =>
        have := ih (d ++ [b]) (by simpa using hlt)
        rwa [List.length_append, List.length_singleton, hnext] at this
      next hge =>
        intro v hv
        rcases List.mem_cons.1 hv with rfl | hv
        · have := toNat_lt (d ++ [b])
          rwa [hnext, List.length_append, List.length_singleton, show d.length + 1 = width by omega] at this
        · exact ih [] (by simp; omega) v hv

theorem mem_groups_lt {width : Nat} (h : 0 < width) (bits : List Bool) :
    ∀ v ∈ groups width bits, v < 2 ^ width :=
  mem_groupsFrom_lt [] bits h

theorem ofBytes_eq_flatMap (bytes : List UInt8) :
    ofBytes bytes = (bytes.map UInt8.toNat).flatMap (ofNat 8) := by
  rw [ofBytes, List.flatMap_map]

@[simp] theorem toBytes_ofBytes (bytes : List UInt8) : toBytes (ofBytes bytes) = bytes := by
  have hlt : ∀ v ∈ bytes.map UInt8.toNat, v < 2 ^ 8 := by
    intro v hv
    obtain ⟨b, -, rfl⟩ := List.mem_map.1 hv
    exact b.toNat_lt
  rw [toBytes, ofBytes_eq_flatMap, groups_flatMap (by decide) _ hlt, List.map_map]
  exact List.map_id'' (fun b => UInt8.ofNat_toNat) bytes

theorem toBytes_ofBytes_append (bytes : List UInt8) (bits : List Bool) :
    toBytes (ofBytes bytes ++ bits) = bytes ++ toBytes bits := by
  induction bytes with
  | nil => rfl
  | cons b bytes ih =>
      have hb : UInt8.ofNat (toNat (ofNat 8 b.toNat)) = b := by
        rw [toNat_ofNat, Nat.mod_eq_of_lt b.toNat_lt, UInt8.ofNat_toNat]
      rw [ofBytes_cons, List.append_assoc, toBytes, groups_append (by decide) (length_ofNat 8 _),
        List.map_cons, hb, ← toBytes, ih, List.cons_append]

theorem ofBytes_toBytes (bits : List Bool) :
    ofBytes (toBytes bits) = bits ++ List.replicate ((8 - bits.length % 8) % 8) false := by
  have hlt := mem_groups_lt (show 0 < 8 by decide) bits
  have hback : (groups 8 bits).map (UInt8.toNat ∘ UInt8.ofNat) = groups 8 bits := by
    conv_rhs => rw [← List.map_id (groups 8 bits)]
    refine List.map_congr_left fun v hv => ?_
    exact UInt8.toNat_ofNat_of_lt' (hlt v hv)
  rw [ofBytes_eq_flatMap, toBytes, List.map_map, hback, flatMap_groups (by decide)]

theorem ofBytes_toBytes_of_dvd {bits : List Bool} (h : 8 ∣ bits.length) :
    ofBytes (toBytes bits) = bits := by
  rw [ofBytes_toBytes, Nat.mod_eq_zero_of_dvd h]
  simp

theorem ofBytes_take (bytes : List UInt8) (n : Nat) : ofBytes (bytes.take n) = (ofBytes bytes).take (8 * n) := by
  induction bytes generalizing n with
  | nil => simp
  | cons b bytes ih =>
      cases n with
      | zero => simp
      | succ n =>
          have hsize : 8 * (n + 1) = (ofNat 8 b.toNat).length + 8 * n := by
            rw [length_ofNat]
            omega
          rw [List.take_succ_cons, ofBytes_cons, ofBytes_cons, ih, hsize, List.take_length_add_append]

theorem length_toBytes (bits : List Bool) : (toBytes bits).length = (bits.length + 7) / 8 := by
  have := congrArg List.length (ofBytes_toBytes bits)
  rw [length_ofBytes, List.length_append, List.length_replicate] at this
  omega

theorem toBytes_take (bits : List Bool) (n : Nat) : toBytes (bits.take (8 * n)) = (toBytes bits).take n := by
  by_cases hlen : 8 * n ≤ bits.length
  · have hsize : (bits.take (8 * n)).length = 8 * n := List.length_take_of_le hlen
    have hfront : ofBytes (toBytes (bits.take (8 * n))) = bits.take (8 * n) :=
      ofBytes_toBytes_of_dvd ⟨n, hsize⟩
    have hbytes : (toBytes (bits.take (8 * n))).length = n := by
      rw [length_toBytes, hsize]
      omega
    conv_rhs => rw [← List.take_append_drop (8 * n) bits, ← hfront, toBytes_ofBytes_append]
    rw [List.take_left' hbytes]
  · rw [List.take_of_length_le (by omega), List.take_of_length_le]
    rw [length_toBytes]
    omega

end Bits

end ContentCode
