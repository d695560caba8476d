import ContentCode.Similarity.SimHash
import ContentCode.Proofs.BitGroups

/-!
The bitwise majority of digests of one size is a digest of that size, and it is cut to its first
bytes when all of them are. Each of its bits is set if it is set in half of the digests or more, so
that their order counts for nothing, nor does it if all of them come several times.
-/

namespace ContentCode

namespace Bits

/-- The bit at a place of some bytes; the first place is that of the highest bit of the first byte. -/
def bitAt (bytes : List UInt8) (j : Nat) : Bool := (bytes.getD (j / 8) 0).toNat.testBit (7 - j % 8)

theorem getElem?_ofNat {n j : Nat} (h : j < n) (v : Nat) : (ofNat n v)[j]? = some (v.testBit (n - 1 - j)) := by
  induction n generalizing j with
  | zero => omega
  | succ n ih =>
      cases j with
      | zero => rfl
      | succ j =>
          have hplace : n + 1 - 1 - (j + 1) = n - 1 - j := by omega
          rw [ofNat, List.getElem?_cons_succ, ih (by omega), hplace]

theorem getElem?_ofBytes {bytes : List UInt8} {j : Nat} (h : j < 8 * bytes.length) :
    (ofBytes bytes)[j]? = some (bitAt bytes j) := by
  induction bytes generalizing j with
  | nil => simp at h
  | cons b bytes ih =>
      rw [ofBytes_cons]
      by_cases hfirst : j < 8
      · rw [List.getElem?_append_left (by rwa [length_ofNat]), getElem?_ofNat hfirst, bitAt,
          Nat.div_eq_of_lt hfirst, Nat.mod_eq_of_lt hfirst, List.getD_cons_zero]
      · obtain ⟨i, rfl⟩ := Nat.exists_eq_add_of_le' (Nat.not_lt.1 hfirst)
        rw [List.length_cons] at h
        rw [List.getElem?_append_right (by rw [length_ofNat]; omega), length_ofNat, Nat.add_sub_cancel,
          ih (by omega), bitAt, bitAt, Nat.add_mod_right, Nat.add_div_right _ (by decide),
          List.getD_cons_succ]

theorem eq_of_bitAt {xs ys : List UInt8} (hlen : xs.length = ys.length)
    (h : ∀ j < 8 * xs.length, bitAt xs j = bitAt ys j) : xs = ys := by
  have hbits : ofBytes xs = ofBytes ys := by
    apply List.ext_getElem?
    intro j
    by_cases hj : j < 8 * xs.length
    · rw [getElem?_ofBytes hj, getElem?_ofBytes (hlen ▸ hj), h j hj]
    · rw [List.getElem?_eq_none (by rw [length_ofBytes]; omega),
        List.getElem?_eq_none (by rw [length_ofBytes]; omega)]
  rw [← toBytes_ofBytes xs, hbits, toBytes_ofBytes]

end Bits

namespace SimHash

open Bits

variable {size : Nat} {digests : List (List UInt8)}

theorem simhash_of_sizes (hne : digests ≠ []) (h : ∀ d ∈ digests, d.length = size) :
    simhash digests = .ok (majority size digests) := by
  cases digests with
  | nil => exact absurd rfl hne
  | cons d ds =>
      have hd := h d List.mem_cons_self
      have hsame : ((d :: ds).map List.length).findIdx? (· ≠ d.length) = none := by
        rw [List.findIdx?_eq_none_iff]
        intro n hn
        obtain ⟨e, he, rfl⟩ := List.mem_map.1 hn
        simp [h e he, hd]
      rw [hd] at hsame
      simp only [simhash, hd, hsame]

theorem length_tally (h : ∀ d ∈ digests, d.length = size) : (tally size digests).length = 8 * size := by
  -- every digest is added to as many counts as it has bits
  have hcounts : ∀ counts : List Nat, counts.length = 8 * size →
      (digests.foldl (fun counts d => List.zipWith (fun n b => n + b.toNat) counts (ofBytes d))
        counts).length = 8 * size := by
    induction digests with
    | nil => exact fun _ hc => hc
    | cons d ds ih =>
        rw [List.forall_mem_cons] at h
        intro counts hc
        rw [List.foldl_cons]
        apply ih h.2
        rw [List.length_zipWith, hc, length_ofBytes, h.1, Nat.min_self]
  exact hcounts _ List.length_replicate

theorem length_majority (h : ∀ d ∈ digests, d.length = size) : (majority size digests).length = size := by
  rw [majority, length_toBytes, List.length_map, length_tally h]
  omega

theorem tally_take {k : Nat} (h : k ≤ size) (digests : List (List UInt8)) :
    tally k (digests.map (List.take k)) = (tally size digests).take (8 * k) := by
  have hcounts : ∀ counts : List Nat,
      (digests.map (List.take k)).foldl
        (fun counts d => List.zipWith (fun n b => n + b.toNat) counts (ofBytes d)) (counts.take (8 * k)) =
      (digests.foldl (fun counts d => List.zipWith (fun n b => n + b.toNat) counts (ofBytes d))
        counts).take (8 * k) := by
    induction digests with
    | nil => exact fun _ => rfl
    | cons d ds ih =>
        intro counts
        rw [List.map_cons, List.foldl_cons, List.foldl_cons, ofBytes_take, ← List.take_zipWith, ih]
  have hzero : List.replicate (8 * k) 0 = (List.replicate (8 * size) 0).take (8 * k) := by
    rw [List.take_replicate, Nat.min_eq_left (by omega)]
  rw [tally, hzero, hcounts, tally]

theorem majority_take {k : Nat} (h : k ≤ size) (digests : List (List UInt8)) :
    majority k (digests.map (List.take k)) = (majority size digests).take k := by
  rw [majority, tally_take h, List.length_map, List.map_take, toBytes_take, majority]

theorem exists_simhash (h : ∀ d ∈ digests, d.length = 32) :
    ∃ hash, simhash digests = .ok hash ∧ hash.length = 32 := by
  by_cases hne : digests = []
  · subst hne
    exact ⟨_, rfl, List.length_replicate⟩
  · exact ⟨_, simhash_of_sizes hne h, length_majority h⟩

theorem getElem?_tally (h : ∀ d ∈ digests, d.length = size) {j : Nat} (hj : j < 8 * size) :
    (tally size digests)[j]? = some (digests.countP (bitAt · j)) := by
  have hcounts : ∀ counts : List Nat,
      (digests.foldl (fun counts d => List.zipWith (fun n b => n + b.toNat) counts (ofBytes d)) counts)[j]? =
        counts[j]?.map (· + digests.countP (bitAt · j)) := by
    induction digests with
    | nil => simp
    | cons d ds ih =>
        rw [List.forall_mem_cons] at h
        intro counts
        rw [List.foldl_cons, ih h.2, List.getElem?_zipWith, getElem?_ofBytes (h.1 ▸ hj), List.countP_cons]
        cases counts[j]? with
        | none => rfl
        | some n =>
            cases hbit : bitAt d j with
            | false => simp
            | true => simp; omega
  rw [tally, hcounts, List.getElem?_replicate_of_lt hj, Option.map_some, Nat.zero_add]

theorem bitAt_majority (h : ∀ d ∈ digests, d.length = size) {j : Nat} (hj : j < 8 * size) :
    bitAt (majority size digests) j = decide (digests.length ≤ 2 * digests.countP (bitAt · j)) := by
  have hbits : ofBytes (majority size digests) =
      (tally size digests).map fun n => decide (digests.length ≤ 2 * n) := by
    rw [majority, ofBytes_toBytes_of_dvd]
    rw [List.length_map, length_tally h]
    exact Nat.dvd_mul_right 8 size
  have hbit : (ofBytes (majority size digests))[j]? = some (bitAt (majority size digests) j) :=
    getElem?_ofBytes (by rwa [length_majority h])
  rw [hbits, List.getElem?_map, getElem?_tally h hj] at hbit
  exact (Option.some.inj hbit).symm

theorem majority_of_perm {digests' : List (List UInt8)} (hperm : digests'.Perm digests)
    (h : ∀ d ∈ digests, d.length = size) : majority size digests' = majority size digests := by
  have h' : ∀ d ∈ digests', d.length = size := fun d hd => h d (hperm.mem_iff.1 hd)
  have hlen : (majority size digests').length = (majority size digests).length := by
    rw [length_majority h, length_majority h']
  refine Bits.eq_of_bitAt hlen fun j hj => ?_
  rw [length_majority h'] at hj
  rw [bitAt_majority h hj, bitAt_majority h' hj, hperm.length_eq, hperm.countP_eq]

/-- A digest in which a bit is set if and only if it is in half of the digests or more. -/
structure IsMajority (digests : List (List UInt8)) (hash : List UInt8) : Prop where
  length_eq : ∀ d ∈ digests, hash.length = d.length
  bit_iff : ∀ j < 8 * hash.length,
    bitAt hash j = true ↔ digests.length ≤ 2 * digests.countP (bitAt · j)

theorem isMajority_majority (h : ∀ d ∈ digests, d.length = size) :
    IsMajority digests (majority size digests) where
  length_eq d hd := by rw [length_majority h, h d hd]
  bit_iff j hj := by
    rw [length_majority h] at hj
    rw [bitAt_majority h hj, decide_eq_true_iff]

namespace IsMajority

variable {hash : List UInt8}

theorem unique {hash' : List UInt8} (hne : digests ≠ []) (h : IsMajority digests hash)
    (h' : IsMajority digests hash') : hash = hash' := by
  obtain ⟨d, hd⟩ := List.exists_mem_of_ne_nil digests hne
  have hlen : hash.length = hash'.length := by rw [h.length_eq d hd, h'.length_eq d hd]
  refine eq_of_bitAt hlen fun j hj => ?_
  rw [Bool.eq_iff_iff, h.bit_iff j hj, h'.bit_iff j (hlen ▸ hj)]

theorem of_perm {digests' : List (List UInt8)} (h : IsMajority digests hash) (hperm : digests'.Perm digests) :
    IsMajority digests' hash where
  length_eq d hd := h.length_eq d (hperm.mem_iff.1 hd)
  bit_iff j hj := by rw [h.bit_iff j hj, hperm.length_eq, hperm.countP_eq]

theorem of_replicate {n : Nat} (hn : 0 < n) (h : IsMajority digests hash) :
    IsMajority (List.replicate n digests).flatten hash where
  length_eq d hd := by
    obtain ⟨digests', hdigests', hd⟩ := List.mem_flatten.1 hd
    rw [List.eq_of_mem_replicate hdigests'] at hd
    exact h.length_eq d hd
  bit_iff j hj := by
    rw [h.bit_iff j hj, List.length_flatten, List.countP_flatten, List.map_replicate, List.map_replicate,
      List.sum_replicate_nat, List.sum_replicate_nat, Nat.mul_left_comm, Nat.mul_le_mul_left_iff hn]

theorem of_copies (hne : digests ≠ []) (h : ∀ d ∈ digests, d = hash) : IsMajority digests hash where
  length_eq d hd := by rw [h d hd]
  bit_iff j hj := by
    have hpos : 0 < digests.length := List.length_pos_iff.2 hne
    have hcopies : digests.countP (bitAt · j) = digests.countP fun _ => bitAt hash j :=
      List.countP_congr fun d hd => by rw [h d hd]
    rw [hcopies]
    cases bitAt hash j with
    | false => simp; omega
    | true => simp; omega

end IsMajority

theorem simhash_eq_ok_iff {hash : List UInt8} (hne : digests ≠ []) (h : ∀ d ∈ digests, d.length = size) :
    simhash digests = .ok hash ↔ IsMajority digests hash := by
  have hmajority := isMajority_majority h
  rw [simhash_of_sizes hne h, Except.ok.injEq]
  constructor
  · rintro rfl
    exact hmajority
  · exact hmajority.unique hne

theorem simhash_take {hash : List UInt8} (hne : digests ≠ []) (h : ∀ d ∈ digests, d.length = size)
    (hhash : simhash digests = .ok hash) (k : Nat) :
    simhash (digests.map (List.take k)) = .ok (hash.take k) := by
  rw [simhash_of_sizes hne h] at hhash
  obtain rfl := Except.ok.inj hhash
  by_cases hk : k ≤ size
  · have hsizes : ∀ d ∈ digests.map (List.take k), d.length = k := by
      intro d hd
      obtain ⟨e, he, rfl⟩ := List.mem_map.1 hd
      rw [List.length_take, h e he, Nat.min_eq_left hk]
    rw [simhash_of_sizes (by simpa using hne) hsizes, majority_take hk]
  · have hall : digests.map (List.take k) = digests := by
      conv_rhs => rw [← List.map_id digests]
      exact List.map_congr_left fun d hd => List.take_of_length_le (by rw [h d hd]; omega)
    rw [hall, simhash_of_sizes hne h, List.take_of_length_le (by rw [length_majority h]; omega)]

theorem exists_simhash_error {first : List UInt8} {rest : List (List UInt8)}
    (h : ∃ d ∈ rest, d.length ≠ first.length) : ∃ i d, (first :: rest)[i]? = some d ∧
      d.length ≠ first.length ∧ (∀ d' ∈ (first :: rest).take i, d'.length = first.length) ∧
      simhash (first :: rest) = .error (.unequalDigests first.length d.length i) := by
  cases hfind : ((first :: rest).map List.length).findIdx? (· ≠ first.length) with
  | none =>
      obtain ⟨d, hd, hlen⟩ := h
      rw [List.findIdx?_eq_none_iff] at hfind
      have hsame := hfind d.length (List.mem_map_of_mem (List.mem_cons_of_mem first hd))
      exact absurd hlen (by simpa using hsame)
  | some i =>
      obtain ⟨hi, hdiffers, hbefore⟩ := List.findIdx?_eq_some_iff_getElem.1 hfind
      rw [List.length_map] at hi
      rw [List.getElem_map, decide_eq_true_iff] at hdiffers
      refine ⟨i, (first :: rest)[i], List.getElem?_eq_getElem hi, hdiffers, ?_, ?_⟩
      · intro e he
        obtain ⟨j, hj, rfl⟩ := List.mem_take_iff_getElem.1 he
        have hsame := hbefore j (by omega)
        rwa [List.getElem_map, decide_eq_true_iff, not_not] at hsame
      · simp only [simhash, hfind]
        rw [List.getD_eq_getElem?_getD, List.getElem?_map, List.getElem?_eq_getElem hi]
        rfl

/-- The SimHash of digests of equal length is their majority bit by bit, so that it is the same for
them in any order and several times over, for copies of one digest that digest, and for the first
bytes of all of them its own first bytes. Digests of unequal length are refused. -/
theorem simhash_bitwise (first : List UInt8) (rest : List (List UInt8)) :
    ((∀ d ∈ rest, d.length = first.length) → ∃ hash, simhash (first :: rest) = .ok hash ∧
      hash.length = first.length ∧
      (∀ j < 8 * first.length, bitAt hash j = true ↔
        (first :: rest).length ≤ 2 * (first :: rest).countP (bitAt · j)) ∧
      (∀ digests, digests.Perm (first :: rest) → simhash digests = .ok hash) ∧
      (∀ n, 0 < n → simhash (List.replicate n (first :: rest)).flatten = .ok hash) ∧
      ((∀ d ∈ rest, d = first) → hash = first) ∧
      ∀ k, simhash ((first :: rest).map (List.take k)) = .ok (hash.take k)) ∧
    ((∃ d ∈ rest, d.length ≠ first.length) → ∃ i d e, (first :: rest)[i]? = some d ∧
      d.length ≠ first.length ∧ (∀ d' ∈ (first :: rest).take i, d'.length = first.length) ∧
      simhash (first :: rest) = .error e ∧ e.kind = .invalidArgument ∧
      e.message = "Invalid argument: " ++
        s!"All digests must have equal length: expected {first.length} bytes, got {d.length} at index {i}") := by
  constructor
  · intro h
    have hsizes : ∀ d ∈ first :: rest, d.length = first.length := List.forall_mem_cons.2 ⟨rfl, h⟩
    have hne : first :: rest ≠ [] := List.cons_ne_nil first rest
    have hhash := simhash_of_sizes hne hsizes
    have hmajority := isMajority_majority hsizes
    have hlen := hmajority.length_eq first List.mem_cons_self
    refine ⟨_, hhash, hlen, fun j hj => hmajority.bit_iff j (by rwa [hlen]), fun digests hperm => ?_,
      fun n hn => ?_, fun hcopies => ?_, simhash_take hne hsizes hhash⟩
    · have hne' : digests ≠ [] := fun hnil => hne (List.perm_nil.1 (hnil ▸ hperm.symm))
      exact (simhash_eq_ok_iff hne' fun d hd => hsizes d (hperm.mem_iff.1 hd)).2 (hmajority.of_perm hperm)
    · have hrepeated := hmajority.of_replicate hn
      refine (simhash_eq_ok_iff ?_ fun d hd => (hrepeated.length_eq d hd).symm).2 hrepeated
      simp [hn.ne']
    · exact hmajority.unique hne (.of_copies hne (List.forall_mem_cons.2 ⟨rfl, hcopies⟩))
  · intro h
    obtain ⟨i, d, hd, hdiffers, hbefore, herror⟩ := exists_simhash_error h
    exact ⟨i, d, _, hd, hdiffers, hbefore, herror, rfl, rfl⟩

theorem simhash_bitwise_tie :
    (∃ hash, simhash [[0x80, 0x03], [0x00, 0x01]] = .ok hash ∧ hash.length = 2 ∧
      bitAt hash 0 = true ∧ bitAt hash 1 = false ∧ bitAt hash 14 = true ∧ bitAt hash 15 = true ∧
      simhash [[0x80], [0x00]] = .ok (hash.take 1)) ∧
    ∃ e, simhash [[0x80, 0x03], [0x00, 0x01], [0xFF], []] = .error e ∧ e.kind = .invalidArgument := by
  obtain ⟨hash, hhash, hlen, hbits, -, -, -, htake⟩ :=
    (simhash_bitwise [0x80, 0x03] [[0x00, 0x01]]).1 (by decide)
  obtain ⟨-, -, e, -, -, -, herror, hkind, -⟩ :=
    (simhash_bitwise [0x80, 0x03] [[0x00, 0x01], [0xFF], []]).2 (by decide)
  refine ⟨⟨hash, hhash, hlen, (hbits 0 (by decide)).2 (by decide), ?_, (hbits 14 (by decide)).2 (by decide),
    (hbits 15 (by decide)).2 (by decide), htake 1⟩, e, herror, hkind⟩
  rw [← Bool.not_eq_true, hbits 1 (by decide)]
  decide

end SimHash

end ContentCode
