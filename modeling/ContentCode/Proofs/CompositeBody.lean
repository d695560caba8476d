import ContentCode.Proofs.Reassembly
import ContentCode.Proofs.UnitGrammar
import ContentCode.Proofs.UnitSequence

/-!
The body of a composite code. It has just the length that its header announces, so that its parts are
cut out of it one behind the other, none reaches past its end, and all of it is shared out among them.
-/

namespace ContentCode

namespace CodeUnit

variable {u : CodeUnit} {parts : List CodeUnit} {e : Error}

/-- Where the parts of a composite unit are cut out of its digest: the first byte of each, and the one
behind its last. -/
def cuts (u : CodeUnit) : List (Nat × Nat) :=
  if u.subtype = .wide then [(0, 16), (16, 32)]
  else
    let size := u.digest.length
    (List.range (MainType.optional u.header.length).length).map (fun i => (8 * i, 8 * (i + 1))) ++
      [(size - 16, size - 16 + 8), (size - 16 + 8, size)]

theorem Divides.length_body (h : Divides parts u) : u.digest.length = u.partBits / 8 * parts.length := by
  have hsizes : (parts.map fun p => p.digest.length) = parts.map fun _ => u.partBits / 8 :=
    List.map_congr_left fun p hp => (h.isPart p hp).length_digest
  rw [← h.digest, List.length_flatMap, hsizes, List.map_const', List.sum_replicate_nat, Nat.mul_comm]

theorem Divides.cuts_eq (h : Divides parts u) (hflags : u.subtype = .wide → u.header.length = 0) :
    u.cuts = (List.range parts.length).map fun i =>
      (u.partBits / 8 * i, u.partBits / 8 * i + u.partBits / 8) := by
  have hlength := Composite.length_parts h
  by_cases hs : u.subtype = .wide
  · have hnone : MainType.optional u.header.length = [] :=
      (MainType.optional_eq_nil _ u.header.length_lt).2 (hflags hs)
    rw [hlength, hnone, cuts, if_pos hs, partBits, if_pos hs]
    rfl
  · have hbody := h.length_body
    rw [partBits, if_neg hs, hlength] at hbody
    rw [hlength, cuts, if_neg hs, partBits, if_neg hs, hbody]
    generalize (MainType.optional u.header.length).length = k
    have hend : 64 / 8 * (k + 2) = 8 * (k + 1) + 8 := by omega
    simp only [List.range_succ, List.map_append, List.map_singleton, List.append_assoc, hend]
    rfl

theorem Divides.cuts_digests (h : Divides parts u) (hflags : u.subtype = .wide → u.header.length = 0) :
    (∀ c ∈ u.cuts, c.1 ≤ c.2 ∧ c.2 ≤ u.digest.length) ∧
      parts.map CodeUnit.digest = u.cuts.map fun c => (u.digest.take c.2).drop c.1 := by
  rw [h.cuts_eq hflags]
  refine ⟨fun c hc => ?_, ?_⟩
  · obtain ⟨i, hi, rfl⟩ := List.mem_map.1 hc
    rw [h.length_body, ← Nat.mul_succ]
    exact ⟨Nat.mul_le_mul_left _ (Nat.le_succ i), Nat.mul_le_mul_left _ (List.mem_range.1 hi)⟩
  · have hdigests : ∀ d ∈ parts.map CodeUnit.digest, d.length = u.partBits / 8 :=
      List.forall_mem_map.2 fun p hp => (h.isPart p hp).length_digest
    have hslices := map_range_slice hdigests
    rw [← List.flatMap_def, h.digest, List.length_map] at hslices
    rw [List.map_map]
    exact hslices.symm

theorem error_of_parts (ht : u.maintype = .iscc) (h : u.parts = .error e) :
    e = .wideWithFlags u.header.length := by
  have hwide : ¬ (u.subtype = .wide → u.header.length = 0) := by
    intro hflags
    obtain ⟨parts, hparts, -⟩ := exists_parts ht hflags
    rw [h] at hparts
    cases hparts
  obtain ⟨hs, hflags⟩ := Classical.not_imp.1 hwide
  rw [parts_wide_flags hs hflags] at h
  exact (Except.error.inj h).symm

theorem forall_mem_readAll (bytes : List UInt8) : ∀ entry ∈ readAll bytes, FailsOnBytes entry.1 := by
  fun_induction readAll bytes with
  | case1 => exact List.forall_mem_nil _
  | case2 bytes hbytes e rest h =>
      have hread := failsOnBytes_read bytes
      rw [h] at hread
      exact List.forall_mem_singleton.2 hread
  | case3 bytes hbytes u rest h _ ih => exact List.forall_mem_cons.2 ⟨.ok u, ih⟩

end CodeUnit

namespace Composite

open CodeUnit

variable {code : String} {codes : List String} {u : CodeUnit} {parts : List CodeUnit} {e : Error}

def IsIndivisible (e : Error) : Prop :=
  e.IsUnreadable ∨ (∃ t, e = .notComposite t) ∨ ∃ flags, e = .wideWithFlags flags

theorem failsWith_parts (ht : u.maintype = .iscc) : FailsWith IsIndivisible u.parts :=
  fun _ he => .inr (.inr ⟨_, error_of_parts ht he⟩)

theorem failsWith_decompose (code : String) : FailsWith IsIndivisible (decompose code) := by
  refine ((Code.failsOnBytes_decode code).imp fun _ => .inl).bind fun u => ?_
  by_cases ht : u.maintype = .iscc
  · simp only [ht, ne_eq, not_true_eq_false, if_false]
    exact (failsWith_parts ht).bind fun _ => .ok _
  · simp only [ht, ne_eq, not_false_eq_true, if_true]
    exact .error (.inr (.inl ⟨_, rfl⟩))

theorem failsWith_split (code : String) : FailsWith IsIndivisible (split code) := by
  rw [split_eq]
  refine ((Code.failsOnBytes_toBytes code).imp fun _ => .inl).bind fun bytes => ?_
  refine (FailsWith.mapM fun entry hentry => ?_).bind fun _ => .ok _
  refine ((forall_mem_readAll bytes entry hentry).imp fun _ => .inl).bind fun u => ?_
  rw [expand]
  split
  next ht => exact failsWith_parts ht
  next => exact .ok _

/-- A composite code shares out its digest, in full, among units that stand in the order of the main
types. -/
structure SharesOut (u : CodeUnit) (codes : List String) (parts : List CodeUnit) : Prop where
  decoded : codes.mapM Code.decode = .ok parts
  count : codes.length = (Bits.ofNat 8 u.header.length).count true + 2
  two_of_wide : u.subtype = .wide → codes.length = 2
  ascending : MainType.Ascending (parts.map maintype)
  mandatory : [.data, .inst] <:+ parts.map maintype
  digest : parts.flatMap CodeUnit.digest = u.digest

theorem exists_decompose_iff : (∃ codes, decompose code = .ok codes) ↔
    ∃ u, Code.decode code = .ok u ∧ u.maintype = .iscc ∧ ¬ (u.subtype = .wide ∧ u.header.length ≠ 0) := by
  simp only [decompose_eq_ok, not_and, not_not]
  constructor
  · rintro ⟨_, u, parts, hu, ht, hparts, -⟩
    exact ⟨u, hu, ht, flags_eq_zero_of_parts hparts⟩
  · rintro ⟨u, hu, ht, hflags⟩
    obtain ⟨parts, hparts, -⟩ := exists_parts ht hflags
    exact ⟨_, u, parts, hu, ht, hparts, rfl⟩

theorem sharesOut_of_decompose (h : decompose code = .ok codes) :
    ∃ u parts, Code.decode code = .ok u ∧ SharesOut u codes parts := by
  obtain ⟨u, parts, hu, ht, hparts, rfl⟩ := decompose_eq_ok.1 h
  have hdivides := divides_of_parts ht hparts
  have hflags := flags_eq_zero_of_parts hparts
  have hcount : (parts.map toCode).length = (MainType.optional u.header.length).length + 2 := by
    rw [List.length_map, length_parts hdivides]
  refine ⟨u, parts, hu, mapM_decode_toCode hdivides.isCanonical, ?_, fun hs => ?_, ?_, ?_, hdivides.digest⟩
  · rw [hcount, MainType.length_optional _ u.header.length_lt]
  · rw [hcount, (MainType.optional_eq_nil _ u.header.length_lt).2 (hflags hs)]
    rfl
  · rw [hdivides.types]
    exact (MainType.optional_ascending _ u.header.length_lt).2
  · rw [hdivides.types]
    exact List.suffix_append _ _

/-- Just the composite codes but for wide ones with flags can be taken apart. Nothing of the digest is
lost, no byte outside of it is asked for, and no code fails for a body or a digest that is too short. -/
theorem decompose_lossless :
    (∀ code, (∃ codes, decompose code = .ok codes) ↔
      ∃ u, Code.decode code = .ok u ∧ u.maintype = .iscc ∧ ¬ (u.subtype = .wide ∧ u.header.length ≠ 0)) ∧
    (∀ code codes, decompose code = .ok codes →
      ∃ u parts, Code.decode code = .ok u ∧ SharesOut u codes parts) ∧
    (∀ (u : CodeUnit) (parts : List CodeUnit), u.maintype = .iscc → u.parts = .ok parts → 16 ≤ u.digest.length ∧
      (∀ c ∈ u.cuts, c.1 ≤ c.2 ∧ c.2 ≤ u.digest.length) ∧
      parts.map CodeUnit.digest = u.cuts.map fun c => (u.digest.take c.2).drop c.1) ∧
    ∀ code e, decompose code = .error e ∨ split code = .error e →
      (∀ expected actual, e ≠ .truncatedBody expected actual) ∧
        ∀ bits expected actual, e ≠ .digestTooShort bits expected actual := by
  refine ⟨fun _ => exists_decompose_iff, fun _ _ => sharesOut_of_decompose, fun u parts ht h => ?_,
    fun code e h => ?_⟩
  · have hdivides := divides_of_parts ht h
    refine ⟨?_, hdivides.cuts_digests (flags_eq_zero_of_parts h)⟩
    have hpart : 8 ≤ u.partBits / 8 := (Nat.le_div_iff_mul_le (by decide)).2 u.le_partBits
    rw [hdivides.length_body, length_parts hdivides]
    exact Nat.mul_le_mul hpart (Nat.le_add_left 2 _)
  · have hreason : IsIndivisible e := h.elim (failsWith_decompose code e) (failsWith_split code e)
    rcases hreason with hreason | ⟨t, rfl⟩ | ⟨flags, rfl⟩
    · cases e <;> simp_all [Error.IsUnreadable]
    · simp
    · simp

end Composite

end ContentCode
