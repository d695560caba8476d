import ContentCode.Proofs.CompositeParts

/-!
Units one after the other. Bytes are read as a sequence of units if and only if they are the bytes of
these units, so a text splits in one way only, and splitting it once more changes nothing.
-/

namespace ContentCode

namespace CodeUnit

variable {bytes rest : List UInt8} {u : CodeUnit} {units units' parts : List CodeUnit}

theorem IsCanonical.le_length_toBytes (hu : u.IsCanonical) : 6 ≤ u.toBytes.length := by
  have hsize : 4 ≤ u.header.digestSize := by
    rw [Header.digestSize, Header.digestBits]
    simp only [MainType.digestBits]
    split
    · split <;> omega
    · omega
    · omega
  rw [u.length_toBytes, (isCanonical_iff.1 hu).1]
  omega

theorem length_read (h : read bytes = (.ok u, rest)) : rest.length + 6 ≤ bytes.length := by
  obtain ⟨hu, rfl⟩ := read_eq_ok.1 h
  have := hu.le_length_toBytes
  rw [List.length_append]
  omega

theorem length_readAll (bytes : List UInt8) : 6 * (readAll bytes).length ≤ bytes.length + 5 := by
  fun_induction readAll bytes with
  | case1 => simp
  | case2 bytes hbytes e rest h =>
      have := List.length_pos_iff.2 hbytes
      rw [List.length_singleton]
      omega
  | case3 bytes hbytes u rest h _ ih =>
      have := length_read h
      rw [List.length_cons]
      omega

/-- The one description of bytes that are read to the end. -/
theorem readAll_eq_ok : (readAll bytes).map Prod.fst = units.map .ok ↔
    (∀ u ∈ units, u.IsCanonical) ∧ bytes = units.flatMap toBytes := by
  fun_induction readAll bytes generalizing units with
  | case1 =>
      cases units with
      | nil => simp
      | cons u units =>
          refine iff_of_false (by simp) ?_
          rintro ⟨hunits, hbytes⟩
          have hu := (hunits u List.mem_cons_self).le_length_toBytes
          rw [List.flatMap_cons, eq_comm, List.append_eq_nil_iff] at hbytes
          simp [hbytes.1] at hu
  | case2 bytes hbytes e rest h =>
      cases units with
      | nil => exact iff_of_false (by simp) fun hunits => hbytes hunits.2
      | cons u units =>
          refine iff_of_false (by simp) ?_
          rintro ⟨hunits, rfl⟩
          rw [List.flatMap_cons, read_eq_ok.2 ⟨hunits u List.mem_cons_self, rfl⟩] at h
          cases h
  | case3 bytes hbytes u rest h _ ih =>
      obtain ⟨hu, rfl⟩ := read_eq_ok.1 h
      cases units with
      | nil => exact iff_of_false (by simp) fun hunits => hbytes hunits.2
      | cons v units =>
          rw [List.map_cons, List.map_cons, List.cons.injEq, Except.ok.injEq, ih, List.forall_mem_cons,
            List.flatMap_cons]
          constructor
          · rintro ⟨rfl, hunits, rfl⟩
            exact ⟨⟨hu, hunits⟩, rfl⟩
          · rintro ⟨⟨hv, hunits⟩, hbytes⟩
            -- both ways of reading take the same unit first
            rw [read_eq_ok.2 ⟨hv, hbytes⟩, Prod.mk.injEq, Except.ok.injEq] at h
            exact ⟨h.1.symm, hunits, h.2.symm⟩

theorem flatMap_toBytes_inj (hunits : ∀ u ∈ units, u.IsCanonical) (hunits' : ∀ u ∈ units', u.IsCanonical)
    (h : units.flatMap toBytes = units'.flatMap toBytes) : units = units' := by
  have hread : (readAll (units.flatMap toBytes)).map Prod.fst = units.map .ok :=
    readAll_eq_ok.2 ⟨hunits, rfl⟩
  rw [h, readAll_eq_ok.2 ⟨hunits', rfl⟩] at hread
  exact (List.map_injective_iff.2 (fun _ _ => Except.ok.inj) hread).symm

/-- What stands for a unit in a split text. -/
def expand (u : CodeUnit) : Except Error (List CodeUnit) :=
  if u.maintype = .iscc then u.parts else .ok [u]

theorem of_mem_expand (hu : u.IsCanonical) (h : u.expand = .ok parts) :
    ∀ p ∈ parts, p.IsCanonical ∧ p.maintype ≠ .iscc := by
  rw [expand] at h
  split at h
  next ht =>
    have hdivides := divides_of_parts ht h
    intro p hp
    refine ⟨hdivides.isCanonical p hp, fun hiscc => ?_⟩
    have hc := hdivides.isComposable p hp
    rw [hiscc] at hc
    cases hc
  next ht =>
    cases h
    simpa using ⟨hu, ht⟩

theorem of_mem_flatten {pieces : List (List CodeUnit)} (hunits : ∀ u ∈ units, u.IsCanonical)
    (h : List.Forall₂ (fun u parts => expand u = .ok parts) units pieces) :
    ∀ p ∈ pieces.flatten, p.IsCanonical ∧ p.maintype ≠ .iscc := by
  intro p hp
  obtain ⟨parts, hparts, hp⟩ := List.mem_flatten.1 hp
  have hmem : .ok parts ∈ units.map expand := by
    rw [(map_eq_map (g := .ok)).2 h]
    exact List.mem_map_of_mem hparts
  obtain ⟨u, hu, hexpand⟩ := List.mem_map.1 hmem
  exact of_mem_expand (hunits u hu) hexpand p hp

end CodeUnit

namespace Composite

open CodeUnit

variable {code : String} {codes : List String} {u : CodeUnit} {units : List CodeUnit}
  {pieces : List (List String)}

def Expands (u : CodeUnit) (piece : List String) : Prop :=
  if u.maintype = .iscc then decompose u.toCode = .ok piece else piece = [u.toCode]

theorem expands_iff (hu : u.IsCanonical) {piece : List String} : Expands u piece ↔
    ∃ parts, u.expand = .ok parts ∧ parts.map toCode = piece := by
  simp only [Expands, expand]
  split
  next ht =>
    rw [decompose_of_decode (Code.decode_toCode hu) ht]
    cases u.parts <;> simp [Except.map]
  next => simp [eq_comm]

theorem exists_expands : (∃ piece, Expands u piece) ↔
    (u.maintype = .iscc → ∃ parts, decompose u.toCode = .ok parts) := by
  simp only [Expands]
  split
  next ht => simp [ht]
  next ht => simp [ht]

theorem split_eq (code : String) : split code = (do
    let bytes ← Code.toBytes code
    let pieces ← (readAll bytes).mapM fun entry => entry.1 >>= expand
    return pieces.flatten.map toCode) := rfl

theorem split_eq_ok : split code = .ok codes ↔ ∃ units pieces, (∀ u ∈ units, u.IsCanonical) ∧
    Code.toBytes code = .ok (units.flatMap toBytes) ∧
    List.Forall₂ (fun u parts => expand u = .ok parts) units pieces ∧
    codes = pieces.flatten.map toCode := by
  have hread {bytes : List UInt8} {units : List CodeUnit} :
      List.Forall₂ (fun entry u => entry.1 = .ok u) (readAll bytes) units ↔
        (∀ u ∈ units, u.IsCanonical) ∧ bytes = units.flatMap toBytes :=
    map_eq_map.symm.trans readAll_eq_ok
  simp only [split_eq, bind_eq_ok, pure_eq_ok, mapM_eq_ok, forall₂_comp, hread]
  constructor
  · rintro ⟨_, hbytes, pieces, ⟨units, ⟨hunits, rfl⟩, hpieces⟩, rfl⟩
    exact ⟨units, pieces, hunits, hbytes, hpieces, rfl⟩
  · rintro ⟨units, pieces, hunits, hbytes, hpieces, rfl⟩
    exact ⟨_, hbytes, pieces, ⟨units, ⟨hunits, rfl⟩, hpieces⟩, rfl⟩

theorem forall₂_expands (hunits : ∀ u ∈ units, u.IsCanonical) :
    List.Forall₂ Expands units pieces ↔ ∃ parts,
      List.Forall₂ (fun u parts => expand u = .ok parts) units parts ∧
      parts.map (List.map toCode) = pieces := by
  have hsame : List.Forall₂ Expands units pieces ↔ List.Forall₂
      (fun u piece => ∃ parts, expand u = .ok parts ∧ parts.map toCode = piece) units pieces := by
    simp only [List.forall₂_iff_zip]
    refine and_congr_right fun _ => forall₂_congr fun u piece => forall_congr' fun hmem => ?_
    exact expands_iff (hunits u (List.of_mem_zip hmem).1)
  rw [hsame, forall₂_comp]
  refine exists_congr fun parts => and_congr_right fun _ => ?_
  exact (map_eq_map (g := id)).symm.trans (by rw [List.map_id])

theorem split_encode (hunits : ∀ u ∈ units, u.IsCanonical) :
    split (Base32.encode (units.flatMap toBytes)) = .ok codes ↔
      ∃ pieces, List.Forall₂ Expands units pieces ∧ codes = pieces.flatten := by
  have hbytes : Code.toBytes (Base32.encode (units.flatMap toBytes)) = .ok (units.flatMap toBytes) := by
    rw [Code.toBytes, Code.clean_encode, Base32.decode_encode]
    rfl
  simp only [split_eq_ok, forall₂_expands hunits, hbytes, Except.ok.injEq]
  constructor
  · rintro ⟨units', parts, hunits', hsame, hparts, rfl⟩
    obtain rfl := flatMap_toBytes_inj hunits hunits' hsame
    exact ⟨_, ⟨parts, hparts, rfl⟩, List.map_flatten⟩
  · rintro ⟨_, ⟨parts, hparts, rfl⟩, rfl⟩
    exact ⟨units, parts, hunits, rfl, hparts, List.map_flatten.symm⟩

theorem split_plain (hunits : ∀ u ∈ units, u.IsCanonical) (hplain : ∀ u ∈ units, u.maintype ≠ .iscc) :
    split (Base32.encode (units.flatMap toBytes)) = .ok (units.map toCode) := by
  refine (split_encode hunits).2 ⟨units.map fun u => [u.toCode], ?_, ?_⟩
  · rw [List.forall₂_map_right_iff, List.forall₂_same]
    exact fun u hu => by rw [Expands, if_neg (hplain u hu)]
  · rw [← List.flatMap_def, List.map_eq_flatMap]

/-- Texts split if and only if they are those of units that can all be expanded. Their codes take the
units' places in order, and split again into themselves. -/
theorem split_concatenation :
    (∀ units : List CodeUnit, (∀ u ∈ units, u.Obtained) →
      ((∃ codes, split (Base32.encode (units.flatMap toBytes)) = .ok codes) ↔
        ∀ u ∈ units, u.maintype = .iscc → ∃ parts, decompose u.toCode = .ok parts) ∧
      ∀ codes, split (Base32.encode (units.flatMap toBytes)) = .ok codes ↔
        ∃ pieces, List.Forall₂ Expands units pieces ∧ codes = pieces.flatten) ∧
    (∀ code codes, split code = .ok codes →
      (∃ units : List CodeUnit, (∀ u ∈ units, u.Obtained) ∧
        Code.toBytes code = .ok (units.flatMap toBytes) ∧
        ∀ u ∈ units, u.maintype = .iscc → ∃ parts, decompose u.toCode = .ok parts) ∧
      ∃ parts : List CodeUnit, codes.mapM Code.decode = .ok parts ∧
        (∀ p ∈ parts, p.maintype ≠ .iscc) ∧
        split (Base32.encode (parts.flatMap toBytes)) = .ok codes) ∧
    (∀ bytes u rest, read bytes = (.ok u, rest) → rest.length + 6 ≤ bytes.length) ∧
    ∀ bytes, 6 * (readAll bytes).length ≤ bytes.length + 5 := by
  simp only [obtained_iff_isCanonical]
  refine ⟨fun units hunits => ⟨?_, fun codes => split_encode hunits⟩, fun code codes h => ?_,
    fun _ _ _ => length_read, length_readAll⟩
  · simp only [split_encode hunits, ← exists_expands, ← exists_forall₂]
    exact ⟨fun ⟨_, pieces, hpieces, _⟩ => ⟨pieces, hpieces⟩,
      fun ⟨pieces, hpieces⟩ => ⟨_, pieces, hpieces, rfl⟩⟩
  · obtain ⟨units, pieces, hunits, hbytes, hpieces, rfl⟩ := split_eq_ok.1 h
    have hmem := of_mem_flatten hunits hpieces
    refine ⟨⟨units, hunits, hbytes, fun u hu => ?_⟩, pieces.flatten, ?_, ?_, ?_⟩
    · obtain ⟨parts, hparts⟩ := exists_forall₂.1 ⟨pieces, hpieces⟩ u hu
      exact exists_expands.1 ⟨_, (expands_iff (hunits u hu)).2 ⟨parts, hparts, rfl⟩⟩
    · exact mapM_decode_toCode fun p hp => (hmem p hp).1
    · exact fun p hp => (hmem p hp).2
    · exact split_plain (fun p hp => (hmem p hp).1) fun p hp => (hmem p hp).2

end Composite

end ContentCode
