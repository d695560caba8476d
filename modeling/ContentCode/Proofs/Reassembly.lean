import ContentCode.Proofs.Assembly
import ContentCode.Proofs.CodeCanonical

/-!
Taking a composite code apart and assembling its parts gives the code back, but for its subtype. A
code can be read with any subtype that fits its flags; an assembled one has the subtype of its
semantic and content units or, without them, one that tells whether there are optional units.
-/

namespace ContentCode

namespace Composite

/-- The subtype of the composite code that the parts of `u` make up. -/
def canonicalSubtype (u : CodeUnit) : SubType :=
  if u.subtype = .wide ∨ .semantic ∈ MainType.optional u.header.length ∨
      .content ∈ MainType.optional u.header.length then u.subtype
  else if u.header.length = 0 then .sum else .isccNone

variable {code c : String} {codes : List String} {u v : CodeUnit} {parts : List CodeUnit}

theorem canonicalSubtype_eq_wide : canonicalSubtype u = .wide ↔ u.subtype = .wide := by
  simp only [canonicalSubtype]
  split
  next => rfl
  next hno =>
    refine iff_of_false ?_ fun hs => hno (.inl hs)
    split <;> simp

theorem body_eq_flatMap {wide : Bool}
    (h : ∀ p ∈ parts, p.digest.length = if isWide parts wide then 16 else 8) :
    body parts wide = parts.flatMap CodeUnit.digest := by
  rw [body, List.flatMap_def, List.flatMap_def]
  congr 1
  exact List.map_congr_left fun p hp => List.take_of_length_le (h p hp).le

section Parts

variable (h : CodeUnit.Divides parts u) (hflags : u.subtype = .wide → u.header.length = 0)
include h

theorem length_parts : parts.length = (MainType.optional u.header.length).length + 2 := by
  rw [← List.length_map CodeUnit.maintype, h.types, List.length_append]
  rfl

theorem mem_optional_iff {t : MainType} (ht : t = .semantic ∨ t = .content) :
    t ∈ MainType.optional u.header.length ↔ ∃ p ∈ parts, p.maintype = t := by
  rw [← List.mem_map, h.types, List.mem_append]
  refine (or_iff_left fun hmem => ?_).symm
  rcases ht with rfl | rfl <;> simp at hmem

theorem inOrder_parts : inOrder parts = parts := by
  refine inOrder_eq_self ?_
  rw [h.types]
  exact (MainType.optional_ascending _ u.header.length_lt).2.imp Nat.le_of_lt

include hflags

theorem isWide_parts : isWide parts (u.subtype = .wide) = decide (u.subtype = .wide) := by
  by_cases hs : u.subtype = .wide
  · have hlength : parts.length = 2 := by
      rw [length_parts h, (MainType.optional_eq_nil _ u.header.length_lt).2 (hflags hs)]
      rfl
    have hbits : u.partBits = 128 := if_pos hs
    have hall : ∀ p ∈ parts, 128 ≤ p.bits := by
      intro p hp
      rw [(h.isPart p hp).bits, hbits]
    simpa [isWide, hs, hlength] using hall
  · simp [isWide, hs]

theorem subtype_parts :
    subtype parts (u.subtype = .wide) = .ok (canonicalSubtype u) := by
  have hwide := isWide_parts h hflags
  by_cases hs : u.subtype = .wide
  · rw [canonicalSubtype_eq_wide.2 hs, subtype, if_pos (by rw [hwide, decide_eq_true hs])]
  rw [decide_eq_false hs] at hwide ⊢
  refine (subtype_eq_ok hwide).2 ⟨fun p hp hkind => ?_, fun hno => ?_⟩
  · have hmem := (mem_optional_iff h hkind).2 ⟨p, hp, rfl⟩
    rw [(h.isPart p hp).subtype, if_pos hkind, canonicalSubtype, if_pos]
    rcases hkind with hkind | hkind
    · exact .inr (.inl (hkind ▸ hmem))
    · exact .inr (.inr (hkind ▸ hmem))
  · have hnone {t : MainType} (ht : t = .semantic ∨ t = .content) :
        t ∉ MainType.optional u.header.length := by
      rw [mem_optional_iff h ht]
      rintro ⟨p, hp, rfl⟩
      exact hno p hp ht
    rw [canonicalSubtype, if_neg (by simp [hs, hnone]), length_parts h]
    simp only [Nat.add_eq_right, List.length_eq_zero_iff, MainType.optional_eq_nil _ u.header.length_lt]

theorem exists_holds_parts (ht : u.maintype = .iscc) : ∃ v, Holds v parts (u.subtype = .wide) ∧
    v.header.length = u.header.length ∧ v.digest = u.digest ∧ v.subtype = canonicalSubtype u := by
  have hle : u.header.length ≤ MainType.iscc.maxLength := Nat.le_of_lt_succ u.header.length_lt
  have hsize : u.digest.length =
      (⟨.iscc, canonicalSubtype u, .v0, u.header.length, hle⟩ : Header).digestSize := by
    have ht' : u.header.maintype = .iscc := ht
    rw [u.length_digest, Header.digestSize, Header.digestSize, Header.digestBits, Header.digestBits, ht']
    simp only [MainType.digestBits, canonicalSubtype_eq_wide]
    rfl
  obtain ⟨v, hv⟩ := CodeUnit.exists_ofHeader hsize
  obtain ⟨hcanonical, hheader, hdigest⟩ := CodeUnit.ofHeader_eq_ok.1 hv
  have hlength : v.header.length = u.header.length := by rw [hheader]
  have hs : v.subtype = canonicalSubtype u := by rw [CodeUnit.subtype, hheader]
  refine ⟨v, ⟨hcanonical, by rw [CodeUnit.maintype, hheader], rfl, ?_, ?_, ?_, ?_⟩, hlength, hdigest, hs⟩
  · rw [hs]
    exact subtype_parts h hflags
  · rw [hlength]
    exact h.types
  · intro p hp
    rw [(h.isPart p hp).bits]
    exact u.le_partBits
  · rw [hdigest, ← h.digest, body_eq_flatMap]
    intro p hp
    rw [(h.isPart p hp).length_digest, isWide_parts h hflags, CodeUnit.partBits]
    by_cases hwide : u.subtype = .wide <;> simp [hwide]

end Parts

/-- The units of a code that can be taken apart can be assembled, and give the code with its subtype
made canonical. -/
theorem assemble_decompose (h : decompose code = .ok codes) : ∃ u c v, Code.decode code = .ok u ∧
    assemble codes (u.subtype = .wide) = .ok c ∧ Code.decode c = .ok v ∧ v.maintype = .iscc ∧
    v.version = .v0 ∧ v.header.length = u.header.length ∧ v.digest = u.digest ∧
    v.subtype = canonicalSubtype u ∧
    (c = Code.withScheme (Code.clean code).toUpper ↔ u.subtype = canonicalSubtype u) := by
  obtain ⟨u, parts, hu, ht, hparts, rfl⟩ := decompose_eq_ok.1 h
  have hdivides := CodeUnit.divides_of_parts ht hparts
  obtain ⟨v, hv, hlength, hdigest, hs⟩ :=
    exists_holds_parts hdivides (CodeUnit.flags_eq_zero_of_parts hparts) ht
  have hassemble : assemble (parts.map CodeUnit.toCode) (u.subtype = .wide) =
      .ok (Code.withScheme v.toCode) := by
    refine assemble_eq_ok.2 ⟨?_, parts, v, mapM_decode_toCode hdivides.isCanonical, ?_, rfl⟩
    · rw [List.length_map, length_parts hdivides]
      exact Nat.le_add_left 2 _
    · rw [inOrder_parts hdivides]
      exact hv
  obtain ⟨hcanonical, htext⟩ := Code.decode_eq_ok.1 hu
  refine ⟨u, _, v, hu, hassemble, hv.decode_eq, hv.maintype, hv.version, hlength, hdigest, hs, ?_⟩
  rw [htext, ← hs]
  constructor
  · intro hsame
    have hdecode := Code.decode_withScheme_toCode hcanonical
    rw [← hsame, hv.decode_eq, Except.ok.injEq] at hdecode
    rw [hdecode]
  · intro hsame
    rw [hv.canonical.ext hcanonical (hv.maintype.trans ht.symm) hsame.symm hlength hdigest]

theorem assemble_decompose_audio :
    decompose "KIAHL2XYM5BQIAZ3V4JUTOPV7GQ2M" = .ok ["GAAXL2XYM5BQIAZ3", "IAA26E2JXH27TING"] ∧
    ∃ u c v, Code.decode "KIAHL2XYM5BQIAZ3V4JUTOPV7GQ2M" = .ok u ∧
      assemble ["GAAXL2XYM5BQIAZ3", "IAA26E2JXH27TING"] (u.subtype = .wide) = .ok c ∧
      Code.decode c = .ok v ∧ v.maintype = .iscc ∧ v.version = .v0 ∧
      v.header.length = u.header.length ∧ v.digest = u.digest ∧ v.subtype = canonicalSubtype u ∧
      (c = Code.withScheme (Code.clean "KIAHL2XYM5BQIAZ3V4JUTOPV7GQ2M").toUpper ↔
        u.subtype = canonicalSubtype u) :=
  have hparts : decompose "KIAHL2XYM5BQIAZ3V4JUTOPV7GQ2M" =
      .ok ["GAAXL2XYM5BQIAZ3", "IAA26E2JXH27TING"] := by decide +kernel
  ⟨hparts, assemble_decompose hparts⟩

end Composite

end ContentCode
