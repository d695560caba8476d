import ContentCode.Proofs.CodeForm
import ContentCode.Proofs.CompositeOrder

/-!
What a composite unit is taken apart into. Its parts stand in the order of the main types and share
out its digest, without a gap and with nothing left over.
-/

namespace ContentCode

namespace CodeUnit

/-- `p` has the form of a part of `n` bits, taken out of a composite unit of subtype `s`. -/
structure IsPart (s : SubType) (n : Nat) (p : CodeUnit) : Prop where
  canonical : p.IsCanonical
  subtype : p.subtype = if p.maintype = .semantic ∨ p.maintype = .content then s else .plain
  bits : p.bits = n

def partBits (u : CodeUnit) : Nat := if u.subtype = .wide then 128 else 64

/-- `parts` make up the composite unit `u`. -/
structure Divides (parts : List CodeUnit) (u : CodeUnit) : Prop where
  isPart : ∀ p ∈ parts, p.IsPart u.subtype u.partBits
  types : parts.map maintype = MainType.optional u.header.length ++ [.data, .inst]
  digest : parts.flatMap CodeUnit.digest = u.digest

variable {u : CodeUnit} {parts : List CodeUnit} {s : SubType}

theorem le_partBits (u : CodeUnit) : 64 ≤ u.partBits := by
  rw [partBits]
  split <;> decide

theorem IsPart.length_digest {n : Nat} {p : CodeUnit} (h : p.IsPart s n) :
    p.digest.length = n / 8 := by
  have hbits : p.header.digestBits = n := h.bits
  rw [CodeUnit.length_digest, Header.digestSize, hbits]

theorem exists_part {t : MainType} {n : Nat} {d : List UInt8} {s' : SubType} (v : Version)
    (ht : t.isComposable = true) (hn : n ∈ [64, 128]) (hd : d.length = n / 8)
    (hs : s' = if t = .semantic ∨ t = .content then s else .plain) :
    ∃ p, ofDigest t s' v n d = .ok p ∧ p.maintype = t ∧ p.IsPart s n ∧ p.digest = d := by
  have hiscc : t ≠ .iscc := by
    intro h
    simp [h, MainType.isComposable] at ht
  have hid : t ≠ .id := by
    intro h
    simp [h, MainType.isComposable] at ht
  obtain ⟨p, hp, hcanonical, htype, hsub, -, hbits, hdigest⟩ := exists_ofDigest s' v hiscc hid
    (by revert n; simp) hd.ge
  refine ⟨p, hp, htype, ⟨hcanonical, ?_, hbits⟩, ?_⟩
  · rw [hsub, hs, htype]
  · rw [hdigest, List.take_of_length_le hd.le]

theorem exists_optionalParts {types : List MainType} {body : List UInt8} (s : SubType) (v : Version)
    (ht : ∀ t ∈ types, t = .metadata ∨ t = .semantic ∨ t = .content)
    (hbody : 8 * types.length ≤ body.length) :
    ∃ parts, optionalParts s v types body = .ok parts ∧ (∀ p ∈ parts, p.IsPart s 64) ∧
      parts.map maintype = types ∧ parts.flatMap digest = body.take (8 * types.length) := by
  induction types generalizing body with
  | nil => exact ⟨[], rfl, by simp, rfl, by simp⟩
  | cons t types ih =>
      rw [List.forall_mem_cons] at ht
      rw [List.length_cons] at hbody
      have hc : t.isComposable = true := by
        rcases ht.1 with rfl | rfl | rfl <;> rfl
      have hs : (if t = .metadata then .plain else s) =
          if t = .semantic ∨ t = .content then s else .plain := by
        rcases ht.1 with rfl | rfl | rfl <;> rfl
      obtain ⟨p, hp, htype, hpart, hdigest⟩ := exists_part v hc (by decide : 64 ∈ [64, 128])
        (d := body.take 8) (by rw [List.length_take]; omega) hs
      have hrest : 8 * types.length ≤ (body.drop 8).length := by
        rw [List.length_drop]
        omega
      obtain ⟨parts, hparts, hall, htypes, hdigests⟩ := ih ht.2 hrest
      refine ⟨p :: parts, ?_, List.forall_mem_cons.2 ⟨hpart, hall⟩, ?_, ?_⟩
      · rw [optionalParts, hp, hparts]
        rfl
      · rw [List.map_cons, htype, htypes]
      · rw [List.flatMap_cons, hdigest, hdigests, List.length_cons, Nat.mul_succ, Nat.add_comm,
          List.take_add]

theorem parts_wide_flags (hs : u.subtype = .wide) (hflags : u.header.length ≠ 0) :
    u.parts = .error (.wideWithFlags u.header.length) := by
  simp only [parts, if_pos hs, if_pos hflags]
  rfl

theorem exists_mandatoryParts {n : Nat} {pair : List UInt8} (s : SubType) (v : Version)
    (hn : n ∈ [64, 128]) (hpair : pair.length = n / 8 + n / 8) :
    ∃ p q, ofDigest .data .plain v n (pair.take (n / 8)) = .ok p ∧
      ofDigest .inst .plain v n (pair.drop (n / 8)) = .ok q ∧ (∀ r ∈ [p, q], r.IsPart s n) ∧
      [p, q].map maintype = [.data, .inst] ∧ [p, q].flatMap digest = pair := by
  obtain ⟨p, hp, hptype, hpart, hpdigest⟩ := exists_part v (t := .data) (s := s) rfl hn
    (d := pair.take (n / 8)) (by rw [List.length_take]; omega) rfl
  obtain ⟨q, hq, hqtype, hqpart, hqdigest⟩ := exists_part v (t := .inst) (s := s) rfl hn
    (d := pair.drop (n / 8)) (by rw [List.length_drop]; omega) rfl
  refine ⟨p, q, hp, hq, by simp [hpart, hqpart], by simp [hptype, hqtype], ?_⟩
  rw [List.flatMap_cons, List.flatMap_singleton, hpdigest, hqdigest, List.take_append_drop]

theorem exists_parts_wide (ht : u.maintype = .iscc) (hs : u.subtype = .wide)
    (hflags : u.header.length = 0) : ∃ parts, u.parts = .ok parts ∧ Divides parts u := by
  have hsize : u.digest.length = 32 := by
    have hbits : u.header.digestBits = 256 := by
      rw [Header.digestBits, ← maintype, ht, ← subtype, hs]
      rfl
    rw [length_digest, Header.digestSize, hbits]
  obtain ⟨p, q, hp, hq, hall, htypes, hdigest⟩ := exists_mandatoryParts u.subtype u.version
    (by decide : 128 ∈ [64, 128]) hsize
  have hrest : (u.digest.drop 16).take 16 = u.digest.drop 16 :=
    List.take_of_length_le (by rw [List.length_drop]; omega)
  have hparts : u.parts = .ok [p, q] := by
    simp only [parts, if_pos hs, hflags, hrest, ne_eq, not_true_eq_false, if_false]
    rw [hp, hq]
    rfl
  refine ⟨[p, q], hparts, ⟨?_, ?_, hdigest⟩⟩
  · rw [partBits, if_pos hs]
    exact hall
  · rw [htypes, hflags]
    rfl

theorem exists_parts_narrow (ht : u.maintype = .iscc) (hs : u.subtype ≠ .wide) :
    ∃ parts, u.parts = .ok parts ∧ Divides parts u := by
  obtain ⟨k, hk⟩ : ∃ k, (MainType.optional u.header.length).length = k := ⟨_, rfl⟩
  have hsize : u.digest.length = 8 * (k + 2) := by
    have hbits : u.header.digestBits = 128 + 64 * k := by
      rw [Header.digestBits, ← maintype, ht, ← hk]
      exact if_neg hs
    rw [length_digest, Header.digestSize, hbits]
    omega
  have hfits : 8 * (MainType.optional u.header.length).length ≤ u.digest.length := by omega
  have hpair : (u.digest.drop (8 * k)).length = 64 / 8 + 64 / 8 := by
    rw [List.length_drop]
    omega
  obtain ⟨front, hfront, hall, htypes, hdigests⟩ := exists_optionalParts u.subtype u.version
    (fun t h => by simpa using List.mem_of_mem_filter h) hfits
  obtain ⟨p, q, hp, hq, hall', htypes', hdigest'⟩ := exists_mandatoryParts u.subtype u.version
    (by decide : 64 ∈ [64, 128]) hpair
  have hparts : u.parts = .ok (front ++ [p, q]) := by
    have hflags : MainType.ofFlags u.header.length = .ok (MainType.optional u.header.length) :=
      if_pos (Nat.le_of_lt_succ u.header.length_lt)
    have hcut : u.digest.length - 16 = 8 * k := by omega
    simp only [parts, if_neg hs, hflags, bind, Except.bind, hk, if_neg hsize.not_lt, hcut, hfront]
    rw [hp, hq]
    rfl
  refine ⟨front ++ [p, q], hparts, ⟨?_, ?_, ?_⟩⟩
  · rw [partBits, if_neg hs, List.forall_mem_append]
    exact ⟨hall, hall'⟩
  · rw [List.map_append, htypes, htypes']
  · rw [List.flatMap_append, hdigests, hdigest', hk, List.take_append_drop]

theorem exists_parts (ht : u.maintype = .iscc) (hflags : u.subtype = .wide → u.header.length = 0) :
    ∃ parts, u.parts = .ok parts ∧ Divides parts u := by
  by_cases hs : u.subtype = .wide
  · exact exists_parts_wide ht hs (hflags hs)
  · exact exists_parts_narrow ht hs

theorem flags_eq_zero_of_parts (h : u.parts = .ok parts) (hs : u.subtype = .wide) :
    u.header.length = 0 := by
  by_contra hflags
  rw [parts_wide_flags hs hflags] at h
  cases h

theorem divides_of_parts (ht : u.maintype = .iscc) (h : u.parts = .ok parts) : Divides parts u := by
  obtain ⟨parts', hparts, hdivides⟩ := exists_parts ht (flags_eq_zero_of_parts h)
  rw [h, Except.ok.injEq] at hparts
  rwa [hparts]

theorem Divides.isCanonical (h : Divides parts u) : ∀ p ∈ parts, p.IsCanonical :=
  fun p hp => (h.isPart p hp).canonical

theorem Divides.isComposable (h : Divides parts u) : ∀ p ∈ parts, p.maintype.isComposable = true := by
  intro p hp
  have hmem : p.maintype ∈ MainType.optional u.header.length ++ [.data, .inst] := by
    rw [← h.types]
    exact List.mem_map_of_mem hp
  have hsub := (MainType.optional_ascending _ u.header.length_lt).1.subset hmem
  revert hsub
  cases p.maintype <;> decide

end CodeUnit

namespace Composite

variable {code : String} {codes : List String} {u : CodeUnit} {units : List CodeUnit}

theorem mapM_decode_toCode (h : ∀ v ∈ units, v.IsCanonical) :
    (units.map CodeUnit.toCode).mapM Code.decode = .ok units := by
  rw [mapM_eq_ok, List.forall₂_map_left_iff, List.forall₂_same]
  exact fun v hv => Code.decode_toCode (h v hv)

theorem decompose_of_decode (h : Code.decode code = .ok u) (ht : u.maintype = .iscc) :
    decompose code = u.parts.map (List.map CodeUnit.toCode) := by
  simp only [decompose, h, bind, Except.bind, ht, ne_eq, not_true_eq_false, if_false]
  cases u.parts with
  | error e => rfl
  | ok parts => rfl

theorem decompose_eq_ok : decompose code = .ok codes ↔ ∃ u parts, Code.decode code = .ok u ∧
    u.maintype = .iscc ∧ u.parts = .ok parts ∧ codes = parts.map CodeUnit.toCode := by
  constructor
  · intro h
    obtain ⟨u, hu, hparts⟩ := bind_eq_ok.1 h
    by_cases ht : u.maintype = .iscc
    · rw [decompose_of_decode hu ht] at h
      cases hp : u.parts with
      | error e => simp [hp, Except.map] at h
      | ok parts => exact ⟨u, parts, hu, ht, hp, by simpa [hp, Except.map, eq_comm] using h⟩
    · simp [ht, throw_bind] at hparts
  · rintro ⟨u, parts, hu, ht, hparts, rfl⟩
    rw [decompose_of_decode hu ht, hparts]
    rfl

end Composite

end ContentCode
