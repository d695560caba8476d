import ContentCode.Proofs.CodeForm

/-!
Each unit has one text, up to letter case, hyphens, the scheme and outer white space; and a digest
has a text for just those lengths that units can have.
-/

namespace ContentCode

namespace Header

variable {t : MainType} {s : SubType} {v : Version} {bits : Nat} {header : Header}

theorem bits_of_ofBits (hiscc : t ≠ .iscc) (hid : t ≠ .id) (h : ofBits t s v bits = .ok header) :
    32 ≤ bits ∧ bits ≤ 256 ∧ bits % 32 = 0 := by
  have hencode : t.encodeLength bits = if 32 ≤ bits ∧ bits ≤ 256 ∧ bits % 32 = 0
      then .ok (bits / 32 - 1) else .error (.bitLength t bits) := by
    cases t with
    | iscc => exact absurd rfl hiscc
    | id => exact absurd rfl hid
    | _ => rfl
  obtain ⟨length, hlength, -⟩ := bind_eq_ok.1 h
  by_contra hbits
  rw [hencode, if_neg hbits] at hlength
  cases hlength

end Header

namespace CodeUnit

variable {t : MainType} {s : SubType} {v : Version} {bits : Nat} {d : List UInt8} {u : CodeUnit}

theorem exists_ofDigest_iff (hiscc : t ≠ .iscc) (hid : t ≠ .id) :
    (∃ u, ofDigest t s v bits d = .ok u) ↔
      (32 ≤ bits ∧ bits ≤ 256 ∧ bits % 32 = 0) ∧ bits / 8 ≤ d.length := by
  constructor
  · rintro ⟨u, hu⟩
    obtain ⟨h, hh, hsize, -⟩ := ofDigest_eq_ok.1 hu
    have hbits := Header.bits_of_ofBits hiscc hid hh
    obtain ⟨h', hh', -, -, -, hdigest⟩ := Header.exists_ofBits s v hiscc hid hbits
    rw [hh, Except.ok.injEq] at hh'
    subst hh'
    rw [Header.digestSize, hdigest] at hsize
    exact ⟨hbits, hsize⟩
  · rintro ⟨hbits, hd⟩
    obtain ⟨u, hu, -⟩ := exists_ofDigest s v hiscc hid hbits hd
    exact ⟨u, hu⟩

end CodeUnit

namespace Code

variable {code code' : String} {u : CodeUnit}

/-- The texts of a unit are those that give its bytes in base32 once they are cleaned. -/
theorem decode_eq_ok : decode code = .ok u ↔ u.IsCanonical ∧ (clean code).toUpper = u.toCode := by
  have hupper : (clean code).toUpper = u.toCode ↔ Base32.decode (clean code) = .ok u.toBytes := by
    rw [Base32.decode_eq_ok, ← String.toList_inj, String.toUpper, String.toList_map, CodeUnit.toCode,
      Base32.encode, String.toList_ofList]
  rw [hupper, decode, toBytes]
  cases h : Base32.decode (clean code) with
  | error e => simp [Except.mapError, bind, Except.bind]
  | ok bytes =>
      rw [Except.ok.injEq]
      exact CodeUnit.ofBytes_eq_ok

theorem encode_eq {t : MainType} (s : SubType) (v : Version) (bits : Nat) (d : List UInt8)
    (hiscc : t ≠ .iscc) (hid : t ≠ .id) :
    encode t s v bits d = (CodeUnit.ofDigest t s v bits d).map CodeUnit.toCode := by
  cases t with
  | iscc => exact absurd rfl hiscc
  | id => exact absurd rfl hid
  | _ => rfl

theorem encode_eq_ok {t : MainType} {s : SubType} {v : Version} {bits : Nat} {d : List UInt8}
    (hiscc : t ≠ .iscc) (hid : t ≠ .id) :
    encode t s v bits d = .ok code ↔ ∃ u, CodeUnit.ofDigest t s v bits d = .ok u ∧ u.toCode = code := by
  rw [encode_eq s v bits d hiscc hid]
  cases CodeUnit.ofDigest t s v bits d with
  | error e => simp [Except.map]
  | ok u => simp [Except.map]

theorem decode_of_encode {t : MainType} {s : SubType} {v : Version} {bits : Nat} {d : List UInt8}
    (hiscc : t ≠ .iscc) (hid : t ≠ .id) (h : encode t s v bits d = .ok code) :
    ∃ u, decode code = .ok u ∧ decode (withScheme code) = .ok u ∧ u.maintype = t ∧ u.subtype = s ∧
      u.version = v ∧ u.bits = bits ∧ u.digest = d.take (bits / 8) := by
  obtain ⟨u, hu, rfl⟩ := (encode_eq_ok hiscc hid).1 h
  obtain ⟨hbits, hd⟩ := (CodeUnit.exists_ofDigest_iff hiscc hid).1 ⟨u, hu⟩
  obtain ⟨u', hu', hcanonical, hfields⟩ := CodeUnit.exists_ofDigest s v hiscc hid hbits hd
  rw [hu, Except.ok.injEq] at hu'
  subst hu'
  exact ⟨u, decode_toCode hcanonical, decode_withScheme_toCode hcanonical, hfields⟩

theorem decode_of_generate {t : MainType} {s : SubType} {bits : Nat} {d : List UInt8}
    (hiscc : t ≠ .iscc) (hid : t ≠ .id) (h : generate t s bits d = .ok code) :
    ∃ u, decode code = .ok u ∧ u.maintype = t ∧ u.subtype = s ∧ u.version = .v0 ∧ u.bits = bits ∧
      u.digest = d.take (bits / 8) := by
  simp only [generate, bind_eq_ok, pure_eq_ok] at h
  obtain ⟨_, -, plain, hplain, rfl⟩ := h
  obtain ⟨u, -, hu⟩ := decode_of_encode hiscc hid hplain
  exact ⟨u, hu⟩

/-- The text of a unit is read as that unit, whatever else is read as it differs from its text in
nothing but spelling, and a digest has a text exactly for the lengths of units. -/
theorem text_canonical :
    (∀ u : CodeUnit, u.Obtained → decode u.toCode = .ok u ∧ decode (withScheme u.toCode) = .ok u) ∧
    (∀ code u, decode code = .ok u ↔ u.Obtained ∧ (clean code).toUpper = u.toCode) ∧
    (∀ code code' u, decode code = .ok u →
      (decode code' = .ok u ↔ (clean code').toUpper = (clean code).toUpper)) ∧
    ∀ t s bits digest, t ≠ .iscc → t ≠ .id →
      ((∃ code, encode t s .v0 bits digest = .ok code) ↔
        (32 ≤ bits ∧ bits ≤ 256 ∧ bits % 32 = 0) ∧ bits / 8 ≤ digest.length) ∧
      ∀ code, encode t s .v0 bits digest = .ok code → ∃ u, decode code = .ok u ∧ u.maintype = t ∧
        u.subtype = s ∧ u.version = .v0 ∧ u.bits = bits ∧ u.digest = digest.take (bits / 8) := by
  refine ⟨fun u hu => ?_, fun code u => ?_, fun code code' u h => ?_, fun t s bits digest hiscc hid => ?_⟩
  · have hcanonical := CodeUnit.obtained_iff_isCanonical.1 hu
    exact ⟨decode_toCode hcanonical, decode_withScheme_toCode hcanonical⟩
  · rw [CodeUnit.obtained_iff_isCanonical, decode_eq_ok]
  · obtain ⟨hcanonical, htext⟩ := decode_eq_ok.1 h
    rw [decode_eq_ok, htext]
    exact and_iff_right hcanonical
  · have hexists : (∃ code, encode t s .v0 bits digest = .ok code) ↔
        (32 ≤ bits ∧ bits ≤ 256 ∧ bits % 32 = 0) ∧ bits / 8 ≤ digest.length := by
      rw [← CodeUnit.exists_ofDigest_iff (s := s) (v := .v0) hiscc hid]
      simp only [encode_eq_ok hiscc hid]
      exact ⟨fun ⟨_, u, hu, _⟩ => ⟨u, hu⟩, fun ⟨u, hu⟩ => ⟨u.toCode, u, hu, rfl⟩⟩
    refine ⟨hexists, fun code hcode => ?_⟩
    obtain ⟨u, hu, -, hfields⟩ := decode_of_encode hiscc hid hcode
    exact ⟨u, hu, hfields⟩

end Code

end ContentCode
