import ContentCode.CodeUnit
import ContentCode.Proofs.HeaderForm

/-!
Units form a prefix code. The bytes of a unit are read as that unit whatever follows them, and
whatever is read as a unit is the bytes of that unit, so no unit begins with another one.
-/

namespace ContentCode

open Bits

namespace Header

theorem ofBytes_toBytes (h : Header) : Bits.ofBytes h.toBytes = h.digits :=
  ofBytes_toBytes_of_dvd (by rw [length_digits]; decide)

theorem length_toBytes (h : Header) : h.toBytes.length = 2 := by
  rw [toBytes, Bits.length_toBytes, length_digits]

theorem read_ofBytes {h : Header} {buffer : List UInt8} {r : Reader} :
    Reading.Yields read (Reader.ofBytes buffer) h r ↔
      ∃ rest, buffer = h.toBytes ++ rest ∧ r = ⟨16, Bits.ofBytes rest⟩ := by
  rw [yields_read rfl]
  rcases r with ⟨position, bits⟩
  constructor
  · rintro ⟨hrest, hposition⟩
    dsimp only at hrest hposition
    rw [length_digits] at hposition
    have hbits : Bits.ofBytes (buffer.take 2) ++ Bits.ofBytes (buffer.drop 2) = h.digits ++ bits := by
      rw [← ofBytes_append, List.take_append_drop]
      exact hrest
    have hlen := congrArg List.length hrest
    rw [Reader.ofBytes, length_ofBytes, List.length_append, length_digits] at hlen
    have htake : (Bits.ofBytes (buffer.take 2)).length = h.digits.length := by
      rw [length_ofBytes, length_digits, List.length_take]
      omega
    obtain ⟨hhead, htail⟩ := List.append_inj hbits htake
    refine ⟨buffer.drop 2, ?_, ?_⟩
    · rw [toBytes, ← hhead, toBytes_ofBytes, List.take_append_drop]
    · rw [htail, hposition]
      rfl
  · rintro ⟨rest, rfl, hr⟩
    obtain ⟨rfl, rfl⟩ := Reader.mk.inj hr
    refine ⟨?_, ?_⟩
    · rw [Reader.ofBytes, ofBytes_append, ofBytes_toBytes]
    · rw [length_digits, Reader.ofBytes]

theorem exists_ofBits {t : MainType} (s : SubType) (v : Version) {bits : Nat} (hiscc : t ≠ .iscc)
    (hid : t ≠ .id) (hbits : 32 ≤ bits ∧ bits ≤ 256 ∧ bits % 32 = 0) :
    ∃ h, ofBits t s v bits = .ok h ∧ h.maintype = t ∧ h.subtype = s ∧ h.version = v ∧
      h.digestBits = bits := by
  have hencode : t.encodeLength bits = .ok (bits / 32 - 1) := by
    cases t <;> simp_all [MainType.encodeLength]
  have hmax : bits / 32 - 1 ≤ t.maxLength := by
    cases t <;> simp_all [MainType.maxLength] <;> omega
  have hdigest : t.digestBits s (bits / 32 - 1) = bits := by
    cases t <;> simp_all [MainType.digestBits] <;> omega
  refine ⟨⟨t, s, v, bits / 32 - 1, hmax⟩, ?_, rfl, rfl, rfl, hdigest⟩
  simp only [ofBits, hencode, bind, Except.bind, ofLength_eq_ok]
  exact ⟨trivial, trivial, trivial, trivial⟩

end Header

namespace CodeUnit

/-- A unit whose bytes are what writing its header and digest gives. -/
def IsCanonical (u : CodeUnit) : Prop := ofHeader u.header u.digest = .ok u

theorem length_digest (u : CodeUnit) : u.digest.length = u.header.digestSize := by
  rw [digest, List.length_drop, u.length_toBytes, Nat.add_sub_cancel_left]

theorem isCanonical_iff {u : CodeUnit} :
    u.IsCanonical ↔ u.headerSize = 2 ∧ u.toBytes.take 2 = u.header.toBytes := by
  have hsize := Header.length_toBytes u.header
  rw [IsCanonical, ofHeader, dif_pos u.length_digest, Except.ok.injEq]
  constructor
  · intro h
    rw [← h]
    exact ⟨hsize, List.take_left' hsize⟩
  · rintro ⟨hstart, htake⟩
    refine CodeUnit.ext rfl ?_ (hsize.trans hstart.symm)
    dsimp only
    rw [digest, hstart, ← htake, List.take_append_drop]

theorem IsCanonical.toBytes_eq {u : CodeUnit} (hu : u.IsCanonical) :
    u.toBytes = u.header.toBytes ++ u.digest := by
  obtain ⟨hstart, htake⟩ := isCanonical_iff.1 hu
  rw [digest, hstart, ← htake, List.take_append_drop]

theorem ofHeader_eq_ok {h : Header} {d : List UInt8} {u : CodeUnit} :
    ofHeader h d = .ok u ↔ u.IsCanonical ∧ u.header = h ∧ u.digest = d := by
  constructor
  · intro hu
    simp only [ofHeader] at hu
    split at hu
    next hd =>
      cases hu
      have hdigest : (⟨h, h.toBytes ++ d, h.toBytes.length,
          by rw [List.length_append, hd]⟩ : CodeUnit).digest = d := by simp [digest]
      have hsize := Header.length_toBytes h
      exact ⟨isCanonical_iff.2 ⟨hsize, List.take_left' hsize⟩, rfl, hdigest⟩
    next => simp at hu
  · rintro ⟨hu, rfl, rfl⟩
    exact hu

theorem IsCanonical.ext {u v : CodeUnit} (hu : u.IsCanonical) (hv : v.IsCanonical)
    (ht : u.maintype = v.maintype) (hs : u.subtype = v.subtype)
    (hlength : u.header.length = v.header.length) (hdigest : u.digest = v.digest) : u = v := by
  have hsame : Header.ofLength u.maintype u.subtype u.version u.header.length = .ok u.header :=
    Header.ofLength_eq_ok.2 ⟨rfl, rfl, rfl, rfl⟩
  rw [Header.ofLength_eq_ok.2 ⟨ht.symm, hs.symm, rfl, hlength.symm⟩, Except.ok.injEq] at hsame
  rw [IsCanonical, ← hsame, hdigest, hv] at hu
  exact (Except.ok.inj hu).symm

theorem exists_ofHeader {h : Header} {d : List UInt8} (hd : d.length = h.digestSize) :
    ∃ u, ofHeader h d = .ok u :=
  ⟨_, dif_pos hd⟩

theorem read_eq_ok {buffer rest : List UInt8} {u : CodeUnit} :
    read buffer = (.ok u, rest) ↔ u.IsCanonical ∧ buffer = u.toBytes ++ rest := by
  constructor
  · intro h
    simp only [read] at h
    split at h
    next => simp at h
    next header reader hread =>
      obtain ⟨tail, rfl, rfl⟩ := Header.read_ofBytes.1 hread
      have hsize := header.length_toBytes
      split at h
      next => simp at h
      next hlen =>
        simp only [Prod.mk.injEq, Except.ok.injEq] at h
        obtain ⟨rfl, rfl⟩ := h
        refine ⟨isCanonical_iff.2 ⟨rfl, ?_⟩, (List.take_append_drop _ _).symm⟩
        rw [List.take_take, Nat.min_eq_left (Nat.le_add_right 2 _), List.take_left' hsize]
  · rintro ⟨hu, rfl⟩
    have hsize := (isCanonical_iff.1 hu).1
    have hread : Reading.Yields Header.read (Reader.ofBytes (u.toBytes ++ rest)) u.header
        ⟨16, Bits.ofBytes (u.digest ++ rest)⟩ :=
      Header.read_ofBytes.2 ⟨u.digest ++ rest, by rw [hu.toBytes_eq, List.append_assoc], rfl⟩
    have hlen := u.length_toBytes
    rw [hsize] at hlen
    have htake : (u.toBytes ++ rest).take (2 + u.header.digestSize) = u.toBytes := List.take_left' hlen
    have hdrop : (u.toBytes ++ rest).drop (2 + u.header.digestSize) = rest := List.drop_left' hlen
    rw [read, hread]
    dsimp only
    rw [dif_neg (by rw [List.length_append]; omega)]
    rw [Prod.mk.injEq, Except.ok.injEq]
    exact ⟨CodeUnit.ext rfl htake hsize.symm, hdrop⟩

theorem read_error {buffer rest : List UInt8} {e : Error} (h : read buffer = (.error e, rest)) :
    rest = buffer := by
  simp only [read] at h
  split at h
  next => simp_all
  next =>
    split at h
    next => simp_all
    next => simp at h

theorem ofBytes_eq_ok {bytes : List UInt8} {u : CodeUnit} :
    ofBytes bytes = .ok u ↔ u.IsCanonical ∧ bytes = u.toBytes := by
  have hnil : read bytes = (.ok u, []) ↔ u.IsCanonical ∧ bytes = u.toBytes := by
    rw [read_eq_ok, List.append_nil]
  rw [← hnil]
  rcases hr : read bytes with ⟨e | v, rest⟩
  · simp [ofBytes, hr, bind, Except.bind]
  · cases rest with
    | nil => simp [ofBytes, hr, bind, Except.bind]
    | cons b rest => simp [ofBytes, hr, bind, Except.bind]

theorem ofDigest_eq_ok {t : MainType} {s : SubType} {v : Version} {bits : Nat} {d : List UInt8}
    {u : CodeUnit} : ofDigest t s v bits d = .ok u ↔ ∃ h, Header.ofBits t s v bits = .ok h ∧
      h.digestSize ≤ d.length ∧ u.IsCanonical ∧ u.header = h ∧ u.digest = d.take h.digestSize := by
  cases hh : Header.ofBits t s v bits with
  | error e => simp [ofDigest, hh, bind, Except.bind]
  | ok h =>
      simp only [ofDigest, hh, bind, Except.bind, Except.ok.injEq, exists_eq_left']
      split
      next hlt =>
        refine iff_of_false (by simp [throw, throwThe, MonadExceptOf.throw]) ?_
        rintro ⟨hle, -⟩
        omega
      next hge =>
        rw [← ofHeader_eq_ok]
        exact ⟨fun h => ⟨by omega, h⟩, fun h => h.2⟩

theorem exists_ofDigest {t : MainType} (s : SubType) (v : Version) {bits : Nat} {d : List UInt8}
    (hiscc : t ≠ .iscc) (hid : t ≠ .id) (hbits : 32 ≤ bits ∧ bits ≤ 256 ∧ bits % 32 = 0)
    (hd : bits / 8 ≤ d.length) :
    ∃ u, ofDigest t s v bits d = .ok u ∧ u.IsCanonical ∧ u.maintype = t ∧ u.subtype = s ∧
      u.version = v ∧ u.bits = bits ∧ u.digest = d.take (bits / 8) := by
  obtain ⟨h, hh, ht, hs, hv, hsize⟩ := Header.exists_ofBits s v hiscc hid hbits
  have hsize' : h.digestSize = bits / 8 := by rw [Header.digestSize, hsize]
  obtain ⟨u, hu⟩ := exists_ofHeader (h := h) (d := d.take (bits / 8)) (by
    rw [List.length_take, hsize']
    omega)
  obtain ⟨hcanonical, hheader, hdigest⟩ := ofHeader_eq_ok.1 hu
  refine ⟨u, ofDigest_eq_ok.2 ⟨h, hh, by omega, hcanonical, hheader, by rw [hdigest, hsize']⟩,
    hcanonical, ?_, ?_, ?_, ?_, hdigest⟩
  · rw [maintype, hheader, ht]
  · rw [subtype, hheader, hs]
  · rw [version, hheader, hv]
  · rw [CodeUnit.bits, hheader, hsize]

/-- What a caller outside can have: a unit that was made or read. -/
inductive Obtained : CodeUnit → Prop
  | ofHeader {h : Header} {d : List UInt8} {u : CodeUnit} (hu : CodeUnit.ofHeader h d = .ok u) :
      Obtained u
  | ofDigest {t : MainType} {s : SubType} {v : Version} {bits : Nat} {d : List UInt8} {u : CodeUnit}
      (hu : CodeUnit.ofDigest t s v bits d = .ok u) : Obtained u
  | read {buffer rest : List UInt8} {u : CodeUnit} (hu : CodeUnit.read buffer = (.ok u, rest)) :
      Obtained u

theorem obtained_iff_isCanonical {u : CodeUnit} : u.Obtained ↔ u.IsCanonical := by
  constructor
  · intro h
    cases h with
    | ofHeader hu => exact (ofHeader_eq_ok.1 hu).1
    | ofDigest hu =>
        obtain ⟨_, -, -, hu, -⟩ := ofDigest_eq_ok.1 hu
        exact hu
    | read hu => exact (read_eq_ok.1 hu).1
  · exact .ofHeader

/-- The bytes of units are a canonical prefix code. -/
theorem prefix_code :
    (∀ u : CodeUnit, u.Obtained → ∀ rest, read (u.toBytes ++ rest) = (.ok u, rest)) ∧
    (∀ buffer u rest, read buffer = (.ok u, rest) →
      buffer = u.toBytes ++ rest ∧ ofHeader u.header u.digest = .ok u) ∧
    (∀ buffer e rest, read buffer = (.error e, rest) → rest = buffer) ∧
    (∀ bytes, (∃ u, ofBytes bytes = .ok u) ↔ ∃ u : CodeUnit, u.Obtained ∧ bytes = u.toBytes) ∧
    (∀ xs ys u v, ofBytes xs = .ok u → ofBytes ys = .ok v → xs <+: ys → xs = ys) := by
  refine ⟨fun u hu rest => ?_, fun buffer u rest h => ?_, fun buffer e rest => read_error,
    fun bytes => ?_, fun xs ys u v hu hv hle => ?_⟩
  · exact read_eq_ok.2 ⟨obtained_iff_isCanonical.1 hu, rfl⟩
  · obtain ⟨hu, hbuffer⟩ := read_eq_ok.1 h
    exact ⟨hbuffer, hu⟩
  · simp only [ofBytes_eq_ok, obtained_iff_isCanonical]
  · -- the shorter bytes are read in front of what is left, so nothing can be left
    obtain ⟨more, rfl⟩ := hle
    obtain ⟨hcu, rfl⟩ := ofBytes_eq_ok.1 hu
    obtain ⟨hcv, hbytes⟩ := ofBytes_eq_ok.1 hv
    have hshort : read (u.toBytes ++ more) = (.ok u, more) := read_eq_ok.2 ⟨hcu, rfl⟩
    have hlong : read (u.toBytes ++ more) = (.ok v, []) :=
      read_eq_ok.2 ⟨hcv, by rw [hbytes, List.append_nil]⟩
    rw [hshort, Prod.mk.injEq] at hlong
    rw [hlong.2, List.append_nil]

end CodeUnit

end ContentCode
