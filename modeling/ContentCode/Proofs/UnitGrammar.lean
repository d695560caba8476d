import ContentCode.Proofs.InputErrors
import ContentCode.Proofs.UnitForm

/-!
Which bytes are read as a unit, byte by byte: two bytes of header, which hold four fields of four bits
each, and as many bytes of digest as they announce. A field that takes more bits is never read.
-/

namespace ContentCode

open Bits

namespace Varnibble

theorem digits_of_lt {n : Nat} (h : n < 8) : digits n = false :: ofNat 3 n := if_pos h

theorem digits_append : ∀ m < 8, ∀ n < 8, digits m ++ digits n = ofNat 8 (16 * m + n) := by
  decide

theorem of_digits_append {n : Nat} {more rest : List Bool} {a b c : Bool}
    (h : digits n ++ more = false :: a :: b :: c :: rest) : n < 8 ∧ more = rest := by
  by_cases hn : n < 8
  · rw [digits_of_lt hn] at h
    simp only [ofNat, List.cons_append, List.nil_append, List.cons.injEq] at h
    exact ⟨hn, h.2.2.2.2⟩
  · have hhead : (digits n ++ more).head? = some true := by
      rw [digits, if_neg hn]
      split
      next => rfl
      next =>
        split
        next => rfl
        next => rfl
    rw [h] at hhead
    cases hhead

end Varnibble

theorem MainType.exists_number : ∀ n < 8, ∃ t : MainType, t.number = n := by
  intro n hn
  obtain ⟨t, ht⟩ : ∃ t, all[n]? = some t := ⟨_, List.getElem?_eq_getElem hn⟩
  exact ⟨t, (ofNumber_eq_ok.1 (by rw [ofNumber, ht])).symm⟩

theorem MainType.length_optional : ∀ flags < 8, (optional flags).length = (Bits.ofNat 8 flags).count true := by
  decide

theorem SubType.exists_number : ∀ n < 8, ∃ s : SubType, s.number = n := by
  intro n hn
  obtain ⟨s, hs⟩ : ∃ s, all[n]? = some s := ⟨_, List.getElem?_eq_getElem hn⟩
  exact ⟨s, (ofNumber_eq_ok.1 (by rw [ofNumber, hs])).symm⟩

namespace Header

/-- The bytes `b₀` and `b₁` are a header. -/
structure IsForm (b₀ b₁ : UInt8) : Prop where
  maintype_short : b₀.toNat.testBit 7 = false
  subtype_short : b₀.toNat.testBit 3 = false
  length_lt : b₁.toNat < 8
  id_length_le : b₀.toNat / 16 = 6 → b₁.toNat ≤ 4

/-- The number of digest bytes behind a header with the main type `m`, the subtype `s` and the length
field `l`, as numbers. -/
def announcedSize (m s l : Nat) : Nat :=
  if m = 5 then if s = 7 then 32 else 8 * (ofNat 8 l).count true + 16
  else if m = 6 then l + 8
  else 4 * (l + 1)

theorem digestSize_eq (h : Header) :
    h.digestSize = announcedSize h.maintype.number h.subtype.number h.length := by
  rcases h with ⟨t, s, v, l, hl⟩
  cases t with
  | iscc =>
      by_cases hs : s = .wide
      · subst hs
        simp [digestSize, digestBits, MainType.digestBits, announcedSize, MainType.number, SubType.number]
      · have hnumber : s.number ≠ 7 := fun he => hs (SubType.number_inj he)
        have hflags := MainType.length_optional l (Nat.lt_succ_of_le hl)
        simp only [digestSize, digestBits, MainType.digestBits, announcedSize, MainType.number, if_true,
          if_neg hs, if_neg hnumber, hflags]
        omega
  | id =>
      simp [digestSize, digestBits, MainType.digestBits, announcedSize, MainType.number]
      omega
  | metadata | semantic | content | data | inst | flake =>
      simp [digestSize, digestBits, MainType.digestBits, announcedSize, MainType.number]
      omega

theorem toBytes_eq (h : Header) : h.toBytes =
    [UInt8.ofNat (16 * h.maintype.number + h.subtype.number), UInt8.ofNat h.length] := by
  have hm := h.maintype.number_lt
  have hs := h.subtype.number_lt
  have hl := h.length_lt
  have hv : h.version.number = 0 := by cases h.version; rfl
  have hdigits : h.digits = Bits.ofBytes
      [UInt8.ofNat (16 * h.maintype.number + h.subtype.number), UInt8.ofNat h.length] := by
    rw [digits, hv, List.append_assoc, Varnibble.digits_append _ hm _ hs,
      Varnibble.digits_append 0 (by decide) _ hl]
    simp only [ofBytes_cons, ofBytes_nil, List.append_nil, UInt8.toNat_ofNat']
    rw [Nat.mod_eq_of_lt (by omega), Nat.mod_eq_of_lt (by omega), Nat.mul_zero, Nat.zero_add]
  rw [toBytes, hdigits, toBytes_ofBytes]

theorem isForm_iff {b₀ b₁ : UInt8} : IsForm b₀ b₁ ↔ b₀.toNat / 16 < 8 ∧ b₀.toNat % 16 < 8 ∧
    b₁.toNat < 8 ∧ (b₀.toNat / 16 = 6 → b₁.toNat ≤ 4) := by
  have hb := b₀.toNat_lt
  have hhigh : b₀.toNat.testBit 7 = false ↔ b₀.toNat / 16 < 8 := by
    rw [Nat.testBit_eq_decide_div_mod_eq, decide_eq_false_iff_not]
    omega
  have hlow : b₀.toNat.testBit 3 = false ↔ b₀.toNat % 16 < 8 := by
    rw [Nat.testBit_eq_decide_div_mod_eq, decide_eq_false_iff_not]
    omega
  rw [← hhigh, ← hlow]
  exact ⟨fun h => ⟨h.1, h.2, h.3, h.4⟩, fun h => ⟨h.1, h.2.1, h.2.2.1, h.2.2.2⟩⟩

theorem toBytes_eq_iff {h : Header} {b₀ b₁ : UInt8} : h.toBytes = [b₀, b₁] ↔
    h.maintype.number = b₀.toNat / 16 ∧ h.subtype.number = b₀.toNat % 16 ∧ h.length = b₁.toNat := by
  have hm := h.maintype.number_lt
  have hs := h.subtype.number_lt
  have hl := h.length_lt
  rw [toBytes_eq, List.cons.injEq, List.cons.injEq, ← UInt8.toNat_inj, ← UInt8.toNat_inj,
    UInt8.toNat_ofNat', UInt8.toNat_ofNat']
  simp only [and_true]
  omega

theorem exists_toBytes {b₀ b₁ : UInt8} : (∃ h : Header, h.toBytes = [b₀, b₁]) ↔ IsForm b₀ b₁ := by
  rw [isForm_iff]
  constructor
  · rintro ⟨h, hbytes⟩
    obtain ⟨hm, hs, hl⟩ := toBytes_eq_iff.1 hbytes
    refine ⟨hm ▸ h.maintype.number_lt, hs ▸ h.subtype.number_lt, hl ▸ h.length_lt, fun hid => ?_⟩
    have ht : h.maintype = .id := MainType.number_inj (hm.trans hid)
    have hle := h.length_le
    rwa [ht, hl] at hle
  · rintro ⟨hm, hs, hl, hid⟩
    obtain ⟨t, ht⟩ := MainType.exists_number _ hm
    obtain ⟨s, hs'⟩ := SubType.exists_number _ hs
    have hmax : b₁.toNat ≤ t.maxLength := by
      cases t with
      | id => exact hid ht.symm
      | metadata | semantic | content | data | inst | iscc | flake => exact Nat.le_of_lt_succ hl
    exact ⟨⟨t, s, .v0, b₁.toNat, hmax⟩, toBytes_eq_iff.2 ⟨ht, hs', rfl⟩⟩

end Header

namespace CodeUnit

/-- The bytes begin with a unit. -/
def BeginsWithUnit : List UInt8 → Prop
  | b₀ :: b₁ :: tail =>
    Header.IsForm b₀ b₁ ∧ Header.announcedSize (b₀.toNat / 16) (b₀.toNat % 16) b₁.toNat ≤ tail.length
  | _ => False

/-- The unit `u` and what follows it are those in `b₀ :: b₁ :: tail`. -/
structure IsCutFrom (u : CodeUnit) (rest : List UInt8) (b₀ b₁ : UInt8) (tail : List UInt8) : Prop where
  maintype : u.maintype.number = b₀.toNat / 16
  subtype : u.subtype.number = b₀.toNat % 16
  version : u.version = .v0
  length : u.header.length = b₁.toNat
  digest : u.digest = tail.take (Header.announcedSize (b₀.toNat / 16) (b₀.toNat % 16) b₁.toNat)
  rest : rest = tail.drop (Header.announcedSize (b₀.toNat / 16) (b₀.toNat % 16) b₁.toNat)

theorem isCutFrom_of_read {b₀ b₁ : UInt8} {tail rest : List UInt8} {u : CodeUnit}
    (h : read (b₀ :: b₁ :: tail) = (.ok u, rest)) : IsCutFrom u rest b₀ b₁ tail ∧
      BeginsWithUnit (b₀ :: b₁ :: tail) := by
  obtain ⟨hu, hbuffer⟩ := read_eq_ok.1 h
  rw [hu.toBytes_eq, List.append_assoc] at hbuffer
  have hsplit : [b₀, b₁] ++ tail = u.header.toBytes ++ (u.digest ++ rest) := hbuffer
  obtain ⟨hheader, htail⟩ := List.append_inj hsplit u.header.length_toBytes.symm
  obtain ⟨hm, hs, hl⟩ := Header.toBytes_eq_iff.1 hheader.symm
  have hsize := u.length_digest
  rw [Header.digestSize_eq, hm, hs, hl] at hsize
  refine ⟨⟨hm, hs, by cases u.version; rfl, hl, ?_, ?_⟩, Header.exists_toBytes.1 ⟨_, hheader.symm⟩, ?_⟩
  · rw [htail, List.take_left' hsize]
  · rw [htail, List.drop_left' hsize]
  · rw [htail, List.length_append, hsize]
    exact Nat.le_add_right _ _

theorem exists_read_iff (buffer : List UInt8) :
    (∃ u rest, read buffer = (.ok u, rest)) ↔ BeginsWithUnit buffer := by
  constructor
  · rintro ⟨u, rest, h⟩
    obtain ⟨hu, hbuffer⟩ := read_eq_ok.1 h
    rw [hu.toBytes_eq, Header.toBytes_eq] at hbuffer
    rw [hbuffer] at h ⊢
    exact (isCutFrom_of_read h).2
  · intro h
    match buffer, h with
    | b₀ :: b₁ :: tail, ⟨hform, hsize⟩ =>
        obtain ⟨header, hheader⟩ := Header.exists_toBytes.2 hform
        obtain ⟨hm, hs, hl⟩ := Header.toBytes_eq_iff.1 hheader
        rw [← hm, ← hs, ← hl, ← Header.digestSize_eq] at hsize
        obtain ⟨u, hu⟩ := exists_ofHeader (List.length_take_of_le hsize)
        obtain ⟨hcanonical, rfl, hdigest⟩ := ofHeader_eq_ok.1 hu
        refine ⟨u, tail.drop u.header.digestSize, read_eq_ok.2 ⟨hcanonical, ?_⟩⟩
        rw [hcanonical.toBytes_eq, hheader, hdigest, List.append_assoc, List.take_append_drop]
        rfl

theorem exists_error (buffer : List UInt8) (h : ¬ BeginsWithUnit buffer) :
    ∃ e, read buffer = (.error e, buffer) ∧ e.kind = .invalidArgument := by
  have hkind := failsOnBytes_read buffer
  rcases hread : read buffer with ⟨e | u, rest⟩
  · rw [hread] at hkind
    exact ⟨e, by rw [read_error hread], (hkind e rfl).kind⟩
  · exact absurd ((exists_read_iff buffer).1 ⟨u, rest, hread⟩) h

theorem lt_of_beginsWithUnit {buffer : List UInt8} {t s v l : Nat} {more : List Bool}
    (h : BeginsWithUnit buffer) (hbits : Bits.ofBytes buffer =
      Varnibble.digits t ++ Varnibble.digits s ++ Varnibble.digits v ++ Varnibble.digits l ++ more) :
    t < 8 ∧ s < 8 ∧ v < 8 ∧ l < 8 := by
  match buffer, h with
  | b₀ :: b₁ :: tail, ⟨hform, hsize⟩ =>
      have hhigh : b₁.toNat.testBit 7 = false := Nat.testBit_lt_two_pow (hform.length_lt.trans (by decide))
      have hlow : b₁.toNat.testBit 3 = false := Nat.testBit_lt_two_pow hform.length_lt
      simp only [ofBytes_cons, ofNat, hform.maintype_short, hform.subtype_short, hhigh, hlow,
        List.append_assoc, List.cons_append, List.nil_append] at hbits
      obtain ⟨ht, hbits⟩ := Varnibble.of_digits_append hbits.symm
      obtain ⟨hs, hbits⟩ := Varnibble.of_digits_append hbits
      obtain ⟨hv, hbits⟩ := Varnibble.of_digits_append hbits
      exact ⟨ht, hs, hv, (Varnibble.of_digits_append hbits).1⟩

/-- Exactly the buffers that begin with a unit, by its grammar, are read, and their fields are those of
the grammar. -/
theorem read_grammar :
    (∀ buffer, (∃ u rest, read buffer = (.ok u, rest)) ↔ BeginsWithUnit buffer) ∧
    (∀ b₀ b₁ tail u rest, read (b₀ :: b₁ :: tail) = (.ok u, rest) → IsCutFrom u rest b₀ b₁ tail) ∧
    (∀ buffer, ¬ BeginsWithUnit buffer →
      ∃ e, read buffer = (.error e, buffer) ∧ e.kind = .invalidArgument) ∧
    ∀ buffer t s v l more, Bits.ofBytes buffer =
        Varnibble.digits t ++ Varnibble.digits s ++ Varnibble.digits v ++ Varnibble.digits l ++ more →
      (∃ n ∈ [t, s, v, l], 4 < (Varnibble.digits n).length) ∨
        paddingSize (Varnibble.digits t ++ Varnibble.digits s ++ Varnibble.digits v ++
          Varnibble.digits l).length ≠ 0 →
      ∃ e, read buffer = (.error e, buffer) ∧ e.kind = .invalidArgument := by
  refine ⟨exists_read_iff, fun b₀ b₁ tail u rest h => (isCutFrom_of_read h).1, exists_error, ?_⟩
  intro buffer t s v l more hbits hlong
  apply exists_error
  intro hunit
  obtain ⟨ht, hs, hv, hl⟩ := lt_of_beginsWithUnit hunit hbits
  have hfour : ∀ n ∈ [t, s, v, l], (Varnibble.digits n).length = 4 := by
    intro n hn
    apply Varnibble.length_digits
    simp only [List.mem_cons, List.not_mem_nil, or_false] at hn
    rcases hn with rfl | rfl | rfl | rfl <;> assumption
  rcases hlong with ⟨n, hn, hgt⟩ | hpadding
  · rw [hfour n hn] at hgt
    exact Nat.lt_irrefl 4 hgt
  · simp only [List.forall_mem_cons] at hfour
    simp [paddingSize, hfour] at hpadding

end CodeUnit

end ContentCode
