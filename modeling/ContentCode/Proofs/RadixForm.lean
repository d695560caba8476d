import Mathlib.Data.List.Basic
import Mathlib.Data.List.TakeWhile
import ContentCode.Radix
import ContentCode.Proofs.BitGroups

/-!
Texts in base32 and base64 are read as the bytes that they were written for.
-/

namespace ContentCode

open Bits

theorem utf8ByteSize_ofList (cs : List Char) :
    (String.ofList cs).utf8ByteSize = (cs.map Char.utf8Size).sum := by
  induction cs with
  | nil => rfl
  | cons c cs ih =>
      rw [← List.singleton_append, String.ofList_append, String.utf8ByteSize_append, ih]
      simp

theorem toUpper_eq_self {c : Char} (h : 128 ≤ c.toNat) : c.toUpper = c := by
  have hlarge : ¬ (c.val ≥ 'a'.val ∧ c.val ≤ 'z'.val) := by
    rintro ⟨-, hle⟩
    have hz : c.toNat ≤ 'z'.toNat := UInt32.le_iff_toNat_le.1 hle
    exact absurd (h.trans hz) (by decide)
  exact dif_neg hlarge

theorem utf8Size_toUpper (c : Char) : c.toUpper.utf8Size = c.utf8Size := by
  have hascii : ∀ v < 128, (Char.ofNat v).toUpper.utf8Size = (Char.ofNat v).utf8Size := by
    decide +kernel
  by_cases hc : c.toNat < 128
  · have h := hascii c.toNat hc
    rwa [Char.ofNat_toNat] at h
  · rw [toUpper_eq_self (Nat.not_lt.1 hc)]

namespace Alphabet

theorem value?_eq_some {a : Alphabet} {c : Char} {v : Nat} (h : a.value? c = some v) :
    v < a.symbols.length ∧ a.symbols.getD v '?' = c := by
  obtain ⟨hlt, hc, -⟩ := List.idxOf?_eq_some_iff.1 h
  refine ⟨hlt, ?_⟩
  rw [List.getD_eq_getElem?_getD, List.getElem?_eq_getElem hlt, hc, Option.getD_some]

/-- An alphabet with a symbol of its own for every digit. -/
structure IsFaithful (a : Alphabet) : Prop where
  width_pos : 0 < a.width
  value?_symbol : ∀ v < 2 ^ a.width, a.value? (a.symbols.getD v '?') = some v

theorem base32_isFaithful : base32.IsFaithful := ⟨by decide, by decide +kernel⟩

theorem base64_isFaithful : base64.IsFaithful := ⟨by decide, by decide +kernel⟩

theorem base32_width : base32.width = 5 := rfl

theorem base64_width : base64.width = 6 := rfl

theorem base32_symbol : ∀ v < 2 ^ 5,
    (base32.symbols.getD v '?').toUpper = base32.symbols.getD v '?' ∧
    (base32.symbols.getD v '?').utf8Size = 1 := by
  decide +kernel

variable {a : Alphabet} {symbols : List Char}

theorem bits_of_known (h : ∀ c ∈ symbols, (a.value? c).isSome) :
    a.bits symbols = (symbols.map fun c => (a.value? c).getD 0).flatMap (ofNat a.width) := by
  rw [bits, List.takeWhile_eq_self_iff.2 h, List.flatMap_map]

theorem length_bits (h : ∀ c ∈ symbols, (a.value? c).isSome) :
    (a.bits symbols).length = a.width * symbols.length := by
  rw [bits_of_known h, List.length_flatMap]
  simp only [length_ofNat, List.map_const', List.sum_replicate_nat, List.length_map, Nat.mul_comm]

namespace IsFaithful

variable (ha : a.IsFaithful)

include ha

theorem exists_of_mem_encode {bytes : List UInt8} {c : Char} (h : c ∈ a.encode bytes) :
    ∃ v < 2 ^ a.width, c = a.symbols.getD v '?' := by
  obtain ⟨v, hv, rfl⟩ := List.mem_map.1 h
  exact ⟨v, mem_groups_lt ha.width_pos _ v hv, rfl⟩

theorem isSome_of_mem_encode (bytes : List UInt8) : ∀ c ∈ a.encode bytes, (a.value? c).isSome := by
  intro c hc
  obtain ⟨v, hv, rfl⟩ := ha.exists_of_mem_encode hc
  rw [ha.value?_symbol v hv]
  rfl

theorem takeWhile_encode (bytes : List UInt8) :
    (a.encode bytes).takeWhile (fun c => (a.value? c).isSome) = a.encode bytes :=
  List.takeWhile_eq_self_iff.2 (ha.isSome_of_mem_encode bytes)

theorem bits_encode (bytes : List UInt8) : a.bits (a.encode bytes) =
    Bits.ofBytes bytes ++
      List.replicate ((a.width - 8 * bytes.length % a.width) % a.width) false := by
  rw [bits, ha.takeWhile_encode, encode, List.flatMap_map, ← length_ofBytes,
    ← flatMap_groups ha.width_pos]
  refine List.flatMap_congr fun v hv => ?_
  rw [ha.value?_symbol v (mem_groups_lt ha.width_pos _ v hv)]
  rfl

theorem length_encode (bytes : List UInt8) : a.width * (a.encode bytes).length =
    8 * bytes.length + (a.width - 8 * bytes.length % a.width) % a.width := by
  rw [← length_bits (ha.isSome_of_mem_encode bytes), ha.bits_encode, List.length_append, length_ofBytes,
    List.length_replicate]

end IsFaithful

theorem encode_of_bits {symbols : List Char} {bytes : List UInt8} {rest : List Bool}
    (hknown : ∀ c ∈ symbols, (base32.value? c).isSome)
    (hbits : base32.bits symbols = Bits.ofBytes bytes ++ rest) (hrest : ∀ b ∈ rest, b = false)
    (hlen : rest.length < 5) : base32.encode bytes = symbols := by
  have hpos : 0 < 5 := by decide
  have hvalues : ∀ c ∈ symbols, (base32.value? c).getD 0 < 2 ^ 5 ∧
      base32.symbols.getD ((base32.value? c).getD 0) '?' = c := by
    intro c hc
    obtain ⟨v, hv⟩ := Option.isSome_iff_exists.1 (hknown c hc)
    rw [hv]
    exact value?_eq_some hv
  have hfill : rest = List.replicate ((5 - (Bits.ofBytes bytes).length % 5) % 5) false := by
    have hsize := congrArg List.length hbits
    rw [length_bits hknown, List.length_append, base32_width] at hsize
    refine List.eq_replicate_iff.2 ⟨?_, hrest⟩
    omega
  -- both sides spell the same bits in whole digits
  have hgroups : groups 5 (Bits.ofBytes bytes) = symbols.map fun c => (base32.value? c).getD 0 := by
    have hsame : (groups 5 (Bits.ofBytes bytes)).flatMap (ofNat 5) =
        (symbols.map fun c => (base32.value? c).getD 0).flatMap (ofNat 5) := by
      rw [flatMap_groups hpos, ← hfill, ← hbits, bits_of_known hknown, base32_width]
    have hcut := congrArg (groups 5) hsame
    rw [groups_flatMap hpos _ (mem_groups_lt hpos _), groups_flatMap hpos] at hcut
    · exact hcut
    · intro v hv
      obtain ⟨c, hc, rfl⟩ := List.mem_map.1 hv
      exact (hvalues c hc).1
  rw [encode]
  change (groups 5 _).map _ = symbols
  rw [hgroups, List.map_map]
  conv_rhs => rw [← List.map_id symbols]
  exact List.map_congr_left fun c hc => (hvalues c hc).2

end Alphabet

theorem Bits.split_append {bytes : List UInt8} {rest : List Bool} (h : rest.length < 8) :
    Bits.split (Bits.ofBytes bytes ++ rest) = (bytes, rest) := by
  have hwhole : 8 * ((Bits.ofBytes bytes ++ rest).length / 8) = (Bits.ofBytes bytes).length := by
    rw [List.length_append, length_ofBytes]
    omega
  rw [Bits.split, hwhole, List.take_left, List.drop_left, toBytes_ofBytes]

theorem Bits.ofBytes_split (bits : List Bool) :
    Bits.ofBytes (Bits.split bits).1 ++ (Bits.split bits).2 = bits ∧
      (Bits.split bits).2.length = bits.length % 8 := by
  have hwhole : (bits.take (8 * (bits.length / 8))).length = 8 * (bits.length / 8) := by
    rw [List.length_take]
    omega
  refine ⟨?_, ?_⟩
  · rw [Bits.split, ofBytes_toBytes_of_dvd (hwhole.symm ▸ Nat.dvd_mul_right 8 (bits.length / 8)),
      List.take_append_drop]
  · rw [Bits.split, List.length_drop]
    omega

namespace Base32

theorem toUpper_encode (bytes : List UInt8) :
    (Alphabet.base32.encode bytes).map Char.toUpper = Alphabet.base32.encode bytes := by
  conv_rhs => rw [← List.map_id (Alphabet.base32.encode bytes)]
  refine List.map_congr_left fun c hc => ?_
  obtain ⟨v, hv, rfl⟩ := Alphabet.base32_isFaithful.exists_of_mem_encode hc
  exact (Alphabet.base32_symbol v hv).1

theorem utf8ByteSize_of_known {text : String}
    (h : ∀ c ∈ text.toList.map Char.toUpper, (Alphabet.base32.value? c).isSome) :
    text.utf8ByteSize = text.toList.length := by
  have hone : text.toList.map Char.utf8Size = text.toList.map fun _ => 1 := by
    refine List.map_congr_left fun c hc => ?_
    obtain ⟨v, hv⟩ := Option.isSome_iff_exists.1 (h _ (List.mem_map_of_mem hc))
    obtain ⟨hlt, hsymbol⟩ := Alphabet.value?_eq_some hv
    rw [← utf8Size_toUpper, ← hsymbol]
    exact (Alphabet.base32_symbol v hlt).2
  conv_lhs => rw [← String.ofList_toList (s := text)]
  rw [utf8ByteSize_ofList, hone, List.map_const', List.sum_replicate_nat, Nat.mul_one]

/-- In either case, the text that bytes are written as is the only one that is read as them. -/
theorem decode_eq_ok {text : String} {bytes : List UInt8} :
    decode text = .ok bytes ↔ text.toList.map Char.toUpper = Alphabet.base32.encode bytes := by
  constructor
  · intro h
    simp only [decode] at h
    split at h
    · cases h
    next hlength =>
    split at h
    · cases h
    next hsymbols =>
    split at h
    · cases h
    next hrest =>
    obtain rfl := Except.ok.inj h
    have hknown : ∀ c ∈ text.toList.map Char.toUpper, (Alphabet.base32.value? c).isSome := by
      rw [← List.takeWhile_eq_self_iff]
      refine (List.takeWhile_prefix _).eq_of_length ?_
      exact Nat.le_antisymm (List.takeWhile_prefix _).length_le (Nat.not_lt.1 hsymbols)
    obtain ⟨hbits, hsize⟩ := ofBytes_split (Alphabet.base32.bits (text.toList.map Char.toUpper))
    rw [Alphabet.length_bits hknown, List.length_map] at hsize
    rw [utf8ByteSize_of_known hknown] at hlength
    refine (Alphabet.encode_of_bits hknown hbits.symm ?_ ?_).symm
    · simpa using hrest
    · -- the lengths that are refused are those that leave five bits or more
      have hleft : ∀ r < 8, ¬ (r = 1 ∨ r = 3 ∨ r = 6) → 5 * r % 8 < 5 := by decide
      rw [hsize, Nat.mul_mod]
      exact hleft _ (Nat.mod_lt _ (by decide)) hlength
  · intro h
    have hlen := Alphabet.base32_isFaithful.length_encode bytes
    rw [Alphabet.base32_width] at hlen
    have hfill : (List.replicate ((5 - 8 * bytes.length % 5) % 5) false).length < 8 := by
      rw [List.length_replicate]
      omega
    have hknown : ∀ c ∈ text.toList.map Char.toUpper, (Alphabet.base32.value? c).isSome := by
      rw [h, ← List.takeWhile_eq_self_iff]
      exact Alphabet.base32_isFaithful.takeWhile_encode bytes
    have hsize : text.utf8ByteSize = (Alphabet.base32.encode bytes).length := by
      rw [utf8ByteSize_of_known hknown, ← h, List.length_map]
    simp only [decode, hsize, h, Alphabet.base32_isFaithful.takeWhile_encode,
      Alphabet.base32_isFaithful.bits_encode, Alphabet.base32_width, split_append hfill]
    rw [if_neg (by omega), if_neg (Nat.lt_irrefl _), if_neg (by simp)]

theorem decode_encode (bytes : List UInt8) : decode (encode bytes) = .ok bytes := by
  rw [decode_eq_ok, encode, String.toList_ofList, toUpper_encode]

end Base32

namespace Base64

theorem symbol_ne_padding : ∀ v < 2 ^ 6, Alphabet.base64.symbols.getD v '?' ≠ '=' := by
  decide +kernel

theorem takeWhile_encode (bytes : List UInt8) :
    (Alphabet.base64.encode bytes ++ padding (Alphabet.base64.encode bytes)).takeWhile (· ≠ '=') =
      Alphabet.base64.encode bytes := by
  have hsymbols : ∀ c ∈ Alphabet.base64.encode bytes, decide (c ≠ '=') = true := by
    intro c hc
    obtain ⟨v, hv, rfl⟩ := Alphabet.base64_isFaithful.exists_of_mem_encode hc
    exact decide_eq_true (symbol_ne_padding v hv)
  rw [List.takeWhile_append_of_pos hsymbols, padding]
  cases (4 - (Alphabet.base64.encode bytes).length % 4) % 4 <;> simp [List.replicate_succ]

theorem decode_encode (bytes : List UInt8) : decode (encode bytes) = some bytes := by
  have hlen := Alphabet.base64_isFaithful.length_encode bytes
  rw [Alphabet.base64_width] at hlen
  have hfill : (List.replicate ((6 - 8 * bytes.length % 6) % 6) false).length < 8 := by
    rw [List.length_replicate]
    omega
  have hknown := Alphabet.base64_isFaithful.isSome_of_mem_encode bytes
  simp only [decode, encode, String.toList_ofList, takeWhile_encode, Alphabet.base64_isFaithful.bits_encode,
    Alphabet.base64_width, Bits.split_append hfill]
  rw [if_neg (by omega), if_neg (by simp), if_neg (by simpa [Option.isSome_iff_ne_none] using hknown),
    if_neg (by simp)]

end Base64

end ContentCode
