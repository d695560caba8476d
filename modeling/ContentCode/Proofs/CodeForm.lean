import ContentCode.Code
import ContentCode.Proofs.RadixForm
import ContentCode.Proofs.Success
import ContentCode.Proofs.UnitForm

/-!
The text of a unit is read as that unit, with and without the scheme in front.
-/

namespace ContentCode

namespace Unicode

theorem trim_eq_self {cs : List Char} (h : ∀ c ∈ cs, isWhiteSpace c = false) : trim cs = cs := by
  have hid {l : List Char} (hl : ∀ c ∈ l, isWhiteSpace c = false) : l.dropWhile isWhiteSpace = l := by
    cases l with
    | nil => rfl
    | cons c l => rw [List.dropWhile_cons_of_neg (by simp [hl c List.mem_cons_self])]
  rw [trim, hid h, hid fun c hc => h c (List.mem_reverse.1 hc), List.reverse_reverse]

end Unicode

namespace Alphabet

theorem base32_symbol_plain : ∀ v < 2 ^ 5,
    Unicode.isWhiteSpace (base32.symbols.getD v '?') = false ∧ base32.symbols.getD v '?' ≠ '-' ∧
    base32.symbols.getD v '?' ≠ ':' := by
  decide +kernel

end Alphabet

namespace Code

theorem filter_hyphen_encode (bytes : List UInt8) :
    (Alphabet.base32.encode bytes).filter (· ≠ '-') = Alphabet.base32.encode bytes := by
  rw [List.filter_eq_self]
  intro c hc
  obtain ⟨v, hv, rfl⟩ := Alphabet.base32_isFaithful.exists_of_mem_encode hc
  simpa using (Alphabet.base32_symbol_plain v hv).2.1

theorem clean_encode (bytes : List UInt8) : clean (Base32.encode bytes) = Base32.encode bytes := by
  have hplain : ∀ c ∈ Alphabet.base32.encode bytes, Unicode.isWhiteSpace c = false := by
    intro c hc
    obtain ⟨v, hv, rfl⟩ := Alphabet.base32_isFaithful.exists_of_mem_encode hc
    exact (Alphabet.base32_symbol_plain v hv).1
  -- no text in base32 has the colon of the scheme
  have hscheme : ((Alphabet.base32.encode bytes).take scheme.length).map Char.toUpper ≠ scheme.toList := by
    intro h
    have hmem : ':' ∈ ((Alphabet.base32.encode bytes).take scheme.length).map Char.toUpper := by
      rw [h]
      decide
    rw [List.map_take, Base32.toUpper_encode] at hmem
    obtain ⟨v, hv, he⟩ := Alphabet.base32_isFaithful.exists_of_mem_encode (List.mem_of_mem_take hmem)
    exact (Alphabet.base32_symbol_plain v hv).2.2 he.symm
  simp only [clean, Base32.encode, String.toList_ofList, Unicode.trim_eq_self hplain]
  rw [if_neg hscheme, filter_hyphen_encode]

theorem clean_withScheme_encode (bytes : List UInt8) :
    clean (withScheme (Base32.encode bytes)) = Base32.encode bytes := by
  have hscheme : (scheme.toList.all fun c => !Unicode.isWhiteSpace c) = true := by decide +kernel
  have hplain : ∀ c ∈ scheme.toList ++ Alphabet.base32.encode bytes, Unicode.isWhiteSpace c = false := by
    intro c hc
    rcases List.mem_append.1 hc with hc | hc
    · simpa using List.all_eq_true.1 hscheme c hc
    · obtain ⟨v, hv, rfl⟩ := Alphabet.base32_isFaithful.exists_of_mem_encode hc
      exact (Alphabet.base32_symbol_plain v hv).1
  have hlen : scheme.toList.length = scheme.length := rfl
  simp only [clean, withScheme, Base32.encode, String.toList_append, String.toList_ofList,
    Unicode.trim_eq_self hplain]
  rw [if_pos (by rw [List.take_left' hlen]; decide), List.drop_left' hlen, filter_hyphen_encode]

theorem decode_of_clean {code : String} {u : CodeUnit} (hu : u.IsCanonical)
    (h : clean code = u.toCode) : decode code = .ok u := by
  rw [decode, toBytes, h, CodeUnit.toCode, Base32.decode_encode]
  exact CodeUnit.ofBytes_eq_ok.2 ⟨hu, rfl⟩

theorem decode_toCode {u : CodeUnit} (hu : u.IsCanonical) : decode u.toCode = .ok u :=
  decode_of_clean hu (clean_encode _)

theorem decode_withScheme_toCode {u : CodeUnit} (hu : u.IsCanonical) :
    decode (withScheme u.toCode) = .ok u :=
  decode_of_clean hu (clean_withScheme_encode _)

theorem bits_of_supported : ∀ bits ∈ supportedBits, 32 ≤ bits ∧ bits ≤ 256 ∧ bits % 32 = 0 := by
  decide

theorem checkBits_of_mem {bits : Nat} (h : bits ∈ supportedBits) : checkBits bits = .ok () :=
  if_pos h

theorem exists_generate {t : MainType} (s : SubType) {bits : Nat} {d : List UInt8} (hiscc : t ≠ .iscc)
    (hid : t ≠ .id) (hbits : bits ∈ supportedBits) (hd : d.length = 32) :
    ∃ code, generate t s bits d = .ok code := by
  have hrange := bits_of_supported bits hbits
  obtain ⟨u, hu, -⟩ := CodeUnit.exists_ofDigest s .v0 hiscc hid hrange (d := d) (by omega)
  have hencode : encode t s .v0 bits d = .ok u.toCode := by
    cases t <;> simp_all [encode, bind, Except.bind, pure, Except.pure]
  refine ⟨withScheme u.toCode, ?_⟩
  simp only [generate, checkBits_of_mem hbits, hencode, bind, Except.bind, pure, Except.pure]

end Code

end ContentCode
