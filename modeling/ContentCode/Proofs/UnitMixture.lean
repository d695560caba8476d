import ContentCode.Proofs.AssemblyDomain
import ContentCode.Proofs.GeneratorDomain

/-!
Mixed codes depend on the units that are mixed, each as often as it is given, and on nothing else about
the texts in which they are given. Each bit of a mixed code is what at least half of the units have there,
and what is mixed with itself stays as it is.
-/

namespace ContentCode.MixedCode

open Bits

variable {bits size : Nat} {code : String} {codes codes' : List String} {u : CodeUnit} {units : List CodeUnit}
  {r : MixedCode}

section entries

theorem exists_entry_eq (hu : u.IsCanonical) (size : Nat) : ∃ b, u.header.toBytes.head? = some b ∧
    entry size u = b :: (u.digest.take (size - 1)).rightpad (size - 1) 0 := by
  obtain ⟨b, c, hheader⟩ := List.length_eq_two.1 u.header.length_toBytes
  refine ⟨b, by rw [hheader]; rfl, ?_⟩
  have hfirst : u.toBytes.take 1 = [b] := by
    rw [hu.toBytes_eq, hheader]
    rfl
  have hfill : size - (b :: u.digest.take (size - 1)).length = size - 1 - (u.digest.take (size - 1)).length := by
    rw [List.length_cons]
    omega
  simp only [entry, hfirst, List.singleton_append]
  rw [hfill, List.rightpad, List.cons_append]

end entries

section codes

theorem size_pos (h : bits ∈ Code.supportedBits) : 0 < bits / 8 := by
  have hrange := Code.bits_of_supported bits h
  omega

theorem mapM_readContent_eq_ok : codes.mapM readContent = .ok units ↔
    codes.mapM Code.decode = .ok units ∧ ∀ u ∈ units, u.maintype = .content := by
  simp only [mapM_eq_ok, readContent_eq_ok]
  constructor
  · intro h
    have hunits : List.Forall₂ (fun (u : CodeUnit) code => u.maintype = .content ∧ Code.decode code = .ok u)
        units codes := h.flip.imp fun u code hu => ⟨hu.2, hu.1⟩
    obtain ⟨hcontent, hunits⟩ := (List.forall₂_and_left _ _).1 hunits
    exact ⟨hunits.flip, hcontent⟩
  · rintro ⟨hunits, hcontent⟩
    exact (((List.forall₂_and_left _ _).2 ⟨hcontent, hunits.flip⟩).imp fun u code hu => ⟨hu.2, hu.1⟩).flip

/-- The digest of a code of `size` bytes. -/
def mixture (size : Nat) (units : List CodeUnit) : List UInt8 := SimHash.majority size (units.map (entry size))

theorem ne_nil_of_mapM {f : String → Except Error CodeUnit} (h : codes.mapM f = .ok units)
    (hlen : 2 ≤ codes.length) : units ≠ [] := by
  rintro rfl
  rw [(mapM_eq_ok.1 h).length_eq] at hlen
  cases hlen

theorem simhash_mixture (hbits : bits ∈ Code.supportedBits) (hlen : 2 ≤ codes.length)
    (hunits : codes.mapM readContent = .ok units) :
    SimHash.simhash (units.map (entry (bits / 8))) = .ok (mixture (bits / 8) units) :=
  (simhash_entries (size_pos hbits) (ne_nil_of_mapM hunits hlen)).1

theorem generate_eq_ok : generate codes bits = .ok r ↔ bits ∈ Code.supportedBits ∧ 2 ≤ codes.length ∧
    ∃ units, (codes.mapM Code.decode = .ok units ∧ ∀ u ∈ units, u.maintype = .content) ∧ ∃ code,
      Code.generate .content .mixed bits (mixture (bits / 8) units) = .ok code ∧ r = ⟨code, codes⟩ := by
  simp only [← mapM_readContent_eq_ok]
  rw [generate, bind_eq_ok]
  constructor
  · rintro ⟨_, hcheck, h⟩
    have hbits : bits ∈ Code.supportedBits := by
      by_contra hbits
      rw [Code.checkBits_of_not_mem hbits] at hcheck
      cases hcheck
    by_cases hfew : codes.length < 2
    · rw [if_pos hfew] at h
      cases h
    rw [if_neg hfew, bind_eq_ok] at h
    obtain ⟨units, hunits, h⟩ := h
    obtain ⟨digest, hdigest, h⟩ := bind_eq_ok.1 h
    rw [simhash_mixture hbits (Nat.not_lt.1 hfew) hunits, Except.ok.injEq] at hdigest
    subst hdigest
    obtain ⟨code, hcode, h⟩ := bind_eq_ok.1 h
    exact ⟨hbits, Nat.not_lt.1 hfew, units, hunits, code, hcode, (pure_eq_ok.1 h).symm⟩
  · rintro ⟨hbits, hlen, units, hunits, code, hcode, rfl⟩
    refine ⟨(), Code.checkBits_of_mem hbits, ?_⟩
    rw [if_neg (Nat.not_lt.2 hlen)]
    exact bind_eq_ok.2 ⟨units, hunits,
      bind_eq_ok.2 ⟨_, simhash_mixture hbits hlen hunits, bind_eq_ok.2 ⟨code, hcode, rfl⟩⟩⟩

theorem mixture_of_perm (hbits : bits ∈ Code.supportedBits) {units' : List CodeUnit} (h : units'.Perm units) :
    mixture (bits / 8) units' = mixture (bits / 8) units :=
  SimHash.majority_of_perm (h.map _) (length_of_mem_entries (size_pos hbits) units)

theorem exists_generate_of_perm (hperm : (codes'.map Code.decode).Perm (codes.map Code.decode))
    (h : generate codes bits = .ok r) : ∃ r', generate codes' bits = .ok r' ∧ r'.iscc = r.iscc := by
  obtain ⟨hbits, hlen, units, ⟨hunits, hcontent⟩, code, hcode, rfl⟩ := generate_eq_ok.1 h
  obtain ⟨units', hunits', hperm'⟩ := exists_mapM_of_perm hperm hunits
  have hcount : codes'.length = codes.length := by simpa using hperm.length_eq
  have hcontent' : ∀ u ∈ units', u.maintype = .content := fun u hu => hcontent u (hperm'.mem_iff.1 hu)
  rw [← mixture_of_perm hbits hperm'] at hcode
  exact ⟨⟨code, codes'⟩,
    generate_eq_ok.2 ⟨hbits, hcount ▸ hlen, units', ⟨hunits', hcontent'⟩, code, hcode, rfl⟩, rfl⟩

theorem generate_of_perm (hperm : (codes'.map Code.decode).Perm (codes.map Code.decode)) (bits : Nat) :
    (∃ e e', generate codes bits = .error e ∧ generate codes' bits = .error e') ∨
      ∃ r r', generate codes bits = .ok r ∧ generate codes' bits = .ok r' ∧ r'.iscc = r.iscc := by
  cases h : generate codes bits with
  | ok r =>
      obtain ⟨r', hr', hiscc⟩ := exists_generate_of_perm hperm h
      exact .inr ⟨r, r', rfl, hr', hiscc⟩
  | error e =>
      cases h' : generate codes' bits with
      | ok r' =>
          obtain ⟨r, hr, -⟩ := exists_generate_of_perm hperm.symm h'
          rw [h] at hr
          cases hr
      | error e' => exact .inl ⟨e, e', rfl, rfl⟩

theorem bit_mixture (hbits : bits ∈ Code.supportedBits) (units : List CodeUnit) : ∀ j < bits,
    bitAt (mixture (bits / 8) units) j = true ↔
      units.length ≤ 2 * (units.map (entry (bits / 8))).countP (bitAt · j) := by
  intro j hj
  have hrange := Code.bits_of_supported bits hbits
  rw [mixture, SimHash.bitAt_majority (length_of_mem_entries (size_pos hbits) units) (by omega),
    decide_eq_true_iff, List.length_map]

theorem mixture_of_copies (hbits : bits ∈ Code.supportedBits) (hne : units ≠ []) (h : ∀ v ∈ units, v = u) :
    mixture (bits / 8) units = entry (bits / 8) u := by
  have hcopies : ∀ d ∈ units.map (entry (bits / 8)), d = entry (bits / 8) u := by
    intro d hd
    obtain ⟨v, hv, rfl⟩ := List.mem_map.1 hd
    rw [h v hv]
  have hentries : units.map (entry (bits / 8)) ≠ [] := by simpa using hne
  exact (SimHash.isMajority_majority (length_of_mem_entries (size_pos hbits) units)).unique hentries
    (.of_copies hentries hcopies)

theorem decode_of_generate (h : generate codes bits = .ok r) : ∃ units v, codes.mapM Code.decode = .ok units ∧
    Code.decode r.iscc = .ok v ∧ v.digest = mixture (bits / 8) units ∧ v.digest.length = bits / 8 := by
  obtain ⟨hbits, -, units, ⟨hunits, -⟩, code, hcode, rfl⟩ := generate_eq_ok.1 h
  obtain ⟨v, hv, -, -, -, -, hdigest⟩ := Code.decode_of_generate (by decide) (by decide) hcode
  have hsize : (mixture (bits / 8) units).length = bits / 8 :=
    SimHash.length_majority (length_of_mem_entries (size_pos hbits) units)
  rw [List.take_of_length_le hsize.le] at hdigest
  exact ⟨units, v, hunits, hv, hdigest, hdigest ▸ hsize⟩

/-- Texts of the same units, in any order, are refused or mixed to the same code. There is one for two
content units or more, and its bits are set where at least half of the entries have them set, which are the
first bytes of the headers with the digests behind them. Texts of one unit only are mixed to its entry. -/
theorem units_mixed (codes : List String) (bits : Nat) :
    (∀ codes', (codes'.map Code.decode).Perm (codes.map Code.decode) →
      (∃ e e', generate codes bits = .error e ∧ generate codes' bits = .error e') ∨
      ∃ r r', generate codes bits = .ok r ∧ generate codes' bits = .ok r' ∧ r'.iscc = r.iscc) ∧
    ((∃ r, generate codes bits = .ok r) ↔ bits ∈ Code.supportedBits ∧ 2 ≤ codes.length ∧
      ∀ code ∈ codes, ∃ u, Code.decode code = .ok u ∧ u.maintype = .content) ∧
    (∀ r, generate codes bits = .ok r → ∃ units v, codes.mapM Code.decode = .ok units ∧
      Code.decode r.iscc = .ok v ∧ v.digest.length = bits / 8 ∧
      (∀ j < bits, bitAt v.digest j = true ↔
        codes.length ≤ 2 * (units.map (entry (bits / 8))).countP (bitAt · j)) ∧
      ∀ u ∈ units, ∃ b, u.header.toBytes.head? = some b ∧
        entry (bits / 8) u = b :: (u.digest.take (bits / 8 - 1)).rightpad (bits / 8 - 1) 0) ∧
    ∀ u, u.maintype = .content → bits ∈ Code.supportedBits → 2 ≤ codes.length →
      (∀ code ∈ codes, Code.decode code = .ok u) →
      ∃ r v, generate codes bits = .ok r ∧ Code.decode r.iscc = .ok v ∧ v.digest = entry (bits / 8) u := by
  have hdomain := (generates codes).exists_iff bits
  refine ⟨fun codes' hperm => generate_of_perm hperm bits, hdomain, fun r hr => ?_,
    fun u hcontent hbits hlen hcodes => ?_⟩
  · obtain ⟨hbits, -⟩ := hdomain.1 ⟨r, hr⟩
    obtain ⟨units, v, hunits, hv, hdigest, hsize⟩ := decode_of_generate hr
    refine ⟨units, v, hunits, hv, hsize, fun j hj => ?_, fun u hu => ?_⟩
    · rw [hdigest, bit_mixture hbits units j hj, (mapM_eq_ok.1 hunits).length_eq]
    · obtain ⟨code, -, hcode⟩ := exists_of_mem_mapM hunits hu
      exact exists_entry_eq (Code.decode_eq_ok.1 hcode).1 _
  · obtain ⟨r, hr⟩ := hdomain.2 ⟨hbits, hlen, fun code hcode => ⟨u, hcodes code hcode, hcontent⟩⟩
    obtain ⟨units, v, hunits, hv, hdigest, -⟩ := decode_of_generate hr
    have hcopies : ∀ w ∈ units, w = u := by
      intro w hw
      obtain ⟨code, hcode, hw⟩ := exists_of_mem_mapM hunits hw
      rw [hcodes code hcode, Except.ok.injEq] at hw
      exact hw.symm
    exact ⟨r, v, hr, hv, hdigest.trans (mixture_of_copies hbits (ne_nil_of_mapM hunits hlen) hcopies)⟩

def textUnit : CodeUnit := ⟨Composite.textHeader, Composite.textBytes, 2, Composite.length_textBytes⟩

def imageUnit : CodeUnit :=
  ⟨⟨.content, .image, .v0, 1, Composite.one_le_maxLength_content⟩, [33, 1] ++ List.replicate 8 0, 2, rfl⟩

theorem units_mixed_respelled :
    (∃ r r' v, generate ["EAASKDNZNYGUUF5A", "EEAQAAAAAAAAAAAA"] 64 = .ok r ∧
      generate ["eeaq-aaaa-aaaa-aaaa", " ISCC:EAASKDNZNYGUUF5A"] 64 = .ok r' ∧ r'.iscc = r.iscc ∧
      Code.decode r.iscc = .ok v ∧ ∀ j < 64, bitAt v.digest j = true ↔
        2 ≤ 2 * ([textUnit, imageUnit].map (entry 8)).countP (bitAt · j)) ∧
    ∃ r v, generate ["EAASKDNZNYGUUF5A", "iscc:eaaskdnznyguuf5a"] 128 = .ok r ∧ Code.decode r.iscc = .ok v ∧
      v.digest = [32, 37, 13, 185, 110, 13, 74, 23, 160, 0, 0, 0, 0, 0, 0, 0] := by
  have htext : Code.decode "EAASKDNZNYGUUF5A" = .ok textUnit := by decide +kernel
  have himage : Code.decode "EEAQAAAAAAAAAAAA" = .ok imageUnit := by decide +kernel
  have htext' : Code.decode " ISCC:EAASKDNZNYGUUF5A" = .ok textUnit := by decide +kernel
  have himage' : Code.decode "eeaq-aaaa-aaaa-aaaa" = .ok imageUnit := by decide +kernel
  have hlower : Code.decode "iscc:eaaskdnznyguuf5a" = .ok textUnit := by decide +kernel
  constructor
  · obtain ⟨hperm, hdomain, hbits, -⟩ := units_mixed ["EAASKDNZNYGUUF5A", "EEAQAAAAAAAAAAAA"] 64
    have hsame : (["eeaq-aaaa-aaaa-aaaa", " ISCC:EAASKDNZNYGUUF5A"].map Code.decode).Perm
        (["EAASKDNZNYGUUF5A", "EEAQAAAAAAAAAAAA"].map Code.decode) := by
      simp only [List.map_cons, List.map_nil, htext, himage, htext', himage']
      exact .swap _ _ _
    obtain ⟨r, hr⟩ := hdomain.2 ⟨by decide, by decide, by simp [htext, himage]; decide⟩
    rcases hperm _ hsame with ⟨e, e', he, -⟩ | ⟨r₁, r', hr₁, hr', hiscc⟩
    · rw [hr] at he
      cases he
    · obtain ⟨units, v, hunits, hv, -, hv', -⟩ := hbits r₁ hr₁
      have hboth : ["EAASKDNZNYGUUF5A", "EEAQAAAAAAAAAAAA"].mapM Code.decode = .ok [textUnit, imageUnit] :=
        mapM_eq_ok.2 (.cons htext (.cons himage .nil))
      rw [hboth, Except.ok.injEq] at hunits
      subst hunits
      exact ⟨r₁, r', v, hr₁, hr', hiscc, hv, hv'⟩
  · obtain ⟨-, -, -, hcopies⟩ := units_mixed ["EAASKDNZNYGUUF5A", "iscc:eaaskdnznyguuf5a"] 128
    have hentry : entry 16 textUnit = [32, 37, 13, 185, 110, 13, 74, 23, 160, 0, 0, 0, 0, 0, 0, 0] := by decide
    obtain ⟨r, v, hr, hv, hdigest⟩ := hcopies textUnit (by decide) (by decide) (by decide)
      (by simp [htext, hlower])
    exact ⟨r, v, hr, hv, hdigest.trans hentry⟩

end codes

end ContentCode.MixedCode
