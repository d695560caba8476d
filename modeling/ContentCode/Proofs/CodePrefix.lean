import ContentCode.Generator.Data
import ContentCode.Generator.Instance
import ContentCode.Generator.Mixed
import ContentCode.Generator.Video
import ContentCode.Proofs.CodeCanonical
import ContentCode.Proofs.DigestSize

/-!
A shorter code is the beginning of a longer one. Behind the codes that a generator gives out for one
input stands one digest of 32 bytes, whatever the length is, and all of them begin with its bytes.
-/

namespace ContentCode

theorem CodeUnit.ofDigest_take {t : MainType} (s : SubType) (v : Version) {bits : Nat} {d : List UInt8}
    (hiscc : t ≠ .iscc) (hid : t ≠ .id) (hbits : 32 ≤ bits ∧ bits ≤ 256 ∧ bits % 32 = 0)
    (hd : bits / 8 ≤ d.length) : ofDigest t s v bits (d.take (bits / 8)) = ofDigest t s v bits d := by
  obtain ⟨h, hh, -, -, -, hsize⟩ := Header.exists_ofBits s v hiscc hid hbits
  have hsize' : h.digestSize = bits / 8 := by rw [Header.digestSize, hsize]
  have hlen : (d.take (bits / 8)).length = bits / 8 := List.length_take_of_le hd
  simp only [ofDigest, hh, bind, Except.bind, hsize', hlen, List.take_take, Nat.min_self,
    Nat.lt_irrefl, not_lt.2 hd, if_false]

namespace Code

variable {t : MainType} {s : SubType} {bits : Nat} {d : List UInt8}

theorem generate_take (s : SubType) (hiscc : t ≠ .iscc) (hid : t ≠ .id) (hbits : bits ∈ supportedBits)
    (hd : d.length = 32) : generate t s bits (d.take (bits / 8)) = generate t s bits d := by
  have hrange := bits_of_supported bits hbits
  rw [generate, generate, encode_eq s .v0 bits _ hiscc hid, encode_eq s .v0 bits _ hiscc hid,
    CodeUnit.ofDigest_take s .v0 hiscc hid hrange (by omega)]

end Code

section Prefix

variable {κ ω : Type} {t : MainType} {s : SubType} {generate : Nat → Except Error κ}
  {iscc : κ → String} {other : κ → ω}

/-- For all lengths a generator fails alike; or it gives out the codes of one digest, and results
that are the same besides. -/
def OneDigest (t : MainType) (s : SubType) (generate : Nat → Except Error κ) (iscc : κ → String)
    (other : κ → ω) : Prop :=
  (∃ e, ∀ bits ∈ Code.supportedBits, generate bits = .error e) ∨
  ∃ digest rest, digest.length = 32 ∧ ∀ bits ∈ Code.supportedBits, ∃ c, generate bits = .ok c ∧
    Code.generate t s bits digest = .ok (iscc c) ∧ other c = rest

/-- For two lengths a generator fails alike; or the shorter code stands for the first bits of what
the longer one stands for, and the results are the same besides. -/
def ShorterIsPrefix (generate : Nat → Except Error κ) (iscc : κ → String) (other : κ → ω) : Prop :=
  ∀ short ∈ Code.supportedBits, ∀ long ∈ Code.supportedBits, short ≤ long →
    (∃ e, generate short = .error e ∧ generate long = .error e) ∨
    ∃ c d, generate short = .ok c ∧ generate long = .ok d ∧ other c = other d ∧
      ∃ u v, Code.decode (iscc c) = .ok u ∧ Code.decode (iscc d) = .ok v ∧
        u.maintype = v.maintype ∧ u.subtype = v.subtype ∧ u.bits = short ∧ v.bits = long ∧
        u.digest = v.digest.take (short / 8)

theorem OneDigest.of_codes (digest : List UInt8) (result : String → κ) (hiscc : t ≠ .iscc) (hid : t ≠ .id)
    (hsize : digest.length = 32) (hresult : ∀ code, iscc (result code) = code)
    (hother : ∀ code code', other (result code) = other (result code'))
    (h : ∀ bits ∈ Code.supportedBits, ∀ code, Code.generate t s bits digest = .ok code →
      generate bits = .ok (result code)) : OneDigest t s generate iscc other := by
  refine .inr ⟨digest, other (result ""), hsize, fun bits hbits => ?_⟩
  obtain ⟨code, hcode⟩ := Code.exists_generate s hiscc hid hbits hsize
  exact ⟨result code, h bits hbits code hcode, by rw [hresult, hcode], hother _ _⟩

theorem OneDigest.of_cuts (digest : List UInt8) (cut : Nat → List UInt8) (result : String → κ)
    (hiscc : t ≠ .iscc) (hid : t ≠ .id) (hsize : digest.length = 32)
    (hcut : ∀ bits ∈ Code.supportedBits, cut bits = digest.take (bits / 8))
    (hresult : ∀ code, iscc (result code) = code)
    (hother : ∀ code code', other (result code) = other (result code'))
    (h : ∀ bits ∈ Code.supportedBits, ∀ code, Code.generate t s bits (cut bits) = .ok code →
      generate bits = .ok (result code)) : OneDigest t s generate iscc other := by
  refine .of_codes digest result hiscc hid hsize hresult hother fun bits hbits code hcode => ?_
  rw [← Code.generate_take s hiscc hid hbits hsize, ← hcut bits hbits] at hcode
  exact h bits hbits code hcode

theorem OneDigest.shorterIsPrefix (h : OneDigest t s generate iscc other) (hiscc : t ≠ .iscc)
    (hid : t ≠ .id) : ShorterIsPrefix generate iscc other := by
  intro short hshort long hlong hle
  rcases h with ⟨e, he⟩ | ⟨digest, rest, -, hcodes⟩
  · exact .inl ⟨e, he short hshort, he long hlong⟩
  · obtain ⟨c, hc, hcode, hrest⟩ := hcodes short hshort
    obtain ⟨d, hd, hcode', hrest'⟩ := hcodes long hlong
    obtain ⟨u, hu, ht, hs, -, hbits, hdigest⟩ := Code.decode_of_generate hiscc hid hcode
    obtain ⟨v, hv, ht', hs', -, hbits', hdigest'⟩ := Code.decode_of_generate hiscc hid hcode'
    refine .inr ⟨c, d, hc, hd, hrest.trans hrest'.symm, u, v, hu, hv, ht.trans ht'.symm,
      hs.trans hs'.symm, hbits, hbits', ?_⟩
    rw [hdigest, hdigest', List.take_take, Nat.min_eq_left (Nat.div_le_div_right hle)]

end Prefix

theorem MetaCode.oneDigest (name : String) (description document : Option String) :
    OneDigest .metadata .plain (generate name description document) iscc
      fun c => (c.name, c.description, c.document, c.metahash) := by
  cases hempty : (normalName name).isEmpty with
  | true =>
      refine .inl ⟨.emptyName, fun bits hbits => ?_⟩
      simp only [generate, Code.checkBits_of_mem hbits, hempty]
      rfl
  | false =>
      let result (d : Option Document) (code : String) : MetaCode :=
        let description := normalDescription (description.getD "")
        { iscc := code
          name := normalName name
          description := if description.isEmpty then none else some description
          document := d.map Document.url
          metahash := Hash.Blake3.multihash (Hash.Blake3.hash (subject (normalName name) description d)) }
      cases document with
      | none =>
          obtain ⟨digest, hdigest, hsize⟩ := exists_digest (normalName name)
            (normalDescription (description.getD "")) none
          refine .of_codes digest (result none) (by decide) (by decide) hsize (fun _ => rfl)
            (fun _ _ => rfl) fun bits hbits code hcode => ?_
          simp only [generate, Code.checkBits_of_mem hbits, hempty, hdigest, hcode, bind, Except.bind,
            pure, Except.pure, Bool.false_eq_true, if_false]
          rfl
      | some text =>
          cases hread : Document.read? text with
          | error e =>
              refine .inl ⟨e, fun bits hbits => ?_⟩
              simp only [generate, Code.checkBits_of_mem hbits, hempty, hread]
              rfl
          | ok d =>
              obtain ⟨digest, hdigest, hsize⟩ := exists_digest (normalName name)
                (normalDescription (description.getD "")) d
              refine .of_codes digest (result d) (by decide) (by decide) hsize (fun _ => rfl)
                (fun _ _ => rfl) fun bits hbits code hcode => ?_
              simp only [generate, Code.checkBits_of_mem hbits, hempty, hread, hdigest, hcode, bind,
                Except.bind, pure, Except.pure, Bool.false_eq_true, if_false]
              rfl

theorem TextCode.oneDigest (text : String) :
    OneDigest .content .plain (generate text) iscc characters := by
  obtain ⟨windows, hwindows⟩ := Windows.exists_ofText (show 2 ≤ windowWidth by decide) (Text.collapse text)
  refine .of_codes (MinHash.digest (windows.map fun w => Hash.XxHash32.hash (Text.utf8 w)))
    (fun code => ⟨code, (Text.collapse text).length⟩) (by decide) (by decide) (MinHash.length_digest _)
    (fun _ => rfl) (fun _ _ => rfl) fun bits hbits code hcode => ?_
  simp only [generate, Code.checkBits_of_mem hbits, hwindows, hcode, bind, Except.bind, pure, Except.pure]

theorem ImageCode.oneDigest (pixels : List UInt8) :
    OneDigest .content .image (generate pixels) iscc fun _ => () := by
  by_cases hpixels : pixels.length = side * side
  · obtain ⟨rows, hrows, hsquare⟩ := exists_coefficients hpixels
    have hcut : ∀ bits ∈ Code.supportedBits, digest rows bits = (digest rows 256).take (bits / 8) := by
      intro bits hbits
      have hrange := Code.bits_of_supported bits hbits
      exact digest_take rows (by omega) hrange.2.1
    refine .of_cuts (digest rows 256) (digest rows) ImageCode.mk (by decide) (by decide)
      (length_digest hsquare) hcut (fun _ => rfl) (fun _ _ => rfl) fun bits hbits code hcode => ?_
    simp only [generate, Code.checkBits_of_mem hbits, hpixels, hrows, hcode, bind, Except.bind, pure,
      Except.pure, ne_eq, not_true_eq_false, if_false]
  · refine .inl ⟨.pixelCount pixels.length, fun bits hbits => ?_⟩
    simp only [generate, Code.checkBits_of_mem hbits, ne_eq, hpixels, not_false_eq_true, if_true]
    rfl

theorem AudioCode.oneDigest (features : List Int32) :
    OneDigest .content .audio (generate features) iscc fun _ => () := by
  obtain ⟨digest, hdigest, hsize⟩ := exists_digest features
  refine .of_codes digest AudioCode.mk (by decide) (by decide) hsize (fun _ => rfl) (fun _ _ => rfl)
    fun bits hbits code hcode => ?_
  simp only [generate, Code.checkBits_of_mem hbits, hdigest, hcode, bind, Except.bind, pure, Except.pure]

/-- Fewer bits are fewer comparisons, so the digests differ with the length, but not in what the
codes take from them. -/
theorem VideoCode.oneDigest (frames : List Frame) :
    OneDigest .content .video (generate frames) iscc fun _ => () := by
  cases frames with
  | nil =>
      refine .inl ⟨.noFrames, fun bits hbits => ?_⟩
      simp only [generate, Code.checkBits_of_mem hbits]
      rfl
  | cons f fs =>
      by_cases hwidth : f.length < WinnerTakesAll.width
      · refine .inl ⟨.frameTooShort f.length, fun bits hbits => ?_⟩
        simp only [generate, Code.checkBits_of_mem hbits, hwidth, if_true]
        rfl
      cases hsame : ((f :: fs).map List.length).findIdx? (· ≠ f.length) with
      | some i =>
          refine .inl ⟨.frameLength i (((f :: fs).map List.length).getD i 0) f.length, fun bits hbits => ?_⟩
          simp only [generate, Code.checkBits_of_mem hbits, hwidth, hsame, if_false]
          rfl
      | none =>
          let sums := columnSums f.length (distinct (f :: fs))
          have hcut : ∀ bits ∈ Code.supportedBits,
              WinnerTakesAll.hash sums bits = (WinnerTakesAll.hash sums 256).take (bits / 8) := by
            intro bits hbits
            have hrange := Code.bits_of_supported bits hbits
            exact WinnerTakesAll.hash_take sums (by omega) hrange.2.1
          refine .of_cuts (WinnerTakesAll.hash sums 256) (WinnerTakesAll.hash sums) VideoCode.mk
            (by decide) (by decide) (WinnerTakesAll.length_hash sums) hcut (fun _ => rfl)
            (fun _ _ => rfl) fun bits hbits code hcode => ?_
          simp only [generate, Code.checkBits_of_mem hbits, hwidth, hsame, if_false]
          exact bind_eq_ok.2 ⟨(), rfl, bind_eq_ok.2 ⟨code, hcode, rfl⟩⟩

namespace MixedCode

theorem entry_eq {size : Nat} (h : 0 < size) (u : CodeUnit) : entry size u =
    (u.toBytes.take 1 ++ u.digest).take size ++
      List.replicate (size - (u.toBytes.take 1 ++ u.digest).length) 0 := by
  have hone : (u.toBytes.take 1).length = 1 := by
    have := u.length_toBytes
    have := u.header.digestSize_pos
    rw [List.length_take]
    omega
  have hbytes : u.toBytes.take 1 ++ u.digest.take (size - 1) = (u.toBytes.take 1 ++ u.digest).take size := by
    rw [List.take_append, hone, List.take_take, Nat.min_eq_right h]
  rw [entry, hbytes, List.length_take]
  congr 2
  omega

theorem length_entry {size : Nat} (h : 0 < size) (u : CodeUnit) : (entry size u).length = size := by
  rw [entry_eq h, List.length_append, List.length_take, List.length_replicate]
  omega

theorem length_of_mem_entries {size : Nat} (h : 0 < size) (units : List CodeUnit) :
    ∀ d ∈ units.map (entry size), d.length = size := by
  intro d hd
  obtain ⟨u, -, rfl⟩ := List.mem_map.1 hd
  exact length_entry h u

theorem entry_take {short long : Nat} (h : 0 < short) (hle : short ≤ long) (u : CodeUnit) :
    (entry long u).take short = entry short u := by
  rw [entry_eq h, entry_eq (h.trans_le hle), List.take_append, List.take_take, List.take_replicate,
    Nat.min_eq_left hle, List.length_take]
  congr 2
  omega

theorem oneDigest (codes : List String) : OneDigest .content .mixed (generate codes) iscc parts := by
  by_cases hfew : codes.length < 2
  · refine .inl ⟨.fewContentCodes codes.length, fun bits hbits => ?_⟩
    simp only [generate, Code.checkBits_of_mem hbits, hfew, if_true]
    rfl
  cases hunits : codes.mapM readContent with
  | error e =>
      refine .inl ⟨e, fun bits hbits => ?_⟩
      simp only [generate, Code.checkBits_of_mem hbits, hfew, hunits, if_false]
      rfl
  | ok units =>
      have hne {size : Nat} : units.map (entry size) ≠ [] := by
        have hlen := (mapM_eq_ok.1 hunits).length_eq
        intro hnil
        rw [List.map_eq_nil_iff.1 hnil, List.length_nil] at hlen
        omega
      have hcut : ∀ bits ∈ Code.supportedBits, SimHash.majority (bits / 8) (units.map (entry (bits / 8))) =
          (SimHash.majority 32 (units.map (entry 32))).take (bits / 8) := by
        intro bits hbits
        have hrange := Code.bits_of_supported bits hbits
        rw [← SimHash.majority_take (by omega), List.map_map]
        congr 1
        exact List.map_congr_left fun u _ => (entry_take (by omega) (by omega) u).symm
      refine .of_cuts (SimHash.majority 32 (units.map (entry 32)))
        (fun bits => SimHash.majority (bits / 8) (units.map (entry (bits / 8)))) (fun code => ⟨code, codes⟩)
        (by decide) (by decide) (SimHash.length_majority (length_of_mem_entries (by decide) units)) hcut (fun _ => rfl)
        (fun _ _ => rfl) fun bits hbits code hcode => ?_
      have hrange := Code.bits_of_supported bits hbits
      have hhash := SimHash.simhash_of_sizes hne (length_of_mem_entries (show 0 < bits / 8 by omega) units)
      simp only [generate, Code.checkBits_of_mem hbits, hfew, hunits, hhash, hcode, bind, Except.bind,
        pure, Except.pure, if_false]

end MixedCode

theorem DataCode.oneDigest (bytes : List UInt8) :
    OneDigest .data .plain (generate bytes) iscc fun _ => () := by
  refine .of_codes (MinHash.digest ((chunks bytes).map Hash.XxHash32.hash)) DataCode.mk (by decide)
    (by decide) (MinHash.length_digest _) (fun _ => rfl) (fun _ _ => rfl) fun bits hbits code hcode => ?_
  simp only [generate, ofFeatures, Code.checkBits_of_mem hbits, hcode, bind, Except.bind, pure,
    Except.pure]

theorem InstanceCode.oneDigest (bytes : List UInt8) :
    OneDigest .inst .plain (generate bytes) iscc fun c => (c.datahash, c.filesize) := by
  refine .of_codes (Hash.Blake3.hash bytes)
    (fun code => ⟨code, Hash.Blake3.multihash (Hash.Blake3.hash bytes), bytes.length⟩) (by decide)
    (by decide) (Hash.Blake3.length_finalize _) (fun _ => rfl) (fun _ _ => rfl) fun bits hbits code hcode => ?_
  simp only [generate, ofHash, hcode, bind, Except.bind, pure, Except.pure]

/-- For every generator and every input, a shorter code is a prefix of a longer one. -/
theorem shorter_isPrefix :
    (∀ name description document, ShorterIsPrefix (MetaCode.generate name description document)
      MetaCode.iscc fun c => (c.name, c.description, c.document, c.metahash)) ∧
    (∀ text, ShorterIsPrefix (TextCode.generate text) TextCode.iscc TextCode.characters) ∧
    (∀ pixels, ShorterIsPrefix (ImageCode.generate pixels) ImageCode.iscc fun _ => ()) ∧
    (∀ features, ShorterIsPrefix (AudioCode.generate features) AudioCode.iscc fun _ => ()) ∧
    (∀ frames, ShorterIsPrefix (VideoCode.generate frames) VideoCode.iscc fun _ => ()) ∧
    (∀ codes, ShorterIsPrefix (MixedCode.generate codes) MixedCode.iscc MixedCode.parts) ∧
    (∀ bytes, ShorterIsPrefix (DataCode.generate bytes) DataCode.iscc fun _ => ()) ∧
    ∀ bytes, ShorterIsPrefix (InstanceCode.generate bytes) InstanceCode.iscc
      fun c => (c.datahash, c.filesize) :=
  ⟨fun name description document =>
      (MetaCode.oneDigest name description document).shorterIsPrefix (by decide) (by decide),
    fun text => (TextCode.oneDigest text).shorterIsPrefix (by decide) (by decide),
    fun pixels => (ImageCode.oneDigest pixels).shorterIsPrefix (by decide) (by decide),
    fun features => (AudioCode.oneDigest features).shorterIsPrefix (by decide) (by decide),
    fun frames => (VideoCode.oneDigest frames).shorterIsPrefix (by decide) (by decide),
    fun codes => (MixedCode.oneDigest codes).shorterIsPrefix (by decide) (by decide),
    fun bytes => (DataCode.oneDigest bytes).shorterIsPrefix (by decide) (by decide),
    fun bytes => (InstanceCode.oneDigest bytes).shorterIsPrefix (by decide) (by decide)⟩

end ContentCode
