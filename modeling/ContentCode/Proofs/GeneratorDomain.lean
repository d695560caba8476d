import ContentCode.Proofs.CodePrefix
import ContentCode.Proofs.InputErrors

/-!
What the generators take and what they give out. The length has to be a supported one and the input
what the generator asks for; then the digest is always long enough, and no step on the way fails.
-/

namespace ContentCode

namespace Code

variable {t : MainType} {s : SubType} {bits : Nat} {d : List UInt8} {code : String}

/-- A code, with the scheme in front, of a unit of that type, kind and length. -/
def IsFor (t : MainType) (s : SubType) (bits : Nat) (code : String) : Prop :=
  ∃ u, code = withScheme u.toCode ∧ decode code = .ok u ∧ u.maintype = t ∧ u.subtype = s ∧
    u.version = .v0 ∧ u.bits = bits

theorem checkBits_of_not_mem (h : bits ∉ supportedBits) :
    checkBits bits = .error (.unsupportedBits bits) :=
  if_neg h

theorem isFor_of_generate (hiscc : t ≠ .iscc) (hid : t ≠ .id) (h : generate t s bits d = .ok code) :
    IsFor t s bits code := by
  simp only [generate, bind_eq_ok, pure_eq_ok] at h
  obtain ⟨_, -, plain, hplain, rfl⟩ := h
  obtain ⟨u, hu, rfl⟩ := (encode_eq_ok hiscc hid).1 hplain
  obtain ⟨v, hread, hscheme, ht, hs, hv, hbits, -⟩ := decode_of_encode hiscc hid hplain
  rw [decode_toCode (CodeUnit.obtained_iff_isCanonical.1 (.ofDigest hu)), Except.ok.injEq] at hread
  subst hread
  exact ⟨u, rfl, hscheme, ht, hs, hv, hbits⟩

theorem exists_generate_of_le (s : SubType) (hiscc : t ≠ .iscc) (hid : t ≠ .id)
    (hbits : bits ∈ supportedBits) (hd : bits / 8 ≤ d.length) :
    ∃ code, generate t s bits d = .ok code := by
  obtain ⟨u, hu⟩ := (CodeUnit.exists_ofDigest_iff (s := s) (v := .v0) hiscc hid).2
    ⟨bits_of_supported bits hbits, hd⟩
  refine ⟨withScheme u.toCode, ?_⟩
  simp only [generate, checkBits_of_mem hbits, encode_eq s .v0 bits d hiscc hid, hu, bind, Except.bind,
    pure, Except.pure, Except.map]

end Code

section Generates

variable {κ : Type} {t : MainType} {s : SubType} {generate : Nat → Except Error κ} {iscc : κ → String}
  {accepts : Prop}

/-- A generator that gives out codes of units of type `t` and kind `s`, for just the supported lengths
and just if its input is one to accept; else it fails because of what it was given. -/
structure Generates (t : MainType) (s : SubType) (generate : Nat → Except Error κ) (iscc : κ → String)
    (accepts : Prop) : Prop where
  exists_iff (bits : Nat) : (∃ c, generate bits = .ok c) ↔ bits ∈ Code.supportedBits ∧ accepts
  kind (bits : Nat) (e : Error) : generate bits = .error e → e.kind = .invalidArgument
  isFor (bits : Nat) (c : κ) : generate bits = .ok c → Code.IsFor t s bits (iscc c)

theorem Generates.of_forall
    (hworks : ∀ bits ∈ Code.supportedBits, accepts →
      ∃ c, generate bits = .ok c ∧ Code.IsFor t s bits (iscc c))
    (hfails : ∀ bits, ¬ (bits ∈ Code.supportedBits ∧ accepts) →
      ∃ e, generate bits = .error e ∧ e.kind = .invalidArgument) :
    Generates t s generate iscc accepts := by
  refine ⟨fun bits => ?_, fun bits e he => ?_, fun bits c hc => ?_⟩ <;>
    by_cases haccepts : bits ∈ Code.supportedBits ∧ accepts
  · obtain ⟨c, hgenerate, -⟩ := hworks bits haccepts.1 haccepts.2
    exact iff_of_true ⟨c, hgenerate⟩ haccepts
  · obtain ⟨e, hgenerate, -⟩ := hfails bits haccepts
    simp [hgenerate, haccepts]
  · obtain ⟨c, hgenerate, -⟩ := hworks bits haccepts.1 haccepts.2
    rw [hgenerate] at he
    cases he
  · obtain ⟨e', hgenerate, hkind⟩ := hfails bits haccepts
    rw [hgenerate, Except.error.injEq] at he
    rwa [← he]
  · obtain ⟨c', hgenerate, hfor⟩ := hworks bits haccepts.1 haccepts.2
    rw [hgenerate, Except.ok.injEq] at hc
    rwa [← hc]
  · obtain ⟨e, hgenerate, -⟩ := hfails bits haccepts
    rw [hgenerate] at hc
    cases hc

variable (hunsupported : ∀ bits ∉ Code.supportedBits, generate bits = .error (.unsupportedBits bits))
include hunsupported

theorem Generates.of_refused {e : Error} (hrefused : ¬ accepts) (hkind : e.kind = .invalidArgument)
    (h : ∀ bits ∈ Code.supportedBits, generate bits = .error e) :
    Generates t s generate iscc accepts := by
  apply of_forall
  · exact fun bits _ haccepts => absurd haccepts hrefused
  · intro bits _
    by_cases hbits : bits ∈ Code.supportedBits
    · exact ⟨e, h bits hbits, hkind⟩
    · exact ⟨_, hunsupported bits hbits, rfl⟩

theorem Generates.of_accepted (hiscc : t ≠ .iscc) (hid : t ≠ .id) (haccepts : accepts)
    (digest : Nat → List UInt8) (result : String → κ) (hresult : ∀ code, iscc (result code) = code)
    (hsize : ∀ bits ∈ Code.supportedBits, bits / 8 ≤ (digest bits).length)
    (h : ∀ bits ∈ Code.supportedBits, generate bits = (Code.generate t s bits (digest bits)).map result) :
    Generates t s generate iscc accepts := by
  apply of_forall
  · intro bits hbits _
    obtain ⟨code, hcode⟩ := Code.exists_generate_of_le s hiscc hid hbits (hsize bits hbits)
    refine ⟨result code, by rw [h bits hbits, hcode, Except.map], ?_⟩
    rw [hresult]
    exact Code.isFor_of_generate hiscc hid hcode
  · intro bits hrefused
    exact ⟨_, hunsupported bits fun hbits => hrefused ⟨hbits, haccepts⟩, rfl⟩

theorem Generates.of_digest (hiscc : t ≠ .iscc) (hid : t ≠ .id) (haccepts : accepts)
    {digest : List UInt8} (result : String → κ) (hresult : ∀ code, iscc (result code) = code)
    (hsize : digest.length = 32)
    (h : ∀ bits ∈ Code.supportedBits, generate bits = (Code.generate t s bits digest).map result) :
    Generates t s generate iscc accepts := by
  apply of_accepted hunsupported hiscc hid haccepts (fun _ => digest) result hresult
  · intro bits hbits
    have hrange := Code.bits_of_supported bits hbits
    rw [hsize]
    omega
  · exact h

end Generates

theorem TextCode.generates (text : String) : Generates .content .plain (generate text) iscc True := by
  obtain ⟨windows, hwindows⟩ := Windows.exists_ofText (show 2 ≤ windowWidth by decide) (Text.collapse text)
  apply Generates.of_digest (fun bits hbits => ?_) (by decide) (by decide) trivial
    (fun code => ⟨code, (Text.collapse text).length⟩) (fun _ => rfl)
    (MinHash.length_digest (windows.map fun w => Hash.XxHash32.hash (Text.utf8 w)))
  · intro bits hbits
    simp only [generate, Code.checkBits_of_mem hbits, hwindows, bind, Except.bind]
    rfl
  · simp only [generate, Code.checkBits_of_not_mem hbits]
    rfl

theorem DataCode.generates (bytes : List UInt8) : Generates .data .plain (generate bytes) iscc True := by
  apply Generates.of_digest (fun bits hbits => ?_) (by decide) (by decide) trivial DataCode.mk
    (fun _ => rfl) (MinHash.length_digest ((chunks bytes).map Hash.XxHash32.hash))
  · intro bits hbits
    rw [generate, Code.checkBits_of_mem hbits]
    rfl
  · rw [generate, Code.checkBits_of_not_mem hbits]
    rfl

theorem InstanceCode.generates (bytes : List UInt8) :
    Generates .inst .plain (generate bytes) iscc True := by
  apply Generates.of_digest (fun bits hbits => ?_) (by decide) (by decide) trivial
    (fun code => ⟨code, Hash.Blake3.multihash (Hash.Blake3.hash bytes), bytes.length⟩) (fun _ => rfl)
    (Hash.Blake3.length_finalize _)
  · intro bits _
    rfl
  · rw [generate, ofHash, Code.generate, Code.checkBits_of_not_mem hbits]
    rfl

theorem AudioCode.generates (features : List Int32) :
    Generates .content .audio (generate features) iscc True := by
  obtain ⟨digest, hdigest, hsize⟩ := exists_digest features
  apply Generates.of_digest (fun bits hbits => ?_) (by decide) (by decide) trivial AudioCode.mk
    (fun _ => rfl) hsize
  · intro bits hbits
    simp only [generate, Code.checkBits_of_mem hbits, hdigest, bind, Except.bind]
    rfl
  · simp only [generate, Code.checkBits_of_not_mem hbits]
    rfl

theorem ImageCode.generates (pixels : List UInt8) :
    Generates .content .image (generate pixels) iscc (pixels.length = 1024) := by
  have hunsupported : ∀ bits ∉ Code.supportedBits,
      generate pixels bits = .error (.unsupportedBits bits) := by
    intro bits hbits
    simp only [generate, Code.checkBits_of_not_mem hbits]
    rfl
  by_cases hpixels : pixels.length = side * side
  · obtain ⟨rows, hrows, hsquare⟩ := exists_coefficients hpixels
    apply Generates.of_accepted hunsupported (by decide) (by decide) hpixels (digest rows)
      ImageCode.mk (fun _ => rfl)
    · intro bits hbits
      have hrange := Code.bits_of_supported bits hbits
      rw [digest_take rows (by omega) hrange.2.1, List.length_take, length_digest hsquare]
      omega
    · intro bits hbits
      simp only [generate, Code.checkBits_of_mem hbits, hpixels, hrows, bind, Except.bind, ne_eq,
        not_true_eq_false, if_false]
      rfl
  · apply Generates.of_refused hunsupported (e := .pixelCount pixels.length) hpixels rfl
    intro bits hbits
    simp only [generate, Code.checkBits_of_mem hbits, ne_eq, hpixels, not_false_eq_true, if_true]
    rfl

namespace VideoCode

def Accepts (frames : List Frame) : Prop :=
  frames ≠ [] ∧ ∃ width, 380 ≤ width ∧ ∀ f ∈ frames, f.length = width

theorem accepts_cons {f : Frame} {fs : List Frame} :
    Accepts (f :: fs) ↔ 380 ≤ f.length ∧ ∀ g ∈ f :: fs, g.length = f.length := by
  constructor
  · rintro ⟨-, width, hwidth, hsame⟩
    obtain rfl := hsame f List.mem_cons_self
    exact ⟨hwidth, hsame⟩
  · rintro ⟨hwidth, hsame⟩
    exact ⟨List.cons_ne_nil f fs, f.length, hwidth, hsame⟩

theorem findIdx?_length_eq_none {frames : List Frame} {width : Nat} :
    (frames.map List.length).findIdx? (· ≠ width) = none ↔ ∀ f ∈ frames, f.length = width := by
  simp

theorem length_columnSums {width : Nat} {frames : List Frame} (h : ∀ f ∈ frames, f.length = width) :
    (columnSums width frames).length = width := by
  have hfold : ∀ sums : List Int, sums.length = width → (frames.foldl (fun sums f =>
      List.zipWith (fun s v => s + v.toInt) sums f) sums).length = width := by
    induction frames with
    | nil => exact fun _ hsums => hsums
    | cons f frames ih =>
        intro sums hsums
        rw [List.forall_mem_cons] at h
        apply ih h.2
        rw [List.length_zipWith, hsums, h.1, Nat.min_self]
  exact hfold _ List.length_replicate

theorem place_lt {frames : List Frame} {f : Frame} (h : Accepts frames) (hf : f ∈ frames) :
    ∀ p ∈ WinnerTakesAll.pairs, p.1 < (columnSums f.length (distinct frames)).length ∧
      p.2 < (columnSums f.length (distinct frames)).length := by
  obtain ⟨-, width, hwidth, hsame⟩ := h
  have hdistinct : ∀ g ∈ distinct frames, g.length = width := by
    intro g hg
    exact hsame g (List.mem_eraseDups.1 hg)
  rw [hsame f hf, length_columnSums hdistinct]
  intro p hp
  obtain ⟨hfirst, hsecond⟩ := WinnerTakesAll.pairs_lt p hp
  exact ⟨hfirst.trans_le hwidth, hsecond.trans_le hwidth⟩

theorem generates (frames : List Frame) :
    Generates .content .video (generate frames) iscc (Accepts frames) := by
  have hunsupported : ∀ bits ∉ Code.supportedBits,
      generate frames bits = .error (.unsupportedBits bits) := by
    intro bits hbits
    simp only [generate, Code.checkBits_of_not_mem hbits]
    rfl
  cases frames with
  | nil =>
      apply Generates.of_refused hunsupported (e := .noFrames) (fun haccepts => haccepts.1 rfl) rfl
      intro bits hbits
      simp only [generate, Code.checkBits_of_mem hbits]
      rfl
  | cons f fs =>
      by_cases hwidth : f.length < WinnerTakesAll.width
      · apply Generates.of_refused hunsupported (e := .frameTooShort f.length) _ rfl
        · intro bits hbits
          simp only [generate, Code.checkBits_of_mem hbits, hwidth, if_true]
          rfl
        · intro haccepts
          exact absurd (accepts_cons.1 haccepts).1 (not_le.2 hwidth)
      cases hsame : ((f :: fs).map List.length).findIdx? (· ≠ f.length) with
      | some i =>
          apply Generates.of_refused hunsupported
            (e := .frameLength i (((f :: fs).map List.length).getD i 0) f.length) _ rfl
          · intro bits hbits
            simp only [generate, Code.checkBits_of_mem hbits, hwidth, hsame, if_false]
            rfl
          · intro haccepts
            rw [findIdx?_length_eq_none.2 (accepts_cons.1 haccepts).2] at hsame
            cases hsame
      | none =>
          let sums := columnSums f.length (distinct (f :: fs))
          have haccepts := accepts_cons.2 ⟨not_lt.1 hwidth, findIdx?_length_eq_none.1 hsame⟩
          apply Generates.of_accepted hunsupported (by decide) (by decide) haccepts
            (WinnerTakesAll.hash sums) VideoCode.mk (fun _ => rfl)
          · intro bits hbits
            have hrange := Code.bits_of_supported bits hbits
            rw [WinnerTakesAll.hash_take sums (by omega) hrange.2.1, List.length_take,
              WinnerTakesAll.length_hash]
            omega
          · intro bits hbits
            simp only [generate, Code.checkBits_of_mem hbits, hwidth, hsame, if_false]
            rfl

end VideoCode

namespace MixedCode

theorem readContent_eq_ok {code : String} {u : CodeUnit} :
    readContent code = .ok u ↔ Code.decode code = .ok u ∧ u.maintype = .content := by
  rw [readContent, bind_eq_ok]
  constructor
  · rintro ⟨v, hv, h⟩
    by_cases ht : v.maintype = .content
    · rw [if_neg (not_not.2 ht), pure_eq_ok] at h
      rw [← h]
      exact ⟨hv, ht⟩
    · rw [if_pos ht] at h
      cases h
  · rintro ⟨hu, ht⟩
    exact ⟨u, hu, if_neg (not_not.2 ht)⟩

theorem simhash_entries {size : Nat} {units : List CodeUnit} (h : 0 < size) (hne : units ≠ []) :
    SimHash.simhash (units.map (entry size)) = .ok (SimHash.majority size (units.map (entry size))) ∧
      (SimHash.majority size (units.map (entry size))).length = size := by
  have hsizes := length_of_mem_entries h units
  exact ⟨SimHash.simhash_of_sizes (by simpa using hne) hsizes, SimHash.length_majority hsizes⟩

theorem failsOnInput_readContent (code : String) : FailsOnInput (readContent code) :=
  (Code.failsOnInput_decode code).bind fun u => .guarded rfl (.ok u)

theorem generates (codes : List String) : Generates .content .mixed (generate codes) iscc
    (2 ≤ codes.length ∧ ∀ code ∈ codes, ∃ u, Code.decode code = .ok u ∧ u.maintype = .content) := by
  have hunsupported : ∀ bits ∉ Code.supportedBits,
      generate codes bits = .error (.unsupportedBits bits) := by
    intro bits hbits
    simp only [generate, Code.checkBits_of_not_mem hbits]
    rfl
  by_cases hfew : codes.length < 2
  · apply Generates.of_refused hunsupported (e := .fewContentCodes codes.length) _ rfl
    · intro bits hbits
      simp only [generate, Code.checkBits_of_mem hbits, hfew, if_true]
      rfl
    · exact fun haccepts => absurd haccepts.1 (not_le.2 hfew)
  have hread : (∀ code ∈ codes, ∃ u, Code.decode code = .ok u ∧ u.maintype = .content) ↔
      ∃ units, codes.mapM readContent = .ok units := by
    simp only [mapM_eq_ok, exists_forall₂, readContent_eq_ok]
  cases hunits : codes.mapM readContent with
  | error e =>
      apply Generates.of_refused hunsupported _
        (FailsWith.mapM (fun code _ => failsOnInput_readContent code) e hunits)
      · intro bits hbits
        simp only [generate, Code.checkBits_of_mem hbits, hfew, hunits, if_false]
        rfl
      · rw [hread, hunits]
        simp
  | ok units =>
      have hne : units ≠ [] := by
        have hlen := (mapM_eq_ok.1 hunits).length_eq
        rintro rfl
        rw [List.length_nil] at hlen
        omega
      have hsize {bits : Nat} (hbits : bits ∈ Code.supportedBits) : 0 < bits / 8 := by
        have := Code.bits_of_supported bits hbits
        omega
      have hhash {bits : Nat} (hbits : bits ∈ Code.supportedBits) := simhash_entries (hsize hbits) hne
      apply Generates.of_accepted hunsupported (by decide) (by decide)
        ⟨not_lt.1 hfew, hread.2 ⟨units, hunits⟩⟩
        (fun bits => SimHash.majority (bits / 8) (units.map (entry (bits / 8))))
        (fun code => ⟨code, codes⟩) (fun _ => rfl)
      · intro bits hbits
        rw [(hhash hbits).2]
      · intro bits hbits
        simp only [generate, Code.checkBits_of_mem hbits, hfew, hunits, (hhash hbits).1, bind, Except.bind,
          if_false]
        rfl

end MixedCode

/-- Each generator works for the supported lengths and its accepted inputs, and only for them. Where
frames are accepted, every comparison finds both its sums. -/
theorem generators_domain :
    (∀ text, Generates .content .plain (TextCode.generate text) TextCode.iscc True) ∧
    (∀ bytes, Generates .data .plain (DataCode.generate bytes) DataCode.iscc True) ∧
    (∀ bytes, Generates .inst .plain (InstanceCode.generate bytes) InstanceCode.iscc True) ∧
    (∀ features, Generates .content .audio (AudioCode.generate features) AudioCode.iscc True) ∧
    (∀ pixels, Generates .content .image (ImageCode.generate pixels) ImageCode.iscc
      (pixels.length = 1024)) ∧
    (∀ frames, Generates .content .video (VideoCode.generate frames) VideoCode.iscc
      (VideoCode.Accepts frames)) ∧
    (∀ frames, VideoCode.Accepts frames → ∀ f ∈ frames, ∀ p ∈ WinnerTakesAll.pairs,
      p.1 < (VideoCode.columnSums f.length (VideoCode.distinct frames)).length ∧
      p.2 < (VideoCode.columnSums f.length (VideoCode.distinct frames)).length) ∧
    ∀ codes, Generates .content .mixed (MixedCode.generate codes) MixedCode.iscc
      (2 ≤ codes.length ∧ ∀ code ∈ codes, ∃ u, Code.decode code = .ok u ∧ u.maintype = .content) :=
  ⟨TextCode.generates, DataCode.generates, InstanceCode.generates, AudioCode.generates,
    ImageCode.generates, VideoCode.generates, fun _ h _ hf => VideoCode.place_lt h hf,
    MixedCode.generates⟩

end ContentCode
