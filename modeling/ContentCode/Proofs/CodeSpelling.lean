import ContentCode.Proofs.CompositeParts

/-!
Spellings of a code. Letters may change their case, hyphens may stand anywhere, the scheme may stand in
front and white space around: a text is read as the same units as the code that it spells, or refused
with the same error.
-/

namespace ContentCode

namespace Unicode

variable {before after cs : List Char}

theorem trim_append_of_white (hbefore : ∀ c ∈ before, isWhiteSpace c = true)
    (hafter : ∀ c ∈ after, isWhiteSpace c = true) : trim (before ++ cs ++ after) = trim cs := by
  have hnil : after.dropWhile isWhiteSpace = [] := List.dropWhile_eq_nil_iff.2 hafter
  have hreverse : ∀ c ∈ after.reverse, isWhiteSpace c = true := fun c hc => hafter c (List.mem_reverse.1 hc)
  rw [List.append_assoc, trim, List.dropWhile_append_of_pos hbefore, trim, List.dropWhile_append, hnil]
  split
  next hempty => rw [List.isEmpty_iff.1 hempty]
  next => rw [List.reverse_append, List.dropWhile_append_of_pos hreverse]

theorem isWhiteSpace_toUpper (c : Char) : isWhiteSpace c.toUpper = isWhiteSpace c := by
  have hascii : ∀ v < 128, isWhiteSpace (Char.ofNat v).toUpper = isWhiteSpace (Char.ofNat v) := by
    decide +kernel
  by_cases hc : c.toNat < 128
  · have h := hascii c.toNat hc
    rwa [Char.ofNat_toNat] at h
  · rw [toUpper_eq_self (Nat.not_lt.1 hc)]

end Unicode

namespace Base32

theorem decode_congr {s t : String} (h : s.toList.map Char.toUpper = t.toList.map Char.toUpper) :
    decode s = decode t := by
  have hsize (text : String) :
      text.utf8ByteSize = ((text.toList.map Char.toUpper).map Char.utf8Size).sum := by
    conv_lhs => rw [← String.ofList_toList (s := text)]
    rw [utf8ByteSize_ofList, List.map_map]
    exact congrArg List.sum (List.map_congr_left fun c _ => (utf8Size_toUpper c).symm)
  simp only [decode, hsize, h]

end Base32

namespace Code

variable {code text : String} {before start body after cs ds : List Char} {c d : Char}

def SameLetter (c d : Char) : Prop := d = c ∨ d = c.toLower ∨ d = c.toUpper

instance (c d : Char) : Decidable (SameLetter c d) := inferInstanceAs (Decidable (_ ∨ _ ∨ _))

/-- But for hyphens anywhere, `ds` is `cs` with any letters in the other case. -/
def Hyphenates (cs ds : List Char) : Prop := List.Forall₂ SameLetter cs (ds.filter (· ≠ '-'))

instance (cs ds : List Char) : Decidable (Hyphenates cs ds) := inferInstanceAs (Decidable (List.Forall₂ _ _ _))

/-- The text consists of white space, perhaps the scheme, the code with hyphens, and white space again. -/
def Spells (text code : String) : Prop :=
  ∃ before start body after, text.toList = before ++ (start ++ body) ++ after ∧
    (∀ c ∈ before, Unicode.isWhiteSpace c = true) ∧ (∀ c ∈ after, Unicode.isWhiteSpace c = true) ∧
    (start = [] ∨ start.map Char.toUpper = scheme.toList) ∧ Hyphenates code.toList body

def IsAlphanumeric (code : String) : Prop := ∀ c ∈ code.toList, c.isAlphanum = true

instance (code : String) : Decidable (IsAlphanumeric code) :=
  decidable_of_iff (code.toList.all Char.isAlphanum = true) List.all_eq_true

theorem alphanumerics : ∀ v < 128, (Char.ofNat v).isAlphanum = true →
    [Char.ofNat v, (Char.ofNat v).toLower, (Char.ofNat v).toUpper].all fun d =>
      !Unicode.isWhiteSpace d && d.toUpper ≠ ':' && d.toUpper = (Char.ofNat v).toUpper := by
  decide +kernel

theorem toNat_lt_of_isAlphanum (h : c.isAlphanum = true) : c.toNat < 128 := by
  delta Char.isAlphanum Char.isAlpha Char.isUpper Char.isLower Char.isDigit at h
  simp only [Bool.or_eq_true, Bool.and_eq_true, decide_eq_true_eq, UInt32.le_iff_toNat_le, ge_iff_le] at h
  change c.val.toNat < 128
  have hends : 'Z'.val.toNat < 128 ∧ 'z'.val.toNat < 128 ∧ '9'.val.toNat < 128 := by decide
  omega

theorem SameLetter.of_isAlphanum (h : SameLetter c d) (hc : c.isAlphanum = true) :
    (Unicode.isWhiteSpace d = false ∧ d.toUpper ≠ ':') ∧ d.toUpper = c.toUpper := by
  have hletters := alphanumerics c.toNat (toNat_lt_of_isAlphanum hc)
  rw [Char.ofNat_toNat] at hletters
  have hd : d ∈ [c, c.toLower, c.toUpper] := by rcases h with rfl | rfl | rfl <;> simp
  simpa using List.all_eq_true.1 (hletters hc) d hd

theorem Hyphenates.refl (h : IsAlphanumeric code) : Hyphenates code.toList code.toList := by
  have hnone : code.toList.filter (· ≠ '-') = code.toList := by
    rw [List.filter_eq_self]
    intro c hc
    have hhyphen : c ≠ '-' := by
      rintro rfl
      exact absurd (h '-' hc) (by decide)
    simpa using hhyphen
  rw [Hyphenates, hnone, List.forall₂_same]
  exact fun c _ => .inl rfl

theorem Hyphenates.map_toUpper (h : Hyphenates cs ds) (hcs : ∀ c ∈ cs, c.isAlphanum = true) :
    cs.map Char.toUpper = (ds.filter (· ≠ '-')).map Char.toUpper := by
  rw [map_eq_map]
  refine ((List.forall₂_and_left _ _).2 ⟨hcs, h⟩).imp ?_
  rintro c d ⟨hc, hcd⟩
  exact (hcd.of_isAlphanum hc).2.symm

theorem Hyphenates.plain (h : Hyphenates cs ds) (hcs : ∀ c ∈ cs, c.isAlphanum = true) :
    ∀ d ∈ ds, Unicode.isWhiteSpace d = false ∧ d.toUpper ≠ ':' := by
  intro d hd
  by_cases hhyphen : d = '-'
  · subst hhyphen
    decide +kernel
  · have hmem : d ∈ ds.filter (· ≠ '-') := List.mem_filter.2 ⟨hd, by simpa using hhyphen⟩
    obtain ⟨i, hi, rfl⟩ := List.getElem_of_mem hmem
    have hi' : i < cs.length := by rwa [h.length_eq]
    exact (SameLetter.of_isAlphanum (h.get hi' hi) (hcs _ (List.getElem_mem hi'))).1

theorem clean_spelling (h : Spells text code) (hcode : IsAlphanumeric code) :
    (clean text).toList.map Char.toUpper = code.toList.map Char.toUpper := by
  obtain ⟨before, start, body, after, htext, hbefore, hafter, hstart, hbody⟩ := h
  have hplain := hbody.plain hcode
  have hlength : scheme.toList.length = scheme.length := rfl
  have hwhite : ∀ c ∈ start, Unicode.isWhiteSpace c = false := by
    have hscheme : (scheme.toList.all fun c => !Unicode.isWhiteSpace c) = true := by decide +kernel
    intro c hc
    rcases hstart with rfl | hstart
    · cases hc
    · rw [← Unicode.isWhiteSpace_toUpper]
      simpa using List.all_eq_true.1 hscheme _ (hstart ▸ List.mem_map_of_mem hc)
  have htrim : Unicode.trim (start ++ body) = start ++ body :=
    Unicode.trim_eq_self (List.forall_mem_append.2 ⟨hwhite, fun d hd => (hplain d hd).1⟩)
  have hclean : clean text = .ofList (body.filter (· ≠ '-')) := by
    simp only [clean, htext, Unicode.trim_append_of_white hbefore hafter, htrim]
    rcases hstart with rfl | hstart
    · -- no text without a colon begins with the scheme
      have hnone : (([] ++ body).take scheme.length).map Char.toUpper ≠ scheme.toList := by
        intro hbegin
        obtain ⟨d, hd, hcolon⟩ := List.mem_map.1 (hbegin ▸ (by decide : ':' ∈ scheme.toList))
        exact (hplain d (List.mem_of_mem_take hd)).2 hcolon
      rw [if_neg hnone, List.nil_append]
    · have hstop : start.length = scheme.length := by rw [← hlength, ← hstart, List.length_map]
      rw [if_pos (by rw [List.take_left' hstop, hstart]), List.drop_left' hstop]
  rw [hclean, String.toList_ofList, hbody.map_toUpper hcode]

theorem toBytes_spelling (h : Spells text code) (hcode : IsAlphanumeric code) : toBytes text = toBytes code := by
  have hself : Spells code code := ⟨[], [], code.toList, [], by simp, by simp, by simp, .inl rfl, .refl hcode⟩
  have hletters := (clean_spelling h hcode).trans (clean_spelling hself hcode).symm
  rw [toBytes, toBytes, Base32.decode_congr hletters]

/-- A text that spells a code is read, taken apart and split as the code is, or refused with the same
error. -/
theorem spelling_alike (text code : String) (hcode : IsAlphanumeric code) (h : Spells text code) :
    decode text = decode code ∧ Composite.decompose text = Composite.decompose code ∧
      Composite.split text = Composite.split code := by
  have hbytes := toBytes_spelling h hcode
  have hdecode : decode text = decode code := by rw [decode, decode, hbytes]
  refine ⟨hdecode, ?_, ?_⟩
  · rw [Composite.decompose, Composite.decompose, hdecode]
  · rw [Composite.split, Composite.split, hbytes]

theorem spelling_alike_wide :
    let code := "K4AAAAICAMCAKBQHBAEQUCYMBUHA6EARCIJRIFIWC4MBSGQ3DQOR4HY"
    let text := "\u3000\tIscc:-k4aaaaICAMCAKBQHBAEQUC--YMBUHA6EARCIJRIFIWC4mbsgq3dqor4hy-\n"
    IsAlphanumeric code ∧ Spells text code ∧ decode text = decode code ∧
      Composite.decompose text = Composite.decompose code ∧ Composite.split text = Composite.split code := by
  have hcode : IsAlphanumeric "K4AAAAICAMCAKBQHBAEQUCYMBUHA6EARCIJRIFIWC4MBSGQ3DQOR4HY" := by
    decide +kernel
  have hspells : Spells
      "\u3000\tIscc:-k4aaaaICAMCAKBQHBAEQUC--YMBUHA6EARCIJRIFIWC4mbsgq3dqor4hy-\n"
      "K4AAAAICAMCAKBQHBAEQUCYMBUHA6EARCIJRIFIWC4MBSGQ3DQOR4HY" :=
    ⟨['\u3000', '\t'], "Iscc:".toList,
      "-k4aaaaICAMCAKBQHBAEQUC--YMBUHA6EARCIJRIFIWC4mbsgq3dqor4hy-".toList, ['\n'], by decide +kernel,
      List.all_eq_true.1 (by decide +kernel), List.all_eq_true.1 (by decide +kernel), by decide +kernel⟩
  exact ⟨hcode, hspells, spelling_alike _ _ hcode hspells⟩

end Code

end ContentCode
