import ContentCode.Proofs.MetaResult
import ContentCode.Proofs.NormalCleaning

/-!
Meta codes of the names and descriptions that come with meta codes. A name that has been made normal
is made normal again: that changes nothing if it is in normal form then, as it is unless characters
have been dropped from between others that belong together.
-/

namespace ContentCode.MetaCode

open Unicode Text

variable {n bits : Nat} {cs : List Char} {text name description : String} {r : MetaCode}

/-- A text as it comes with a code: displayed, of settled characters, and of a size that fits. -/
structure IsFinished (n : Nat) (cs : List Char) : Prop where
  displayed : IsDisplayed cs
  settled : AllSettled cs
  fits : fitting n cs = cs

theorem allSettled_clean (text : String) : AllSettled (clean text).toList := by
  rw [clean_eq, String.toList_ofList]
  intro c hc
  have hfeed : IsSettled '\n' := isWall_lineFeed.decomposed.isSettled
  rcases mem_of_mem_tidy hc with rfl | hc
  · exact hfeed
  · exact forall_mem_unifyBreaks hfeed (allSettled_nfkc _) c hc

theorem clean_eq_nfkc (h : IsDisplayed text.toList) (hsettled : AllSettled text.toList) :
    clean text = .ofList (nfkc text.toList) := by
  have hnfkc := IsDisplayed.nfkc hsettled h
  rw [clean_eq, unifyBreaks_eq_self hnfkc.shown, hnfkc.tidy_eq_self]

theorem isFinished_cut (h : IsDisplayed cs) (hsettled : AllSettled cs) (n : Nat) : IsFinished n (cut n cs) :=
  have hp := cut_isPrefix h.trimmed n
  ⟨h.of_prefix hp (trimmed_cut n cs), fun c hc => hsettled c (hp.subset hc), fitting_cut h.trimmed n⟩

theorem IsFinished.cut_nfkc_iff (h : IsFinished n cs) : cut n (nfkc cs) = cs ↔ IsNormal cs := by
  constructor
  · intro hcut
    obtain ⟨rest, hrest⟩ := cut_isPrefix (trimmed_nfkc h.settled h.displayed.trimmed) n
    rw [hcut] at hrest
    exact IsNormal.of_append (hrest ▸ isNormal_nfkc cs)
  · intro hnormal
    rw [hnormal, cut_eq_self h.displayed.trimmed h.fits]

theorem toList_normalDescription (text : String) :
    (normalDescription text).toList = cut maxDescription (clean text).toList := by
  rw [normalDescription, truncate_eq, String.toList_ofList]

theorem toList_normalName (text : String) :
    (normalName text).toList = cut maxName (join ' ' (words (clean text).toList)) := by
  rw [normalName, truncate_eq, joinWords, String.toList_ofList, String.toList_ofList]

theorem isFinished_normalDescription (text : String) :
    IsFinished maxDescription (normalDescription text).toList := by
  rw [toList_normalDescription]
  exact isFinished_cut (isDisplayed_clean text) (allSettled_clean text) _

theorem isFinished_normalName (text : String) : IsFinished maxName (normalName text).toList := by
  rw [toList_normalName]
  have hdisplayed := isDisplayed_clean text
  apply isFinished_cut
  · refine (isTitle_join_words _).isDisplayed fun c hc => ?_
    rcases mem_of_mem_join hc with rfl | ⟨word, hword, hc⟩
    · rfl
    · rcases hdisplayed.shown c (mem_of_mem_words hword hc) with rfl | ⟨hother, -⟩
      · have hwhite := (isWord_of_mem_words hword).2 '\n' hc
        rw [lineFeed_white] at hwhite
        cases hwhite
      · exact hother
  · intro c hc
    rcases mem_of_mem_join hc with rfl | ⟨word, hword, hc⟩
    · exact isWall_space.decomposed.isSettled
    · exact allSettled_clean text c (mem_of_mem_words hword hc)

theorem isTitle_normalName (text : String) : IsTitle (normalName text).toList := by
  rw [toList_normalName]
  have htitle := isTitle_join_words (clean text).toList
  exact htitle.of_prefix (cut_isPrefix htitle.trimmed _) (trimmed_cut _ _)

/-- What names and descriptions have in common when they are made normal. -/
structure Normalizes (normal : String → String) (n : Nat) : Prop where
  finished (text : String) : IsFinished n (normal text).toList
  again (text : String) : (normal (normal text)).toList = cut n (nfkc (normal text).toList)
  kept (text : String) (h : HidesBreaksAlone text.toList) : IsNormal (normal text).toList

theorem normalizes_normalDescription : Normalizes normalDescription maxDescription where
  finished := isFinished_normalDescription
  again text := by
    have h := isFinished_normalDescription text
    rw [toList_normalDescription, clean_eq_nfkc h.displayed h.settled, String.toList_ofList]
  kept text h := by
    rw [toList_normalDescription]
    exact IsNormal.cut (isNormal_clean h) maxDescription

theorem normalizes_normalName : Normalizes normalName maxName where
  finished := isFinished_normalName
  again text := by
    have h := isFinished_normalName text
    rw [toList_normalName, clean_eq_nfkc h.displayed h.settled, String.toList_ofList,
      (IsTitle.nfkc h.settled (isTitle_normalName text)).join_words]
  kept text h := by
    rw [toList_normalName]
    exact IsNormal.cut (IsNormal.join_words (isNormal_clean h)) maxName

namespace Normalizes

variable {normal : String → String} (h : Normalizes normal n)

include h

theorem fixed_iff (text : String) : normal (normal text) = normal text ↔ IsNormal (normal text).toList := by
  rw [← String.toList_inj, h.again]
  exact (h.finished text).cut_nfkc_iff

theorem isNormal_again (text : String) : IsNormal (normal (normal text)).toList := by
  rw [h.again]
  exact IsNormal.cut (isNormal_nfkc _) n

theorem isEmpty_again (hn : 4 ≤ n) (text : String) :
    (normal (normal text)).isEmpty = (normal text).isEmpty := by
  have hfinished := h.finished text
  rw [Bool.eq_iff_iff, String.isEmpty_iff, String.isEmpty_iff, ← String.toList_eq_nil_iff,
    ← String.toList_eq_nil_iff, h.again, ← nfkc_eq_nil_iff hfinished.settled]
  have htrimmed := trimmed_nfkc hfinished.settled hfinished.displayed.trimmed
  constructor
  · intro hcut
    by_contra hne
    exact cut_ne_nil htrimmed hne hn hcut
  · intro hnil
    rw [hnil]
    rfl

theorem collapse_again (text : String) (hfits : (utf8 (.ofList (nfkc (normal text).toList))).length ≤ n) :
    collapse (normal (normal text)) = collapse (normal text) := by
  have hfinished := h.finished text
  have htrimmed := trimmed_nfkc hfinished.settled hfinished.displayed.trimmed
  rw [collapse, h.again, cut_eq_self htrimmed (fitting_eq_self hfits), nfd_nfkc hfinished.settled]
  rfl

end Normalizes

def ofCode (name description code : String) : MetaCode where
  iscc := code
  name := name
  description := if description.isEmpty then none else some description
  document := none
  metahash := Hash.Blake3.multihash (Hash.Blake3.hash (subject name description none))

@[simp]
theorem name_ofCode (name description code : String) : (ofCode name description code).name = name := rfl

@[simp]
theorem getD_description_ofCode (name description code : String) :
    (ofCode name description code).description.getD "" = description := by
  rw [ofCode]
  by_cases h : description.isEmpty
  · rw [if_pos h, String.isEmpty_iff.1 h]
    rfl
  · rw [if_neg h]
    rfl

theorem generate_eq_ok_iff {description : Option String} : generate name description none bits = .ok r ↔
    bits ∈ Code.supportedBits ∧ (normalName name).isEmpty = false ∧ ∃ d code,
      digest (normalName name) (normalDescription (description.getD "")) none = .ok d ∧
      Code.generate .metadata .plain bits d = .ok code ∧
      ofCode (normalName name) (normalDescription (description.getD "")) code = r := by
  rw [generates_iff]
  refine and_congr_right fun _ => and_congr_right fun _ => ⟨?_, ?_⟩
  · rintro ⟨read, d, code, hread, h⟩
    cases hread
    exact ⟨d, code, h⟩
  · rintro ⟨d, code, h⟩
    exact ⟨none, d, code, rfl, h⟩

theorem exists_generate (description : Option String) (hbits : bits ∈ Code.supportedBits)
    (hname : (normalName name).isEmpty = false) : ∃ r, generate name description none bits = .ok r :=
  exists_result description hbits hname rfl

theorem forall_mem_iff {P : String → Prop} (hempty : P "") {description : Option String} :
    (∀ d ∈ description, P d) ↔ P (description.getD "") := by
  cases description with
  | none => exact iff_of_true (by simp) hempty
  | some d => simp

theorem digest_congr {name' description' : String} (hname : collapse name' = collapse name)
    (hdescription : collapse description' = collapse description)
    (hempty : description'.isEmpty = description.isEmpty) :
    digest name' description' none = digest name description none := by
  simp only [digest, textHash, hname, hdescription, hempty]

theorem generate_again_iff {description : Option String} (h : generate name description none bits = .ok r) :
    generate r.name r.description none bits = .ok r ↔
      IsNormal r.name.toList ∧ ∀ d ∈ r.description, IsNormal d.toList := by
  obtain ⟨hbits, hempty, d, code, hdigest, hcode, rfl⟩ := generate_eq_ok_iff.1 h
  rw [generate_eq_ok_iff, forall_mem_iff isNormal_nil, name_ofCode, getD_description_ofCode]
  rw [← normalizes_normalName.fixed_iff, ← normalizes_normalDescription.fixed_iff]
  constructor
  · rintro ⟨-, -, d', code', -, -, hcodes⟩
    have hnames := congrArg MetaCode.name hcodes
    have hdescriptions := congrArg (fun r => r.description.getD "") hcodes
    simp only [name_ofCode, getD_description_ofCode] at hnames hdescriptions
    exact ⟨hnames, hdescriptions⟩
  · rintro ⟨hname, hdescription⟩
    rw [hname, hdescription]
    exact ⟨hbits, hempty, d, code, hdigest, hcode, rfl⟩

theorem iscc_generate_again {description : Option String} {r' : MetaCode}
    (h : generate name description none bits = .ok r) (h' : generate r.name r.description none bits = .ok r')
    (hname : (utf8 (.ofList (nfkc r.name.toList))).length ≤ maxName)
    (hdescription : ∀ d ∈ r.description, (utf8 (.ofList (nfkc d.toList))).length ≤ maxDescription) :
    r'.iscc = r.iscc := by
  obtain ⟨-, -, d, code, hdigest, hcode, rfl⟩ := generate_eq_ok_iff.1 h
  obtain ⟨-, -, d', code', hdigest', hcode', rfl⟩ := generate_eq_ok_iff.1 h'
  rw [forall_mem_iff (by decide), getD_description_ofCode] at hdescription
  rw [name_ofCode] at hname
  rw [name_ofCode, getD_description_ofCode,
    digest_congr (normalizes_normalName.collapse_again name hname)
      (normalizes_normalDescription.collapse_again _ hdescription)
      (normalizes_normalDescription.isEmpty_again (by decide) _), hdigest] at hdigest'
  obtain rfl := Except.ok.inj hdigest'
  exact Except.ok.inj (hcode'.symm.trans hcode)

/-- Made again from the name and the description that come with it, a code comes with the same ones if
and only if they are in normal form; the one it comes with otherwise is made again as it is. -/
theorem generate_again {description : Option String} (h : generate name description none bits = .ok r) :
    (generate r.name r.description none bits = .ok r ↔
      IsNormal r.name.toList ∧ ∀ d ∈ r.description, IsNormal d.toList) ∧
    (HidesBreaksAlone name.toList → (∀ d ∈ description, HidesBreaksAlone d.toList) →
      generate r.name r.description none bits = .ok r) ∧
    ∃ r', generate r.name r.description none bits = .ok r' ∧
      generate r'.name r'.description none bits = .ok r' ∧
      ((utf8 (.ofList (nfkc r.name.toList))).length ≤ maxName →
        (∀ d ∈ r.description, (utf8 (.ofList (nfkc d.toList))).length ≤ maxDescription) →
        r'.iscc = r.iscc) := by
  have hiff := generate_again_iff h
  obtain ⟨hbits, hempty, d, code, -, -, hr⟩ := generate_eq_ok_iff.1 h
  have hname : r.name = normalName name := by rw [← hr, name_ofCode]
  have hdescription : r.description.getD "" = normalDescription (description.getD "") := by
    rw [← hr, getD_description_ofCode]
  refine ⟨hiff, fun hkept hkept' => ?_, ?_⟩
  · rw [hiff, forall_mem_iff isNormal_nil, hname, hdescription]
    rw [forall_mem_iff (by simp [HidesBreaksAlone])] at hkept'
    exact ⟨normalizes_normalName.kept name hkept, normalizes_normalDescription.kept _ hkept'⟩
  · have hempty' : (normalName r.name).isEmpty = false := by
      rw [hname, normalizes_normalName.isEmpty_again (by decide), hempty]
    obtain ⟨r', hr'⟩ := exists_generate r.description hbits hempty'
    refine ⟨r', hr', (generate_again_iff hr').2 ?_, iscc_generate_again h hr'⟩
    obtain ⟨-, -, d', code', -, -, rfl⟩ := generate_eq_ok_iff.1 hr'
    rw [forall_mem_iff isNormal_nil, name_ofCode, getD_description_ofCode, hname, hdescription]
    exact ⟨normalizes_normalName.isNormal_again name, normalizes_normalDescription.isNormal_again _⟩

theorem generate_again_lines :
    ∃ r, generate " Cafe\u0301\r\nMu\u0308ller " (some "o\u0302\u0323\n\n\u2028\n") none 64 = .ok r ∧
      r.name = "Café Müller" ∧ generate r.name r.description none 64 = .ok r := by
  have hname : normalName " Cafe\u0301\r\nMu\u0308ller " = "Café Müller" := by decide +kernel
  have hempty : (normalName " Cafe\u0301\r\nMu\u0308ller ").isEmpty = false := by rw [hname]; rfl
  obtain ⟨r, hr⟩ := exists_generate (some "o\u0302\u0323\n\n\u2028\n")
    (show 64 ∈ Code.supportedBits by decide) hempty
  have hagain := (generate_again hr).2.1 (by decide +kernel) (by decide +kernel)
  obtain ⟨-, -, d, code, -, -, rfl⟩ := generate_eq_ok_iff.1 hr
  exact ⟨_, hr, hname, hagain⟩

/-- A space of no width that has kept an accent from its letter is dropped too late for the two to be
joined. -/
theorem exists_generate_again_ne : ∃ r, generate "e\u200B\u0301" none none 64 = .ok r ∧
    r.name = "e\u0301" ∧ generate r.name r.description none 64 ≠ .ok r := by
  have hname : normalName "e\u200B\u0301" = "e\u0301" := by decide +kernel
  have hempty : (normalName "e\u200B\u0301").isEmpty = false := by rw [hname]; rfl
  obtain ⟨r, hr⟩ := exists_generate none (show 64 ∈ Code.supportedBits by decide) hempty
  obtain ⟨-, -, d, code, -, -, rfl⟩ := generate_eq_ok_iff.1 hr
  refine ⟨_, hr, hname, fun hagain => ?_⟩
  have hnormal := ((generate_again_iff hr).1 hagain).1
  rw [name_ofCode, hname] at hnormal
  exact absurd hnormal (by decide +kernel)

end ContentCode.MetaCode
