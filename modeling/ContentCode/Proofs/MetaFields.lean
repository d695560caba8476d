import ContentCode.Proofs.MetaReproduction
import ContentCode.Proofs.TextLimits

/-!
Names and descriptions that come with meta codes. A name is a title of at most 128 bytes, a description a
displayed text of at most 4096, and a name is missing only if cleaning leaves nothing of it.
-/

namespace ContentCode.Unicode

variable {cs word : List Char}

theorem wordsFrom_ne_nil (h : word ≠ []) (cs : List Char) : wordsFrom word cs ≠ [] := by
  induction cs generalizing word with
  | nil =>
      rw [wordsFrom, if_neg (mt List.isEmpty_iff.1 h)]
      exact List.cons_ne_nil _ _
  | cons c cs ih =>
      rw [wordsFrom]
      cases isWhiteSpace c with
      | true =>
          rw [if_pos rfl, if_neg (mt List.isEmpty_iff.1 h)]
          exact List.cons_ne_nil _ _
      | false =>
          rw [if_neg Bool.false_ne_true]
          exact ih (List.cons_ne_nil c word)

theorem Trimmed.words_ne_nil (h : Trimmed cs) (hne : cs ≠ []) : words cs ≠ [] := by
  cases cs with
  | nil => exact absurd rfl hne
  | cons c cs =>
      have hc : isWhiteSpace c = false := h.head c rfl
      rw [words, wordsFrom, if_neg (by simp [hc])]
      exact wordsFrom_ne_nil (List.cons_ne_nil c []) cs

end ContentCode.Unicode

namespace ContentCode.MetaCode

open Unicode Text

variable {n : Nat} {text name : String}

/-- A name in normal form: words with single spaces between, in 128 bytes at most. -/
structure IsName (name : String) : Prop where
  ne_empty : name ≠ ""
  size_le : (utf8 name).length ≤ 128
  trimmed : Trimmed name.toList
  title : IsTitle name.toList
  shown : ∀ c ∈ name.toList, isOther c = false

/-- A description in normal form: a text without white space at its ends, in 4096 bytes at most. -/
structure IsDescription (description : String) : Prop where
  ne_empty : description ≠ ""
  size_le : (utf8 description).length ≤ 4096
  trimmed : Trimmed description.toList
  shown : ∀ c ∈ description.toList, c = '\n' ∨ isOther c = false

theorem IsFinished.length_utf8_le (h : IsFinished n text.toList) : (utf8 text).length ≤ n := by
  have hfits := byteCount_fitting_le n text.toList
  rwa [h.fits, byteCount, String.ofList_toList] at hfits

theorem isName_normalName (h : (normalName name).isEmpty = false) : IsName (normalName name) := by
  have hfinished := isFinished_normalName name
  have htitle := isTitle_normalName name
  refine ⟨?_, IsFinished.length_utf8_le hfinished, htitle.trimmed, htitle, fun c hc => ?_⟩
  · intro hempty
    rw [hempty] at h
    cases h
  · rcases hfinished.displayed.shown c hc with rfl | ⟨hother, -⟩
    · -- the only white space in a title is the space
      exact absurd (htitle.eq_space hc lineFeed_white) (by decide)
    · exact hother

theorem isDescription_normalDescription (h : (normalDescription text).isEmpty = false) :
    IsDescription (normalDescription text) := by
  have hfinished := isFinished_normalDescription text
  refine ⟨?_, IsFinished.length_utf8_le hfinished, hfinished.displayed.trimmed, fun c hc => ?_⟩
  · intro hempty
    rw [hempty] at h
    cases h
  · exact (hfinished.displayed.shown c hc).imp_right And.left

theorem isEmpty_normalName_iff (name : String) : (normalName name).isEmpty = true ↔ clean name = "" := by
  rw [String.isEmpty_iff, ← String.toList_eq_nil_iff, ← String.toList_eq_nil_iff, toList_normalName]
  have htrimmed := (isDisplayed_clean name).trimmed
  have htitle := isTitle_join_words (clean name).toList
  constructor
  · intro hcut
    by_contra hne
    refine cut_ne_nil htitle.trimmed (fun hjoin => htrimmed.words_ne_nil hne ?_) (by decide) hcut
    rw [← words_join fun _ => isWord_of_mem_words, hjoin]
    rfl
  · intro hnil
    rw [hnil]
    rfl

/-- The name that comes with a meta code is in normal form, and so is the description, if there is one.
With a number of bits that there are codes of and without a document, a code is refused only if nothing is
left of the name when it is cleaned. -/
theorem fields_normal :
    (∀ {name description document bits r}, generate name description document bits = .ok r →
      IsName r.name ∧ ∀ d ∈ r.description, IsDescription d) ∧
    ∀ name description, ∀ bits ∈ Code.supportedBits,
      ((∃ e, generate name description none bits = .error e) ↔ clean name = "") := by
  constructor
  · intro name description document bits r h
    obtain ⟨-, hname, read, d, code, -, -, -, rfl⟩ := generates_iff.1 h
    refine ⟨isName_normalName hname, fun text htext => ?_⟩
    cases hempty : (normalDescription (description.getD "")).isEmpty with
    | true =>
        rw [result, Option.mem_def] at htext
        simp only [hempty, if_true] at htext
        cases htext
    | false =>
        rw [result, Option.mem_def] at htext
        simp only [hempty, Bool.false_eq_true, if_false, Option.some.injEq] at htext
        rw [← htext]
        exact isDescription_normalDescription hempty
  · intro name description bits hbits
    rw [← isEmpty_normalName_iff]
    constructor
    · rintro ⟨e, he⟩
      by_contra hempty
      obtain ⟨r, hr⟩ := exists_result description hbits (Bool.eq_false_iff.2 hempty)
        (show readDocument none = .ok none from rfl)
      rw [he] at hr
      cases hr
    · intro hempty
      cases hr : generate name description none bits with
      | error e => exact ⟨e, rfl⟩
      | ok r =>
          have hname := (generates_iff.1 hr).2.1
          rw [hempty] at hname
          cases hname

theorem fields_normal_lines :
    (∃ r, generate "  Hello\n\nWorld  " (some " of\r\n texts ") none 64 = .ok r ∧ r.name = "Hello World" ∧
      IsName r.name) ∧
    ∃ e, generate " \n\t" (some "of texts") none 64 = .error e := by
  have hbits : 64 ∈ Code.supportedBits := by decide
  have hname : normalName "  Hello\n\nWorld  " = "Hello World" := by decide +kernel
  constructor
  · have hempty : (normalName "  Hello\n\nWorld  ").isEmpty = false := by
      rw [hname]
      rfl
    obtain ⟨r, hr⟩ := exists_result (some " of\r\n texts ") hbits hempty
      (show readDocument none = .ok none from rfl)
    refine ⟨r, hr, ?_, (fields_normal.1 hr).1⟩
    obtain ⟨-, -, read, d, code, -, -, -, rfl⟩ := generates_iff.1 hr
    exact hname
  · exact (fields_normal.2 " \n\t" (some "of texts") 64 hbits).2 (by decide +kernel)

end ContentCode.MetaCode
