import Mathlib.Data.List.ModifyLast
import ContentCode.Proofs.DisplayedText

/-!
What cleaning keeps of a text. All lines with something to be seen are kept in their order, the first one
without white space in front and the last one without white space behind, and so is whether there are
blank lines between two of them.
-/

namespace ContentCode.Text

open Unicode

variable {c : Char} {line : List Char} {ls : List (List Char)} {afterBlank : Bool} {i : Nat}

section lines

theorem linesFrom_eq (line cs : List Char) : linesFrom line cs = (lines cs).modifyHead (line.reverse ++ ·) := by
  induction cs generalizing line with
  | nil => simp [linesFrom, lines]
  | cons c cs ih =>
      rw [lines, linesFrom, linesFrom]
      by_cases hc : c = '\n'
      · rw [if_pos hc, if_pos hc]
        simp
      · rw [if_neg hc, if_neg hc, ih, ih [c], List.modifyHead_modifyHead]
        congr 1
        funext rest
        simp

theorem lines_cons (hc : c ≠ '\n') (cs : List Char) : lines (c :: cs) = (lines cs).modifyHead (c :: ·) := by
  rw [lines, linesFrom, if_neg hc, linesFrom_eq]
  rfl

theorem lines_concat_break (cs : List Char) : lines (cs ++ ['\n']) = lines cs ++ [[]] := lines_append_break cs []

theorem exists_lines_concat (hc : c ≠ '\n') (cs : List Char) :
    ∃ ls last, lines cs = ls ++ [last] ∧ lines (cs ++ [c]) = ls ++ [last ++ [c]] := by
  have hfrom (line : List Char) : ∃ ls last, linesFrom line cs = ls ++ [last] ∧
      linesFrom line (cs ++ [c]) = ls ++ [last ++ [c]] := by
    induction cs generalizing line with
    | nil => exact ⟨[], line.reverse, rfl, by simp [linesFrom, hc]⟩
    | cons d cs ih =>
        rw [List.cons_append, linesFrom, linesFrom]
        by_cases hd : d = '\n'
        · obtain ⟨ls, last, hls, hconcat⟩ := ih []
          rw [if_pos hd, if_pos hd, hls, hconcat]
          exact ⟨line.reverse :: ls, last, rfl, rfl⟩
        · rw [if_neg hd, if_neg hd]
          exact ih (d :: line)
  exact hfrom []

end lines

section visible

def isVisible (line : List Char) : Bool := !isBlank line

theorem isBlank_concat (hc : isWhiteSpace c = true) (line : List Char) : isBlank (line ++ [c]) = isBlank line := by
  rw [isBlank, List.all_append, List.all_cons, hc, List.all_nil, Bool.and_true, Bool.and_true, isBlank]

theorem isBlank_cons (hc : isWhiteSpace c = true) (line : List Char) : isBlank (c :: line) = isBlank line := by
  rw [isBlank, List.all_cons, hc, Bool.true_and, isBlank]

theorem ne_lineFeed (hc : isWhiteSpace c = false) : c ≠ '\n' := by
  rintro rfl
  rw [lineFeed_white] at hc
  cases hc

def visibleLines (cs : List Char) : List (List Char) := (lines cs).filter isVisible

theorem filter_squeezeBlank (afterBlank : Bool) (ls : List (List Char)) :
    (squeezeBlank afterBlank ls).filter isVisible = ls.filter isVisible := by
  induction ls generalizing afterBlank with
  | nil => rfl
  | cons line ls ih =>
      rw [squeezeBlank]
      by_cases hdrop : (isBlank line && afterBlank) = true
      · rw [if_pos hdrop, ih, List.filter_cons_of_neg]
        simp [isVisible, (Bool.and_eq_true_iff.1 hdrop).1]
      · rw [if_neg hdrop, List.filter_cons, List.filter_cons, ih]

theorem visibleLines_dropWhile (cs : List Char) : visibleLines (cs.dropWhile isWhiteSpace) =
    (visibleLines cs).modifyHead (·.dropWhile isWhiteSpace) := by
  induction cs with
  | nil => rfl
  | cons c cs ih =>
      cases hc : isWhiteSpace c with
      | true =>
          rw [List.dropWhile_cons_of_pos hc, ih]
          by_cases hbreak : c = '\n'
          · rw [hbreak]
            rfl
          · obtain ⟨line, ls, hlines⟩ := List.exists_cons_of_ne_nil (lines_ne_nil cs)
            rw [visibleLines, visibleLines, lines_cons hbreak, hlines, List.modifyHead_cons, List.filter_cons,
              List.filter_cons, isVisible, isVisible, isBlank_cons hc]
            cases isBlank line with
            | true => rfl
            | false => simp [hc]
      | false =>
          obtain ⟨line, ls, hlines⟩ := List.exists_cons_of_ne_nil (lines_ne_nil cs)
          rw [List.dropWhile_cons_of_neg (by simp [hc]), visibleLines, lines_cons (ne_lineFeed hc), hlines,
            List.modifyHead_cons, List.filter_cons_of_pos, List.modifyHead_cons,
            List.dropWhile_cons_of_neg (by simp [hc])]
          simp [isVisible, isBlank_eq_false List.mem_cons_self hc]

theorem visibleLines_rdropWhile (cs : List Char) : visibleLines (cs.rdropWhile isWhiteSpace) =
    (visibleLines cs).modifyLast (·.rdropWhile isWhiteSpace) := by
  induction cs using List.reverseRecOn with
  | nil => rfl
  | append_singleton cs c ih =>
      cases hc : isWhiteSpace c with
      | true =>
          rw [List.rdropWhile_concat_pos _ _ _ hc, ih]
          by_cases hbreak : c = '\n'
          · rw [hbreak, visibleLines, visibleLines, lines_concat_break, List.filter_append]
            simp [isVisible, isBlank]
          · obtain ⟨ls, last, hlines, hconcat⟩ := exists_lines_concat hbreak cs
            rw [visibleLines, visibleLines, hconcat, hlines, List.filter_append, List.filter_append,
              List.filter_singleton, List.filter_singleton, isVisible, isVisible, isBlank_concat hc]
            cases isBlank last with
            | true => rfl
            | false =>
                simp only [Bool.not_false, cond_true, List.modifyLast_concat, List.rdropWhile_concat_pos _ _ _ hc]
      | false =>
          obtain ⟨ls, last, -, hconcat⟩ := exists_lines_concat (ne_lineFeed hc) cs
          have hvisible : isVisible (last ++ [c]) = true := by
            simp [isVisible, isBlank_eq_false (List.mem_append_right last List.mem_cons_self) hc]
          rw [List.rdropWhile_concat_neg _ _ _ (by simp [hc]), visibleLines, hconcat, List.filter_append,
            List.filter_cons_of_pos hvisible, List.filter_nil, List.modifyLast_concat,
            List.rdropWhile_concat_neg _ _ _ (by simp [hc])]

def trimEnds (ls : List (List Char)) : List (List Char) :=
  (ls.modifyHead (·.dropWhile isWhiteSpace)).modifyLast (·.rdropWhile isWhiteSpace)

theorem visibleLines_trim (cs : List Char) : visibleLines (trim cs) = trimEnds (visibleLines cs) := by
  rw [trim_eq, visibleLines_rdropWhile, visibleLines_dropWhile, trimEnds]

end visible

section gaps

/-- Of each visible line, whether there are blank ones in front of it. -/
def gaps (afterBlank : Bool) : List (List Char) → List Bool
  | [] => []
  | line :: ls => if isBlank line then gaps true ls else afterBlank :: gaps false ls

/-- Blank lines stand between the visible lines with the numbers `i` and `i + 1`. -/
def Apart (ls : List (List Char)) (i : Nat) : Prop :=
  ∃ front a between b back, ls = front ++ a :: (between ++ b :: back) ∧ (front.filter isVisible).length = i ∧
    isVisible a = true ∧ isVisible b = true ∧ between ≠ [] ∧ ∀ line ∈ between, isBlank line = true

theorem gaps_squeezeBlank (afterBlank : Bool) (ls : List (List Char)) :
    gaps afterBlank (squeezeBlank afterBlank ls) = gaps afterBlank ls := by
  induction ls generalizing afterBlank with
  | nil => rfl
  | cons line ls ih =>
      rw [squeezeBlank]
      by_cases hdrop : (isBlank line && afterBlank) = true
      · obtain ⟨hblank, rfl⟩ := Bool.and_eq_true_iff.1 hdrop
        rw [if_pos hdrop, ih, gaps, if_pos hblank]
      · rw [if_neg hdrop, gaps, gaps]
        cases hblank : isBlank line with
        | true => rw [if_pos rfl, if_pos rfl, ih]
        | false => rw [if_neg Bool.false_ne_true, if_neg Bool.false_ne_true, ih]

theorem tail_gaps (b b' : Bool) (ls : List (List Char)) : (gaps b ls).tail = (gaps b' ls).tail := by
  cases ls with
  | nil => rfl
  | cons line ls =>
      rw [gaps, gaps]
      cases isBlank line with
      | true => rfl
      | false => rfl

theorem gaps_concat_blank (hblank : isBlank line = true) (afterBlank : Bool) (ls : List (List Char)) :
    gaps afterBlank (ls ++ [line]) = gaps afterBlank ls := by
  induction ls generalizing afterBlank with
  | nil => simp only [List.nil_append, gaps, hblank, if_true]
  | cons line' ls ih => rw [List.cons_append, gaps, gaps, ih, ih]

theorem gaps_congr {ls' : List (List Char)} (h : ls.map isBlank = ls'.map isBlank) (afterBlank : Bool) :
    gaps afterBlank ls = gaps afterBlank ls' := by
  induction ls generalizing ls' afterBlank with
  | nil =>
      obtain rfl := List.map_eq_nil_iff.1 h.symm
      rfl
  | cons line ls ih =>
      cases ls' with
      | nil => cases h
      | cons line' ls' =>
          obtain ⟨hline, hls⟩ := List.cons.inj h
          rw [gaps, gaps, hline, ih hls, ih hls]

theorem tail_gaps_dropWhile (afterBlank : Bool) (cs : List Char) :
    (gaps afterBlank (lines (cs.dropWhile isWhiteSpace))).tail = (gaps afterBlank (lines cs)).tail := by
  induction cs with
  | nil => rfl
  | cons c cs ih =>
      cases hc : isWhiteSpace c with
      | true =>
          rw [List.dropWhile_cons_of_pos hc, ih]
          by_cases hbreak : c = '\n'
          · rw [hbreak]
            exact tail_gaps afterBlank true (lines cs)
          · obtain ⟨line, ls, hlines⟩ := List.exists_cons_of_ne_nil (lines_ne_nil cs)
            have hblanks : (line :: ls).map isBlank = ((c :: line) :: ls).map isBlank := by
              rw [List.map_cons, List.map_cons, isBlank_cons hc]
            rw [lines_cons hbreak, hlines, List.modifyHead_cons, gaps_congr hblanks]
      | false => rw [List.dropWhile_cons_of_neg (by simp [hc])]

theorem gaps_rdropWhile (afterBlank : Bool) (cs : List Char) :
    gaps afterBlank (lines (cs.rdropWhile isWhiteSpace)) = gaps afterBlank (lines cs) := by
  induction cs using List.reverseRecOn with
  | nil => rfl
  | append_singleton cs c ih =>
      cases hc : isWhiteSpace c with
      | true =>
          rw [List.rdropWhile_concat_pos _ _ _ hc, ih]
          by_cases hbreak : c = '\n'
          · rw [hbreak, lines_concat_break, gaps_concat_blank rfl]
          · obtain ⟨ls, last, hlines, hconcat⟩ := exists_lines_concat hbreak cs
            rw [hlines, hconcat]
            apply gaps_congr
            rw [List.map_append, List.map_append, List.map_singleton, List.map_singleton, isBlank_concat hc]
      | false => rw [List.rdropWhile_concat_neg _ _ _ (by simp [hc])]

theorem tail_gaps_trim (afterBlank : Bool) (cs : List Char) :
    (gaps afterBlank (lines (trim cs))).tail = (gaps afterBlank (lines cs)).tail := by
  rw [trim_eq, gaps_rdropWhile, tail_gaps_dropWhile]

theorem apart_cons_blank (hblank : isBlank line = true) : Apart (line :: ls) i ↔ Apart ls i := by
  have hcount (front : List (List Char)) : ((line :: front).filter isVisible).length =
      (front.filter isVisible).length := by
    rw [List.filter_cons_of_neg (by simp [isVisible, hblank])]
  constructor
  · rintro ⟨front, a, between, b, back, hls, hi, ha, hrest⟩
    cases front with
    | nil =>
        obtain ⟨rfl, -⟩ := List.cons.inj hls
        simp [isVisible, hblank] at ha
    | cons line' front =>
        obtain ⟨rfl, htail⟩ := List.cons.inj hls
        exact ⟨front, a, between, b, back, htail, (hcount front).symm.trans hi, ha, hrest⟩
  · rintro ⟨front, a, between, b, back, rfl, hi, hrest⟩
    exact ⟨line :: front, a, between, b, back, rfl, (hcount front).trans hi, hrest⟩

theorem apart_cons_succ (hvisible : isVisible line = true) : Apart (line :: ls) (i + 1) ↔ Apart ls i := by
  have hcount (front : List (List Char)) : ((line :: front).filter isVisible).length =
      (front.filter isVisible).length + 1 := by
    rw [List.filter_cons_of_pos hvisible, List.length_cons]
  constructor
  · rintro ⟨front, a, between, b, back, hls, hi, hrest⟩
    cases front with
    | nil => cases hi
    | cons line' front =>
        obtain ⟨rfl, htail⟩ := List.cons.inj hls
        rw [hcount, Nat.add_right_cancel_iff] at hi
        exact ⟨front, a, between, b, back, htail, hi, hrest⟩
  · rintro ⟨front, a, between, b, back, rfl, hi, hrest⟩
    exact ⟨line :: front, a, between, b, back, rfl, by rw [hcount, hi], hrest⟩

theorem apart_cons_zero (hvisible : isVisible line = true) : Apart (line :: ls) 0 ↔
    ∃ between b back, ls = between ++ b :: back ∧ isVisible b = true ∧ between ≠ [] ∧
      ∀ line ∈ between, isBlank line = true := by
  constructor
  · rintro ⟨front, a, between, b, back, hls, hi, -, hrest⟩
    cases front with
    | nil =>
        obtain ⟨rfl, htail⟩ := List.cons.inj hls
        exact ⟨between, b, back, htail, hrest⟩
    | cons line' front =>
        obtain ⟨rfl, -⟩ := List.cons.inj hls
        rw [List.filter_cons_of_pos hvisible] at hi
        cases hi
  · rintro ⟨between, b, back, rfl, hrest⟩
    exact ⟨[], line, between, b, back, rfl, rfl, hvisible, hrest⟩

theorem head?_gaps_iff (afterBlank : Bool) (ls : List (List Char)) : (gaps afterBlank ls).head? = some true ↔
    ∃ between b back, ls = between ++ b :: back ∧ isVisible b = true ∧ (between ≠ [] ∨ afterBlank = true) ∧
      ∀ line ∈ between, isBlank line = true := by
  induction ls generalizing afterBlank with
  | nil => simp [gaps]
  | cons line ls ih =>
      rw [gaps]
      cases hblank : isBlank line with
      | true =>
          rw [if_pos rfl, ih]
          constructor
          · rintro ⟨between, b, back, rfl, hb, -, hall⟩
            exact ⟨line :: between, b, back, rfl, hb, .inl (List.cons_ne_nil line between),
              List.forall_mem_cons.2 ⟨hblank, hall⟩⟩
          · rintro ⟨between, b, back, hls, hb, -, hall⟩
            cases between with
            | nil =>
                obtain ⟨rfl, -⟩ := List.cons.inj hls
                simp [isVisible, hblank] at hb
            | cons line' between =>
                exact ⟨between, b, back, (List.cons.inj hls).2, hb, .inr rfl, (List.forall_mem_cons.1 hall).2⟩
      | false =>
          rw [if_neg Bool.false_ne_true, List.head?_cons, Option.some.injEq]
          constructor
          · rintro rfl
            exact ⟨[], line, ls, rfl, by simp [isVisible, hblank], .inr rfl, List.forall_mem_nil _⟩
          · rintro ⟨between, b, back, hls, -, hfirst, hall⟩
            cases between with
            | nil => exact hfirst.resolve_left (not_not.2 rfl)
            | cons line' between =>
                obtain ⟨rfl, -⟩ := List.cons.inj hls
                exact absurd (hblank.symm.trans (List.forall_mem_cons.1 hall).1) Bool.noConfusion

theorem gaps_iff_apart (afterBlank : Bool) (ls : List (List Char)) (i : Nat) :
    (gaps afterBlank ls)[i + 1]? = some true ↔ Apart ls i := by
  induction ls generalizing afterBlank i with
  | nil =>
      refine iff_of_false (by simp [gaps]) ?_
      rintro ⟨front, a, between, b, back, hls, -⟩
      exact List.append_ne_nil_of_right_ne_nil front (List.cons_ne_nil a _) hls.symm
  | cons line ls ih =>
      rw [gaps]
      cases hblank : isBlank line with
      | true => rw [if_pos rfl, ih, apart_cons_blank hblank]
      | false =>
          have hvisible : isVisible line = true := by simp [isVisible, hblank]
          rw [if_neg Bool.false_ne_true, List.getElem?_cons_succ]
          cases i with
          | zero =>
              rw [apart_cons_zero hvisible, ← List.head?_eq_getElem?, head?_gaps_iff]
              simp only [Bool.false_eq_true, or_false]
          | succ i => rw [ih, apart_cons_succ hvisible]

theorem apart_iff_of_tail_gaps {ls' : List (List Char)}
    (h : (gaps afterBlank ls).tail = (gaps afterBlank ls').tail) (i : Nat) : Apart ls i ↔ Apart ls' i := by
  rw [← gaps_iff_apart afterBlank, ← gaps_iff_apart afterBlank, ← List.getElem?_tail, ← List.getElem?_tail, h]

end gaps

section clean

def singleBreaks : List Char → List Char
  | [] => []
  | '\r' :: '\n' :: cs => '\n' :: singleBreaks cs
  | c :: cs => c :: singleBreaks cs

/-- The normal form of a text, with line feeds for all line breaks, and without all other characters of
no visible form. -/
def unified (text : String) : List Char :=
  ((singleBreaks (nfkc text.toList)).filter fun c => isLineBreak c || !isOther c).map fun c =>
    if isLineBreak c then '\n' else c

theorem unifyBreaks_eq (cs : List Char) : unifyBreaks cs =
    ((singleBreaks cs).filter fun c => isLineBreak c || !isOther c).map fun c =>
      if isLineBreak c then '\n' else c := by
  fun_induction unifyBreaks cs with
  | case1 => rfl
  | case2 cs ih => rw [singleBreaks, List.filter_cons_of_pos rfl, List.map_cons, ih]; rfl
  | case3 c cs hne hbreak ih =>
      rw [singleBreaks.eq_3 c cs hne, List.filter_cons_of_pos (by rw [hbreak, Bool.true_or]), List.map_cons,
        if_pos hbreak, ih]
  | case4 c cs hne hbreak hother ih =>
      rw [singleBreaks.eq_3 c cs hne, List.filter_cons_of_neg (by simp [hbreak, hother]), ih]
  | case5 c cs hne hbreak hother ih =>
      rw [singleBreaks.eq_3 c cs hne, List.filter_cons_of_pos (by simp [hother]), List.map_cons, if_neg hbreak, ih]

theorem toList_clean (text : String) : (clean text).toList = tidy (unified text) := by
  rw [clean_eq, String.toList_ofList, unifyBreaks_eq, unified]

theorem visibleLines_tidy (cs : List Char) : visibleLines (tidy cs) = trimEnds (visibleLines cs) := by
  rw [tidy, visibleLines_trim, visibleLines, lines_join_squeezeBlank, filter_squeezeBlank, visibleLines]

theorem apart_tidy (cs : List Char) (i : Nat) : Apart (lines (tidy cs)) i ↔ Apart (lines cs) i := by
  have hgaps : (gaps false (lines (tidy cs))).tail = (gaps false (lines cs)).tail := by
    rw [tidy, tail_gaps_trim, lines_join_squeezeBlank, gaps_squeezeBlank]
  exact apart_iff_of_tail_gaps hgaps i

/-- A cleaned text is trimmed, has line feeds for its only line breaks and its only characters without a
visible form, and no two blank lines in a row. It has all lines of the unified text in which there is
something to be seen, the first and the last one trimmed, and blank lines between the same ones. -/
theorem clean_complete (text : String) :
    (∀ c ∈ (clean text).toList, c = '\n' ∨ isOther c = false ∧ isLineBreak c = false) ∧
    Trimmed (clean text).toList ∧ Squeezed (lines (clean text).toList) ∧
    visibleLines (clean text).toList = trimEnds (visibleLines (unified text)) ∧
    ∀ i, Apart (lines (clean text).toList) i ↔ Apart (lines (unified text)) i := by
  have hdisplayed := isDisplayed_clean text
  refine ⟨hdisplayed.shown, hdisplayed.trimmed, hdisplayed.squeezed, ?_, fun i => ?_⟩
  · rw [toList_clean, visibleLines_tidy]
  · rw [toList_clean, apart_tidy]

/-- What is dropped between a carriage return and a line feed keeps them two line breaks. -/
example : clean " a\r\u200B\n \t\r\n\u2028 b " = "a\n\n b" := by decide +kernel

end clean

end ContentCode.Text
