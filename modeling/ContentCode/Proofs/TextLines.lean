import Mathlib.Data.List.Chain
import Mathlib.Data.List.DropRight
import ContentCode.Text

/-!
Lines, words and ends of texts. Texts are taken apart into lines and words and joined from them
without loss, and what has been squeezed, joined or trimmed once stays as it is.
-/

namespace ContentCode.Unicode

variable {c w : Char} {cs xs ys word : List Char} {ws : List (List Char)}

/-- A text without white space at its ends. -/
structure Trimmed (cs : List Char) : Prop where
  head : ∀ c ∈ cs.head?, isWhiteSpace c = false
  last : ∀ c ∈ cs.getLast?, isWhiteSpace c = false

theorem trimmed_nil : Trimmed [] := ⟨by simp, by simp⟩

theorem trim_eq (cs : List Char) : trim cs = (cs.dropWhile isWhiteSpace).rdropWhile isWhiteSpace := rfl

theorem dropWhile_eq_self (h : ∀ c ∈ cs.head?, isWhiteSpace c = false) : cs.dropWhile isWhiteSpace = cs := by
  cases cs with
  | nil => rfl
  | cons c cs => exact List.dropWhile_cons_of_neg (by simp [h c rfl])

theorem trim_isPrefix (h : ∀ c ∈ cs.head?, isWhiteSpace c = false) : trim cs <+: cs := by
  rw [trim_eq, dropWhile_eq_self h]
  exact List.rdropWhile_prefix isWhiteSpace cs

theorem head_of_isPrefix (hp : xs <+: cs) (h : ∀ c ∈ cs.head?, isWhiteSpace c = false) :
    ∀ c ∈ xs.head?, isWhiteSpace c = false := by
  obtain ⟨rest, rfl⟩ := hp
  intro c hc
  refine h c ?_
  rw [List.head?_append, hc]
  rfl

theorem head_dropWhile (cs : List Char) : ∀ c ∈ (cs.dropWhile isWhiteSpace).head?, isWhiteSpace c = false := by
  intro c hc
  have hnot := List.head?_dropWhile_not isWhiteSpace cs
  rw [hc] at hnot
  exact hnot

theorem trimmed_trim (cs : List Char) : Trimmed (trim cs) := by
  rw [trim_eq]
  constructor
  · exact head_of_isPrefix (List.rdropWhile_prefix isWhiteSpace (cs.dropWhile isWhiteSpace)) (head_dropWhile cs)
  · intro c hc
    have hne : (cs.dropWhile isWhiteSpace).rdropWhile isWhiteSpace ≠ [] := by
      intro hnil
      rw [hnil] at hc
      cases hc
    have hnot := List.rdropWhile_last_not isWhiteSpace _ hne
    rw [List.getLast?_eq_some_getLast hne] at hc
    rw [← Option.some.inj hc]
    simpa using hnot

theorem Trimmed.trim_eq_self (h : Trimmed cs) : trim cs = cs := by
  rw [trim_eq, dropWhile_eq_self h.head, List.rdropWhile_eq_self_iff]
  intro hne
  simp [h.last _ (List.getLast?_eq_some_getLast hne)]

theorem trimmed_append (hxs : Trimmed xs) (hys : Trimmed ys) (hxs' : xs ≠ []) (hys' : ys ≠ []) (c : Char) :
    Trimmed (xs ++ c :: ys) := by
  obtain ⟨first, hfirst⟩ := Option.ne_none_iff_exists'.1 (mt List.head?_eq_none_iff.1 hxs')
  obtain ⟨last, hlast⟩ := Option.ne_none_iff_exists'.1 (mt List.getLast?_eq_none_iff.1 hys')
  constructor
  · rw [List.head?_append, hfirst]
    exact fun d hd => hxs.head d (hfirst.trans hd)
  · rw [List.getLast?_append, List.getLast?_cons, hlast]
    exact fun d hd => hys.last d (hlast.trans hd)

theorem wordsFrom_append_space (hw : isWhiteSpace w = true) (word xs ys : List Char) :
    wordsFrom word (xs ++ w :: ys) = wordsFrom word xs ++ words ys := by
  induction xs generalizing word with
  | nil =>
      have hfirst : wordsFrom word (w :: ys) =
          if word.isEmpty then wordsFrom [] ys else word.reverse :: wordsFrom [] ys := if_pos hw
      rw [List.nil_append, hfirst, wordsFrom]
      by_cases hword : word.isEmpty
      · rw [if_pos hword, if_pos hword]
        rfl
      · rw [if_neg hword, if_neg hword]
        rfl
  | cons x xs ih =>
      rw [List.cons_append, wordsFrom, wordsFrom, ih, ih]
      by_cases hx : isWhiteSpace x
      · rw [if_pos hx, if_pos hx]
        by_cases hword : word.isEmpty
        · rw [if_pos hword, if_pos hword]
        · rw [if_neg hword, if_neg hword, List.cons_append]
      · rw [if_neg hx, if_neg hx]

theorem words_append_space (hw : isWhiteSpace w = true) (xs ys : List Char) :
    words (xs ++ w :: ys) = words xs ++ words ys :=
  wordsFrom_append_space hw [] xs ys

def IsWord (word : List Char) : Prop := word ≠ [] ∧ ∀ c ∈ word, isWhiteSpace c = false

theorem IsWord.trimmed (h : IsWord word) : Trimmed word :=
  ⟨fun c hc => h.2 c (List.mem_of_mem_head? hc), fun c hc => h.2 c (List.mem_of_mem_getLast? hc)⟩

theorem wordsFrom_word (h : ∀ c ∈ cs, isWhiteSpace c = false) (word : List Char) :
    wordsFrom word cs = if (word.reverse ++ cs).isEmpty then [] else [word.reverse ++ cs] := by
  induction cs generalizing word with
  | nil => simp [wordsFrom]
  | cons c cs ih =>
      obtain ⟨hc, hcs⟩ := List.forall_mem_cons.1 h
      rw [wordsFrom, if_neg (by simp [hc]), ih hcs]
      simp

theorem words_of_isWord (h : IsWord word) : words word = [word] := by
  rw [words, wordsFrom_word h.2]
  simp [h.1]

/-- A word that stands between white space, or at an end of the text. -/
structure IsWordOf (word cs : List Char) : Prop where
  isWord : IsWord word
  between : ∃ front back, cs = front ++ word ++ back ∧
    (∀ c ∈ front.getLast?, isWhiteSpace c = true) ∧ ∀ c ∈ back.head?, isWhiteSpace c = true

theorem IsWord.isWordOf (h : IsWord word) (hys : ∀ c ∈ ys.head?, isWhiteSpace c = true) :
    IsWordOf word (word ++ ys) :=
  ⟨h, [], ys, rfl, by simp, hys⟩

theorem IsWordOf.append (h : IsWordOf word ys) (hw : isWhiteSpace w = true) (xs : List Char) :
    IsWordOf word (xs ++ w :: ys) := by
  obtain ⟨hword, front, back, rfl, hfront, hback⟩ := h
  refine ⟨hword, xs ++ w :: front, back, by simp, fun c hc => ?_, hback⟩
  rw [List.getLast?_append_of_ne_nil _ (List.cons_ne_nil w front), List.getLast?_cons] at hc
  obtain rfl := Option.some.inj hc
  cases hlast : front.getLast? with
  | none => exact hw
  | some d => exact hfront d hlast

theorem isWordOf_of_mem_words (h : word ∈ words cs) : IsWordOf word cs := by
  have hfrom (cs : List Char) : ∀ start, (∀ c ∈ start, isWhiteSpace c = false) →
      ∀ word ∈ wordsFrom start cs, IsWordOf word (start.reverse ++ cs) := by
    induction cs with
    | nil =>
        intro start hstart word hword
        rw [wordsFrom] at hword
        by_cases hempty : start.isEmpty
        · rw [if_pos hempty] at hword
          cases hword
        · rw [if_neg hempty, List.mem_singleton] at hword
          subst hword
          exact IsWord.isWordOf ⟨by simpa using hempty, by simpa using hstart⟩ (by simp)
    | cons c cs ih =>
        intro start hstart word hword
        rw [wordsFrom] at hword
        by_cases hc : isWhiteSpace c
        · have hlater (hword : word ∈ wordsFrom [] cs) : IsWordOf word (start.reverse ++ c :: cs) :=
            (ih [] (by simp) word hword).append hc start.reverse
          rw [if_pos hc] at hword
          by_cases hempty : start.isEmpty
          · rw [if_pos hempty] at hword
            exact hlater hword
          · rw [if_neg hempty] at hword
            rcases List.mem_cons.1 hword with rfl | hword
            · refine IsWord.isWordOf ⟨by simpa using hempty, by simpa using hstart⟩ fun d hd => ?_
              obtain rfl := Option.some.inj hd
              exact hc
            · exact hlater hword
        · rw [if_neg hc] at hword
          rw [← List.singleton_append, ← List.append_assoc, ← List.reverse_cons]
          exact ih (c :: start) (List.forall_mem_cons.2 ⟨by simpa using hc, hstart⟩) word hword
  exact hfrom cs [] (by simp) word h

theorem isWord_of_mem_words (h : word ∈ words cs) : IsWord word := (isWordOf_of_mem_words h).isWord

theorem mem_of_mem_words (hword : word ∈ words cs) (hc : c ∈ word) : c ∈ cs := by
  obtain ⟨front, back, rfl, -⟩ := (isWordOf_of_mem_words hword).between
  exact List.mem_append_left back (List.mem_append_right front hc)

end ContentCode.Unicode

namespace ContentCode.Text

open Unicode

variable {c : Char} {cs xs ys line : List Char} {ls ws : List (List Char)}

theorem join_cons (separator : Char) (line : List Char) (h : ls ≠ []) :
    join separator (line :: ls) = line ++ separator :: join separator ls := by
  cases ls with
  | nil => exact absurd rfl h
  | cons line' ls => rfl

/-- Joined by single spaces, words are found again. -/
theorem words_join (h : ∀ word ∈ ws, IsWord word) : words (join ' ' ws) = ws := by
  induction ws with
  | nil => rfl
  | cons word ws ih =>
      obtain ⟨hword, hws⟩ := List.forall_mem_cons.1 h
      by_cases hne : ws = []
      · subst hne
        exact (congrArg words (List.append_nil word)).trans (words_of_isWord hword)
      · rw [join_cons _ _ hne, words_append_space (by decide), words_of_isWord hword, ih hws]
        rfl

theorem linesFrom_append_break (line xs ys : List Char) :
    linesFrom line (xs ++ '\n' :: ys) = linesFrom line xs ++ lines ys := by
  induction xs generalizing line with
  | nil => rfl
  | cons x xs ih =>
      rw [List.cons_append, linesFrom, linesFrom, ih, ih]
      by_cases hx : x = '\n'
      · rw [if_pos hx, if_pos hx, List.cons_append]
      · rw [if_neg hx, if_neg hx]

theorem lines_append_break (xs ys : List Char) : lines (xs ++ '\n' :: ys) = lines xs ++ lines ys :=
  linesFrom_append_break [] xs ys

theorem lines_of_not_mem (h : '\n' ∉ cs) : lines cs = [cs] := by
  have hfrom (line : List Char) : linesFrom line cs = [line.reverse ++ cs] := by
    induction cs generalizing line with
    | nil => simp [linesFrom]
    | cons c cs ih =>
        obtain ⟨hc, hcs⟩ := not_or.1 (mt List.mem_cons.2 h)
        rw [linesFrom, if_neg (Ne.symm hc), ih hcs]
        simp
  exact hfrom []

theorem lines_ne_nil (cs : List Char) : lines cs ≠ [] := by
  have hfrom (line : List Char) : linesFrom line cs ≠ [] := by
    induction cs generalizing line with
    | nil => exact List.cons_ne_nil _ _
    | cons c cs ih =>
        rw [linesFrom]
        by_cases hc : c = '\n'
        · rw [if_pos hc]
          exact List.cons_ne_nil _ _
        · rw [if_neg hc]
          exact ih _
  exact hfrom []

theorem join_lines (cs : List Char) : join '\n' (lines cs) = cs := by
  have hfrom (line : List Char) : join '\n' (linesFrom line cs) = line.reverse ++ cs := by
    induction cs generalizing line with
    | nil => simp [linesFrom, join]
    | cons c cs ih =>
        rw [linesFrom]
        by_cases hc : c = '\n'
        · rw [if_pos hc, join_cons _ _ (show linesFrom [] cs ≠ [] from lines_ne_nil cs), ih, hc]
          rfl
        · rw [if_neg hc, ih]
          simp
  exact hfrom []

theorem not_mem_of_mem_lines (h : line ∈ lines cs) : '\n' ∉ line := by
  have hfrom (cs : List Char) : ∀ start, '\n' ∉ start → ∀ line ∈ linesFrom start cs, '\n' ∉ line := by
    induction cs with
    | nil =>
        intro start hstart line hline
        rw [linesFrom, List.mem_singleton] at hline
        simpa [hline] using hstart
    | cons c cs ih =>
        intro start hstart line hline
        rw [linesFrom] at hline
        by_cases hc : c = '\n'
        · rw [if_pos hc] at hline
          rcases List.mem_cons.1 hline with rfl | hline
          · simpa using hstart
          · exact ih [] (by simp) line hline
        · rw [if_neg hc] at hline
          refine ih (c :: start) ?_ line hline
          simpa [Ne.symm hc] using hstart
  exact hfrom cs [] (by simp) line h

theorem lines_join (hne : ls ≠ []) (h : ∀ line ∈ ls, '\n' ∉ line) : lines (join '\n' ls) = ls := by
  induction ls with
  | nil => exact absurd rfl hne
  | cons line ls ih =>
      obtain ⟨hline, hls⟩ := List.forall_mem_cons.1 h
      by_cases hnil : ls = []
      · subst hnil
        exact (congrArg lines (List.append_nil line)).trans (lines_of_not_mem hline)
      · rw [join_cons _ _ hnil, lines_append_break, lines_of_not_mem hline, ih hnil hls]
        rfl

end ContentCode.Text
