import ContentCode.Proofs.TextLines

/-!
Texts as they are displayed: trimmed, with line feeds for line breaks, and with no two blank lines in
a row; titles are words with single spaces between. A text that has been cut is displayed again.
-/

namespace ContentCode.Text

open Unicode

variable {c : Char} {cs xs ys line : List Char} {ls ws : List (List Char)}

/-- Lines without two blank ones in a row. -/
def Squeezed (ls : List (List Char)) : Prop := ls.IsChain fun a b => isBlank a = false ∨ isBlank b = false

theorem squeezed_squeezeBlank (afterBlank : Bool) (ls : List (List Char)) :
    Squeezed (squeezeBlank afterBlank ls) ∧
      (afterBlank = true → ∀ line ∈ (squeezeBlank afterBlank ls).head?, isBlank line = false) := by
  induction ls generalizing afterBlank with
  | nil => exact ⟨.nil, by simp [squeezeBlank]⟩
  | cons line ls ih =>
      rw [squeezeBlank]
      by_cases hdrop : (isBlank line && afterBlank) = true
      · rw [if_pos hdrop]
        exact ⟨(ih true).1, fun _ => (ih true).2 rfl⟩
      · rw [if_neg hdrop]
        refine ⟨List.isChain_cons.2 ⟨fun next hnext => ?_, (ih _).1⟩, ?_⟩
        · cases hline : isBlank line with
          | false => exact .inl rfl
          | true => exact .inr ((ih _).2 hline next hnext)
        · rintro rfl line' hline'
          obtain rfl := Option.some.inj hline'
          simpa using hdrop

theorem squeezeBlank_eq_self {afterBlank : Bool} (h : Squeezed ls)
    (hfirst : afterBlank = true → ∀ line ∈ ls.head?, isBlank line = false) :
    squeezeBlank afterBlank ls = ls := by
  induction ls generalizing afterBlank with
  | nil => rfl
  | cons line ls ih =>
      obtain ⟨hnext, hls⟩ := List.isChain_cons.1 h
      have hkeep : ¬ (isBlank line && afterBlank) = true := by
        rw [Bool.and_eq_true]
        rintro ⟨hblank, hafter⟩
        rw [hfirst hafter line rfl] at hblank
        cases hblank
      rw [squeezeBlank, if_neg hkeep, ih hls fun hblank next hn => ?_]
      exact (hnext next hn).resolve_left (by simp [hblank])

theorem sublist_squeezeBlank (afterBlank : Bool) (ls : List (List Char)) :
    (squeezeBlank afterBlank ls).Sublist ls := by
  induction ls generalizing afterBlank with
  | nil => exact .slnil
  | cons line ls ih =>
      rw [squeezeBlank]
      by_cases hdrop : (isBlank line && afterBlank) = true
      · rw [if_pos hdrop]
        exact (ih true).cons line
      · rw [if_neg hdrop]
        exact (ih _).cons_cons line

theorem squeezeBlank_ne_nil (h : ls ≠ []) : squeezeBlank false ls ≠ [] := by
  cases ls with
  | nil => exact h
  | cons line ls =>
      rw [squeezeBlank, if_neg (by simp)]
      exact List.cons_ne_nil _ _

theorem isBlank_eq_false (hc : c ∈ line) (hwhite : isWhiteSpace c = false) : isBlank line = false := by
  rw [isBlank, List.all_eq_false]
  exact ⟨c, hc, by simp [hwhite]⟩

theorem lineFeed_white : isWhiteSpace '\n' = true := rfl

theorem squeezed_of_append_left (h : Squeezed (lines (xs ++ cs)))
    (hhead : ∀ c ∈ cs.head?, isWhiteSpace c = false) : Squeezed (lines cs) := by
  by_cases hbreak : '\n' ∈ cs
  · obtain ⟨line, rest, rfl, hline⟩ := List.eq_append_cons_of_mem hbreak
    rw [← List.append_assoc, lines_append_break, Squeezed, List.isChain_append] at h
    rw [lines_append_break, lines_of_not_mem hline]
    refine List.isChain_append.2 ⟨.singleton line, h.2.1, fun line' hline' _ _ => .inl ?_⟩
    obtain rfl := Option.some.inj hline'
    cases line with
    | nil => exact absurd (hhead '\n' rfl) (by simp [lineFeed_white])
    | cons c line => exact isBlank_eq_false List.mem_cons_self (hhead c rfl)
  · rw [lines_of_not_mem hbreak]
    exact .singleton cs

theorem squeezed_of_append_right (h : Squeezed (lines (cs ++ xs)))
    (hlast : ∀ c ∈ cs.getLast?, isWhiteSpace c = false) : Squeezed (lines cs) := by
  by_cases hbreak : '\n' ∈ cs
  · obtain ⟨line, rest, hcs, hline⟩ := List.eq_append_cons_of_mem (List.mem_reverse.2 hbreak)
    obtain rfl : cs = rest.reverse ++ '\n' :: line.reverse := by
      rw [← List.reverse_reverse cs, hcs]
      simp
    rw [List.append_assoc, List.cons_append, lines_append_break, Squeezed, List.isChain_append] at h
    rw [lines_append_break, lines_of_not_mem (mt List.mem_reverse.1 hline)]
    refine List.isChain_append.2 ⟨h.1, .singleton _, fun _ _ line' hline' => .inr ?_⟩
    obtain rfl := Option.some.inj hline'
    cases line with
    | nil => exact absurd (hlast '\n' (by simp)) (by simp [lineFeed_white])
    | cons c line =>
        refine isBlank_eq_false (List.mem_reverse.2 List.mem_cons_self) (hlast c ?_)
        rw [List.reverse_cons, ← List.cons_append, ← List.append_assoc, List.getLast?_concat]
        rfl
  · rw [lines_of_not_mem hbreak]
    exact .singleton cs

theorem squeezed_trim (h : Squeezed (lines cs)) : Squeezed (lines (trim cs)) := by
  have hdrop : Squeezed (lines (cs.dropWhile isWhiteSpace)) := by
    rw [← List.takeWhile_append_dropWhile (p := isWhiteSpace) (l := cs)] at h
    exact squeezed_of_append_left h (head_dropWhile cs)
  obtain ⟨rest, hrest⟩ := List.rdropWhile_prefix isWhiteSpace (cs.dropWhile isWhiteSpace)
  rw [← hrest] at hdrop
  exact squeezed_of_append_right hdrop (trimmed_trim cs).last

def IsShown (c : Char) : Prop := c = '\n' ∨ isOther c = false ∧ isLineBreak c = false

theorem lineBreak_table : [0xA, 0xB, 0xC, 0xD, 0x85, 0x2028, 0x2029].all (fun n =>
    isWhiteSpace (Char.ofNat n)) = true := by
  decide

theorem isWhiteSpace_of_isLineBreak (h : isLineBreak c = true) : isWhiteSpace c = true := by
  rw [isLineBreak, List.contains_iff_mem] at h
  rw [← Char.ofNat_toNat c]
  exact List.all_eq_true.1 lineBreak_table c.toNat h

theorem isShown_of_not_white (hother : isOther c = false) (hwhite : isWhiteSpace c = false) : IsShown c := by
  refine .inr ⟨hother, Bool.eq_false_iff.2 fun hbreak => ?_⟩
  rw [isWhiteSpace_of_isLineBreak hbreak] at hwhite
  cases hwhite

theorem unifyBreaks_eq_self (h : ∀ c ∈ cs, IsShown c) : unifyBreaks cs = cs := by
  fun_induction unifyBreaks cs with
  | case1 => rfl
  | case2 cs ih =>
      rcases h '\r' List.mem_cons_self with hfeed | ⟨-, hbreak⟩
      · cases hfeed
      · cases hbreak
  | case3 c cs hne hbreak ih =>
      obtain ⟨hc, hcs⟩ := List.forall_mem_cons.1 h
      rcases hc with rfl | ⟨-, hno⟩
      · rw [ih hcs]
      · exact absurd (hbreak.symm.trans hno) Bool.noConfusion
  | case4 c cs hne hbreak hother ih =>
      rcases h c List.mem_cons_self with rfl | ⟨hno, -⟩
      · exact absurd rfl hbreak
      · exact absurd (hother.symm.trans hno) Bool.noConfusion
  | case5 c cs hne hbreak hother ih => rw [ih (List.forall_mem_cons.1 h).2]

theorem forall_mem_unifyBreaks {P : Char → Prop} (hfeed : P '\n') (h : ∀ c ∈ cs, P c) :
    ∀ c ∈ unifyBreaks cs, P c := by
  fun_induction unifyBreaks cs with
  | case1 => exact h
  | case2 cs ih => exact List.forall_mem_cons.2 ⟨hfeed, ih fun c hc => h c (by simp [hc])⟩
  | case3 c cs hne hbreak ih => exact List.forall_mem_cons.2 ⟨hfeed, ih (List.forall_mem_cons.1 h).2⟩
  | case4 c cs hne hbreak hother ih => exact ih (List.forall_mem_cons.1 h).2
  | case5 c cs hne hbreak hother ih =>
      obtain ⟨hc, hcs⟩ := List.forall_mem_cons.1 h
      exact List.forall_mem_cons.2 ⟨hc, ih hcs⟩

theorem isShown_of_mem_unifyBreaks (h : c ∈ unifyBreaks cs) : IsShown c := by
  fun_induction unifyBreaks cs with
  | case1 => cases h
  | case2 cs ih =>
      rcases List.mem_cons.1 h with rfl | h
      · exact .inl rfl
      · exact ih h
  | case3 d cs hne hbreak ih =>
      rcases List.mem_cons.1 h with rfl | h
      · exact .inl rfl
      · exact ih h
  | case4 d cs hne hbreak hother ih => exact ih h
  | case5 d cs hne hbreak hother ih =>
      rcases List.mem_cons.1 h with rfl | h
      · exact .inr ⟨Bool.eq_false_iff.2 hother, Bool.eq_false_iff.2 hbreak⟩
      · exact ih h

/-- A text as it is displayed. -/
structure IsDisplayed (cs : List Char) : Prop where
  trimmed : Trimmed cs
  shown : ∀ c ∈ cs, IsShown c
  squeezed : Squeezed (lines cs)

/-- A text without blank lines in a row and without white space at its ends. -/
def tidy (cs : List Char) : List Char := trim (join '\n' (squeezeBlank false (lines cs)))

theorem clean_eq (text : String) : clean text = .ofList (tidy (unifyBreaks (nfkc text.toList))) := rfl

theorem IsDisplayed.tidy_eq_self (h : IsDisplayed cs) : tidy cs = cs := by
  rw [tidy, squeezeBlank_eq_self h.squeezed (by simp), join_lines, h.trimmed.trim_eq_self]

theorem mem_of_mem_trim (h : c ∈ trim cs) : c ∈ cs :=
  (List.dropWhile_sublist isWhiteSpace).subset ((List.rdropWhile_prefix isWhiteSpace _).subset h)

theorem mem_of_mem_join {separator : Char} (h : c ∈ join separator ls) :
    c = separator ∨ ∃ line ∈ ls, c ∈ line := by
  induction ls with
  | nil => cases h
  | cons line ls ih =>
      by_cases hnil : ls = []
      · subst hnil
        exact .inr ⟨line, List.mem_cons_self, by simpa [join] using h⟩
      · rw [join_cons _ _ hnil, List.mem_append, List.mem_cons] at h
        rcases h with h | rfl | h
        · exact .inr ⟨line, List.mem_cons_self, h⟩
        · exact .inl rfl
        · rcases ih h with hc | ⟨line', hline', hc⟩
          · exact .inl hc
          · exact .inr ⟨line', List.mem_cons_of_mem line hline', hc⟩

theorem mem_join {separator : Char} (hline : line ∈ ls) (hc : c ∈ line) : c ∈ join separator ls := by
  induction ls with
  | nil => cases hline
  | cons line' ls ih =>
      by_cases hnil : ls = []
      · subst hnil
        rw [List.mem_singleton] at hline
        simpa [join, ← hline] using hc
      · rw [join_cons _ _ hnil, List.mem_append, List.mem_cons]
        rcases List.mem_cons.1 hline with rfl | hline
        · exact .inl hc
        · exact .inr (.inr (ih hline))

theorem mem_of_mem_lines (hline : line ∈ lines cs) (hc : c ∈ line) : c ∈ cs := by
  rw [← join_lines cs]
  exact mem_join hline hc

theorem mem_of_mem_tidy (h : c ∈ tidy cs) : c = '\n' ∨ c ∈ cs := by
  refine (mem_of_mem_join (mem_of_mem_trim h)).imp_right fun ⟨line, hline, hc⟩ => ?_
  exact mem_of_mem_lines ((sublist_squeezeBlank false _).subset hline) hc

theorem lines_join_squeezeBlank (cs : List Char) :
    lines (join '\n' (squeezeBlank false (lines cs))) = squeezeBlank false (lines cs) := by
  apply lines_join
  · exact squeezeBlank_ne_nil (lines_ne_nil cs)
  · exact fun line hline => not_mem_of_mem_lines ((sublist_squeezeBlank false _).subset hline)

theorem isDisplayed_tidy (h : ∀ c ∈ cs, IsShown c) : IsDisplayed (tidy cs) := by
  refine ⟨trimmed_trim _, fun c hc => ?_, ?_⟩
  · rcases mem_of_mem_tidy hc with rfl | hc
    · exact .inl rfl
    · exact h c hc
  · apply squeezed_trim
    rw [lines_join_squeezeBlank]
    exact (squeezed_squeezeBlank false _).1

theorem isDisplayed_clean (text : String) : IsDisplayed (clean text).toList := by
  rw [clean_eq, String.toList_ofList]
  exact isDisplayed_tidy fun c hc => isShown_of_mem_unifyBreaks hc

end ContentCode.Text
