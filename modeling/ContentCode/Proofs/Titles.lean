import ContentCode.Proofs.DisplayedText

/-!
Cutting texts to a size, and titles: words with single spaces between. What is left of a displayed
text or of a title is one again.
-/

namespace ContentCode.Text

open Unicode

variable {c : Char} {n : Nat} {cs xs ys p q word : List Char} {ws : List (List Char)}

section size

def byteCount (cs : List Char) : Nat := (utf8 (.ofList cs)).length

theorem utf8_ofList (cs : List Char) : utf8 (.ofList cs) = cs.flatMap String.utf8EncodeChar := by
  rw [utf8, String.toList_ofList]

theorem utf8_append (xs ys : List Char) : utf8 (.ofList (xs ++ ys)) = utf8 (.ofList xs) ++ utf8 (.ofList ys) := by
  rw [utf8_ofList, List.flatMap_append, ← utf8_ofList, ← utf8_ofList]

theorem utf8_cons (c : Char) (cs : List Char) :
    utf8 (.ofList (c :: cs)) = String.utf8EncodeChar c ++ utf8 (.ofList cs) := by
  rw [utf8_ofList, List.flatMap_cons, ← utf8_ofList]

@[simp]
theorem byteCount_nil : byteCount [] = 0 := rfl

@[simp]
theorem byteCount_cons (c : Char) (cs : List Char) : byteCount (c :: cs) = c.utf8Size + byteCount cs := by
  rw [byteCount, utf8_cons, List.length_append, String.length_utf8EncodeChar, byteCount]

@[simp]
theorem byteCount_append (xs ys : List Char) : byteCount (xs ++ ys) = byteCount xs + byteCount ys := by
  rw [byteCount, utf8_append, List.length_append, byteCount, byteCount]

theorem byteCount_le_of_sublist (h : p.Sublist cs) : byteCount p ≤ byteCount cs := by
  induction h with
  | slnil => exact Nat.le_refl 0
  | cons c _ ih =>
      rw [byteCount_cons]
      omega
  | cons_cons c _ ih =>
      rw [byteCount_cons, byteCount_cons]
      omega

end size

/-- The first part of a text that takes at most `n` bytes, without white space at its ends. -/
def cut (n : Nat) (cs : List Char) : List Char := trim (fitting n cs)

theorem truncate_eq (text : String) (n : Nat) : truncate text n = .ofList (cut n text.toList) := rfl

theorem fitting_isPrefix (n : Nat) (cs : List Char) : fitting n cs <+: cs := by
  induction cs generalizing n with
  | nil => exact List.prefix_rfl
  | cons c cs ih =>
      rw [fitting]
      by_cases hc : c.utf8Size ≤ n
      · rw [if_pos hc]
        exact (List.prefix_cons_inj c).2 (ih _)
      · rw [if_neg hc]
        exact List.nil_prefix

theorem byteCount_fitting_le (n : Nat) (cs : List Char) : byteCount (fitting n cs) ≤ n := by
  induction cs generalizing n with
  | nil => exact Nat.zero_le n
  | cons c cs ih =>
      rw [fitting]
      by_cases hc : c.utf8Size ≤ n
      · rw [if_pos hc, byteCount_cons]
        have hrest := ih (n - c.utf8Size)
        omega
      · rw [if_neg hc]
        exact Nat.zero_le n

theorem prefix_fitting (h : q <+: cs) (hfits : byteCount q ≤ n) : q <+: fitting n cs := by
  induction cs generalizing n q with
  | nil => exact h
  | cons c cs ih =>
      cases q with
      | nil => exact List.nil_prefix
      | cons d q =>
          obtain ⟨rfl, hq⟩ := List.cons_prefix_cons.1 h
          rw [byteCount_cons] at hfits
          rw [fitting, if_pos (by omega)]
          exact (List.prefix_cons_inj d).2 (ih hq (by omega))

theorem fitting_eq_self (h : byteCount cs ≤ n) : fitting n cs = cs :=
  (fitting_isPrefix n cs).eq_of_length_le (prefix_fitting List.prefix_rfl h).length_le

theorem fitting_of_prefix (h : p <+: fitting n cs) : fitting n p = p :=
  fitting_eq_self ((byteCount_le_of_sublist h.sublist).trans (byteCount_fitting_le n cs))

theorem cut_isPrefix_fitting (h : Trimmed cs) (n : Nat) : cut n cs <+: fitting n cs :=
  trim_isPrefix (head_of_isPrefix (fitting_isPrefix n cs) h.head)

theorem cut_isPrefix (h : Trimmed cs) (n : Nat) : cut n cs <+: cs :=
  (cut_isPrefix_fitting h n).trans (fitting_isPrefix n cs)

theorem trimmed_cut (n : Nat) (cs : List Char) : Trimmed (cut n cs) := trimmed_trim _

theorem cut_eq_self (h : Trimmed cs) (hfits : fitting n cs = cs) : cut n cs = cs := by
  rw [cut, hfits, h.trim_eq_self]

theorem fitting_cut (h : Trimmed cs) (n : Nat) : fitting n (cut n cs) = cut n cs :=
  fitting_of_prefix (cut_isPrefix_fitting h n)

theorem cut_ne_nil (h : Trimmed cs) (hne : cs ≠ []) (hn : 4 ≤ n) : cut n cs ≠ [] := by
  cases cs with
  | nil => exact hne
  | cons c cs =>
      have hc : isWhiteSpace c = false := h.head c rfl
      rw [cut, fitting, if_pos (c.utf8Size_le_four.trans hn)]
      intro hnil
      rw [trim_eq, List.dropWhile_cons_of_neg (by simp [hc]), List.rdropWhile_eq_nil_iff] at hnil
      exact absurd (hnil c List.mem_cons_self) (by simp [hc])

theorem IsDisplayed.of_prefix (h : IsDisplayed cs) (hp : p <+: cs) (htrimmed : Trimmed p) : IsDisplayed p := by
  obtain ⟨rest, rfl⟩ := hp
  exact ⟨htrimmed, fun c hc => h.shown c (List.mem_append_left rest hc),
    squeezed_of_append_right h.squeezed htrimmed.last⟩

/-- Words with single spaces between. -/
def IsTitle (cs : List Char) : Prop := ∃ ws, (∀ word ∈ ws, IsWord word) ∧ cs = join ' ' ws

theorem isTitle_join_words (cs : List Char) : IsTitle (join ' ' (words cs)) :=
  ⟨words cs, fun _ => isWord_of_mem_words, rfl⟩

theorem IsTitle.join_words (h : IsTitle cs) : join ' ' (words cs) = cs := by
  obtain ⟨ws, hws, rfl⟩ := h
  rw [words_join hws]

theorem IsTitle.eq_space (h : IsTitle cs) (hc : c ∈ cs) (hwhite : isWhiteSpace c = true) : c = ' ' := by
  obtain ⟨ws, hws, rfl⟩ := h
  rcases mem_of_mem_join hc with rfl | ⟨word, hword, hc⟩
  · rfl
  · rw [(hws word hword).2 c hc] at hwhite
    cases hwhite

theorem IsTitle.trimmed (h : IsTitle cs) : Trimmed cs := by
  obtain ⟨ws, hws, rfl⟩ := h
  induction ws with
  | nil => exact trimmed_nil
  | cons word ws ih =>
      obtain ⟨hword, hws⟩ := List.forall_mem_cons.1 hws
      by_cases hnil : ws = []
      · subst hnil
        rw [show join ' ' [word] = word from List.append_nil word]
        exact hword.trimmed
      · rw [join_cons _ _ hnil]
        apply trimmed_append hword.trimmed (ih hws) hword.1
        intro hjoin
        rw [← words_join hws, hjoin] at hnil
        exact hnil rfl

theorem IsTitle.isDisplayed (h : IsTitle cs) (hother : ∀ c ∈ cs, isOther c = false) : IsDisplayed cs := by
  refine ⟨h.trimmed, fun c hc => ?_, ?_⟩
  · cases hwhite : isWhiteSpace c with
    | false => exact isShown_of_not_white (hother c hc) hwhite
    | true => exact .inr ⟨hother c hc, h.eq_space hc hwhite ▸ rfl⟩
  · rw [lines_of_not_mem fun hc => absurd (h.eq_space hc lineFeed_white) (by decide)]
    exact .singleton cs

theorem exists_of_prefix_word (hword : IsWord word) (h : p <+: word) :
    ∃ ws, (∀ word ∈ ws, IsWord word) ∧ (p = join ' ' ws ∨ ws ≠ [] ∧ p = join ' ' ws ++ [' ']) := by
  by_cases hnil : p = []
  · exact ⟨[], by simp, .inl hnil⟩
  · refine ⟨[p], List.forall_mem_singleton.2 ⟨hnil, fun c hc => hword.2 c (h.subset hc)⟩, .inl ?_⟩
    exact (List.append_nil p).symm

theorem exists_of_prefix_join (hws : ∀ word ∈ ws, IsWord word) (h : p <+: join ' ' ws) :
    ∃ ws', (∀ word ∈ ws', IsWord word) ∧ (p = join ' ' ws' ∨ ws' ≠ [] ∧ p = join ' ' ws' ++ [' ']) := by
  induction ws generalizing p with
  | nil => exact ⟨[], by simp, .inl (List.prefix_nil.1 h)⟩
  | cons word ws ih =>
      obtain ⟨hfirst, hws⟩ := List.forall_mem_cons.1 hws
      by_cases hnil : ws = []
      · subst hnil
        exact exists_of_prefix_word hfirst (by simpa [join] using h)
      · rw [join_cons _ _ hnil] at h
        rcases List.prefix_or_prefix_of_prefix h (List.prefix_append word _) with hp | ⟨rest, rfl⟩
        · exact exists_of_prefix_word hfirst hp
        · rw [List.prefix_append_right_inj] at h
          cases rest with
          | nil => exact exists_of_prefix_word hfirst (by simp)
          | cons space rest =>
              obtain ⟨rfl, hrest⟩ := List.cons_prefix_cons.1 h
              obtain ⟨ws', hws', hrest⟩ := ih hws hrest
              by_cases hnil' : ws' = []
              · subst hnil'
                obtain rfl : rest = [] := hrest.resolve_right fun hconcat => hconcat.1 rfl
                refine ⟨[word], List.forall_mem_singleton.2 hfirst, .inr ⟨List.cons_ne_nil word [], ?_⟩⟩
                simp [join]
              · refine ⟨word :: ws', List.forall_mem_cons.2 ⟨hfirst, hws'⟩, ?_⟩
                rw [join_cons _ _ hnil']
                rcases hrest with rfl | ⟨-, rfl⟩
                · exact .inl rfl
                · exact .inr ⟨List.cons_ne_nil word ws', by simp⟩

theorem IsTitle.of_prefix (h : IsTitle cs) (hp : p <+: cs) (htrimmed : Trimmed p) : IsTitle p := by
  obtain ⟨ws, hws, rfl⟩ := h
  obtain ⟨ws', hws', rfl | ⟨-, rfl⟩⟩ := exists_of_prefix_join hws hp
  · exact ⟨ws', hws', rfl⟩
  · have hlast := htrimmed.last ' ' (by simp)
    rw [show isWhiteSpace ' ' = true from rfl] at hlast
    cases hlast

end ContentCode.Text
