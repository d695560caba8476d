import ContentCode.Proofs.Titles

/-!
Texts cut to a number of bytes. What is kept of a text is the longest part from the front that fits,
which ends where a search back through the bytes comes upon the first byte of a character; and a text
that is cut twice is cut to the smaller one of the two sizes.
-/

namespace ContentCode.Unicode

variable {cs xs ys : List Char}

theorem trim_append_white (xs : List Char) (h : ∀ c ∈ ys, isWhiteSpace c = true) : trim (xs ++ ys) = trim xs := by
  induction ys using List.reverseRecOn with
  | nil => rw [List.append_nil]
  | append_singleton ys c ih =>
      rw [List.forall_mem_append, List.forall_mem_singleton] at h
      rw [← ih h.1, trim_eq, trim_eq, ← List.append_assoc, List.dropWhile_append]
      by_cases hempty : ((xs ++ ys).dropWhile isWhiteSpace).isEmpty
      · rw [if_pos hempty, List.isEmpty_iff.1 hempty, List.dropWhile_cons_of_pos h.2]
        rfl
      · rw [if_neg hempty, List.rdropWhile_concat_pos _ _ _ h.2]

theorem trim_sublist (cs : List Char) : (trim cs).Sublist cs := by
  rw [trim_eq]
  exact (List.rdropWhile_prefix isWhiteSpace _).sublist.trans (List.dropWhile_sublist isWhiteSpace)

theorem exists_eq_trim_append (h : ∀ c ∈ cs.head?, isWhiteSpace c = false) :
    ∃ white, cs = trim cs ++ white ∧ ∀ c ∈ white, isWhiteSpace c = true := by
  refine ⟨cs.rtakeWhile isWhiteSpace, ?_, fun c => List.mem_rtakeWhile_imp⟩
  rw [trim_eq, dropWhile_eq_self h, List.rdropWhile_append_rtakeWhile]

theorem trim_of_between (h : ∀ c ∈ ys.head?, isWhiteSpace c = false) (hfront : trim ys <+: xs)
    (hback : xs <+: ys) : trim xs = trim ys := by
  obtain ⟨white, hys, hwhite⟩ := exists_eq_trim_append h
  obtain ⟨part, rfl⟩ := hfront
  have hpart : part <+: white := by
    rwa [← List.prefix_append_right_inj (trim ys), ← hys]
  rw [trim_append_white _ fun c hc => hwhite c (hpart.subset hc), (trimmed_trim ys).trim_eq_self]

end ContentCode.Unicode

namespace ContentCode.Text

open Unicode

variable {c : Char} {n m i place start : Nat} {bytes : List UInt8} {cs p q rest : List Char}

section longest

/-- The longest part of a text from the front that takes at most `n` bytes. -/
structure IsLongest (n : Nat) (cs p : List Char) : Prop where
  isPrefix : p <+: cs
  fits : byteCount p ≤ n
  longest : ∀ q, q <+: cs → byteCount q ≤ n → q <+: p

theorem IsLongest.unique (hp : IsLongest n cs p) (hq : IsLongest n cs q) : p = q :=
  (hq.longest p hp.isPrefix hp.fits).eq_of_length_le (hp.longest q hq.isPrefix hq.fits).length_le

theorem IsLongest.lt_next (h : IsLongest n (p ++ c :: rest) p) : n < byteCount p + c.utf8Size := by
  by_contra hfits
  have hlonger : p ++ [c] <+: p := by
    refine h.longest (p ++ [c]) ⟨rest, by simp⟩ ?_
    rw [byteCount_append, byteCount_cons, byteCount_nil]
    omega
  have hlen := hlonger.length_le
  rw [List.length_append, List.length_singleton] at hlen
  omega

theorem isLongest_fitting (n : Nat) (cs : List Char) : IsLongest n cs (fitting n cs) :=
  ⟨fitting_isPrefix n cs, byteCount_fitting_le n cs, fun _ => prefix_fitting⟩

end longest

section search

def isContinuation (b : UInt8) : Bool := 0x80 ≤ b.toNat && b.toNat < 0xC0

def isBoundary (bytes : List UInt8) (place : Nat) : Bool :=
  place = 0 || match bytes[place]? with
    | some b => !isContinuation b
    | none => place = bytes.length

/-- Goes back from a place, one byte at a time, as far as the first boundary; from the front there is no
way back. -/
def lastBoundary? (bytes : List UInt8) : (place : Nat) → Option Nat
  | 0 => if isBoundary bytes 0 then some 0 else none
  | place + 1 => if isBoundary bytes (place + 1) then some (place + 1) else lastBoundary? bytes place

theorem isContinuation_ofNat {v : Nat} (hv : v < 256) :
    isContinuation (UInt8.ofNat v) = (decide (128 ≤ v) && decide (v < 192)) := by
  rw [isContinuation, UInt8.toNat_ofNat', Nat.mod_eq_of_lt hv]

theorem exists_first_byte (c : Char) : ∃ b bs, String.utf8EncodeChar c = b :: bs ∧
    isContinuation b = false ∧ ∀ b ∈ bs, isContinuation b = true := by
  have hfirst {v : Nat} (hv : v < 256) (h : v < 128 ∨ 192 ≤ v) : isContinuation (UInt8.ofNat v) = false := by
    rw [isContinuation_ofNat hv, Bool.and_eq_false_iff, decide_eq_false_iff_not, decide_eq_false_iff_not]
    omega
  have hother {bs : List UInt8} (h : ∀ b ∈ bs, isContinuation b = true) (v : Nat) :
      ∀ b ∈ UInt8.ofNat (v % 64 + 128) :: bs, isContinuation b = true := by
    refine List.forall_mem_cons.2 ⟨?_, h⟩
    rw [isContinuation_ofNat (by omega), Bool.and_eq_true_iff, decide_eq_true_iff, decide_eq_true_iff]
    omega
  have hnil : ∀ b ∈ [], isContinuation b = true := List.forall_mem_nil _
  rw [String.utf8EncodeChar.eq_1]
  split_ifs
  · exact ⟨_, _, rfl, hfirst (by omega) (by omega), hnil⟩
  · exact ⟨_, _, rfl, hfirst (by omega) (by omega), hother hnil _⟩
  · exact ⟨_, _, rfl, hfirst (by omega) (by omega), hother (hother hnil _) _⟩
  · exact ⟨_, _, rfl, hfirst (by omega) (by omega), hother (hother (hother hnil _) _) _⟩

theorem getElem?_utf8 (p rest : List Char) (hi : i < c.utf8Size) :
    (utf8 (.ofList (p ++ c :: rest)))[byteCount p + i]? = (String.utf8EncodeChar c)[i]? := by
  rw [utf8_append, List.getElem?_append_right (show byteCount p ≤ byteCount p + i from Nat.le_add_right _ _),
    show byteCount p + i - (utf8 (.ofList p)).length = i from Nat.add_sub_cancel_left _ _, utf8_cons,
    List.getElem?_append_left (by rwa [String.length_utf8EncodeChar])]

theorem isBoundary_byteCount (p rest : List Char) : isBoundary (utf8 (.ofList (p ++ rest))) (byteCount p) = true := by
  rw [isBoundary, Bool.or_eq_true]
  right
  cases rest with
  | nil => rw [List.append_nil, byteCount, List.getElem?_eq_none (Nat.le_refl _), decide_eq_true_iff]
  | cons c rest =>
      obtain ⟨b, bs, hbytes, hb, -⟩ := exists_first_byte c
      have hbyte := getElem?_utf8 p rest c.utf8Size_pos
      rw [hbytes, Nat.add_zero, List.getElem?_cons_zero] at hbyte
      rw [hbyte, Bool.not_eq_true']
      exact hb

theorem isBoundary_inside (p rest : List Char) (hpos : 0 < i) (hi : i < c.utf8Size) :
    isBoundary (utf8 (.ofList (p ++ c :: rest))) (byteCount p + i) = false := by
  obtain ⟨b, bs, hbytes, -, hbs⟩ := exists_first_byte c
  obtain ⟨j, rfl⟩ := Nat.exists_eq_add_of_le' hpos
  have hlen := String.length_utf8EncodeChar c
  rw [hbytes, List.length_cons] at hlen
  have hj : j < bs.length := by omega
  have hbyte := getElem?_utf8 p rest hi
  rw [hbytes, List.getElem?_cons_succ, List.getElem?_eq_getElem hj] at hbyte
  rw [isBoundary, hbyte, decide_eq_false (by omega), Bool.false_or, Bool.not_eq_false']
  exact hbs _ (List.getElem_mem hj)

theorem lastBoundary?_eq (hplace : isBoundary bytes place = true) (hle : place ≤ start)
    (hbetween : ∀ i, place < i → i ≤ start → isBoundary bytes i = false) :
    lastBoundary? bytes start = some place := by
  induction start with
  | zero =>
      obtain rfl := Nat.le_zero.1 hle
      rw [lastBoundary?, if_pos hplace]
  | succ start ih =>
      rw [lastBoundary?]
      rcases Nat.lt_or_eq_of_le hle with hlt | rfl
      · rw [hbetween (start + 1) hlt (Nat.le_refl _), if_neg Bool.false_ne_true,
          ih (by omega) fun i hlow hhigh => hbetween i hlow (by omega)]
      · rw [if_pos hplace]

/-- The search ends behind the longest part of the text that fits: all the places that it passes are
inside the next character. -/
theorem IsLongest.lastBoundary? (h : IsLongest n cs p) :
    lastBoundary? (utf8 (.ofList cs)) (min n (byteCount cs)) = some (byteCount p) := by
  obtain ⟨rest, rfl⟩ := h.isPrefix
  apply lastBoundary?_eq (isBoundary_byteCount p rest)
  · exact Nat.le_min.2 ⟨h.fits, byteCount_le_of_sublist (List.sublist_append_left p rest)⟩
  · intro i hlow hhigh
    rw [Nat.le_min] at hhigh
    cases rest with
    | nil =>
        rw [List.append_nil] at hhigh
        omega
    | cons c rest =>
        obtain ⟨j, rfl⟩ := Nat.exists_eq_add_of_lt hlow
        rw [Nat.add_assoc]
        exact isBoundary_inside p rest (Nat.succ_pos j) (by have hnext := h.lt_next; omega)

theorem take_utf8 (h : p <+: cs) : (utf8 (.ofList cs)).take (byteCount p) = utf8 (.ofList p) := by
  obtain ⟨rest, rfl⟩ := h
  rw [utf8_append, byteCount, List.take_left' rfl]

end search

theorem byteCount_cut_le (n : Nat) (cs : List Char) : byteCount (cut n cs) ≤ n :=
  (byteCount_le_of_sublist (trim_sublist _)).trans (byteCount_fitting_le n cs)

theorem cut_cut_self (n : Nat) (cs : List Char) : cut n (cut n cs) = cut n cs :=
  cut_eq_self (trimmed_cut n cs) (fitting_eq_self (byteCount_cut_le n cs))

theorem cut_cut (h : ∀ c ∈ cs.head?, isWhiteSpace c = false) (hle : n ≤ m) : cut n (cut m cs) = cut n cs := by
  have hm := isLongest_fitting m cs
  have hn := isLongest_fitting n cs
  have hhead := head_of_isPrefix hm.isPrefix h
  have hcut : cut m cs <+: fitting m cs := trim_isPrefix hhead
  have hinner : fitting n cs <+: fitting m cs := hm.longest _ hn.isPrefix (hn.fits.trans hle)
  rcases List.prefix_or_prefix_of_prefix hinner hcut with hfirst | hsecond
  · -- what the smaller size leaves room for is untouched by the first cut
    have hsame : IsLongest n (cut m cs) (fitting n cs) :=
      ⟨hfirst, hn.fits, fun q hq => hn.longest q (hq.trans (hcut.trans hm.isPrefix))⟩
    rw [cut, (isLongest_fitting n (cut m cs)).unique hsame, cut]
  · -- the first cut has trimmed the text to no more than the smaller size
    have hfits : fitting n (cut m cs) = cut m cs := fitting_of_prefix hsecond
    rw [cut_eq_self (trimmed_cut m cs) hfits]
    exact (trim_of_between hhead hsecond hinner).symm

/-- A text that is cut to `n` bytes is the longest part from the front that takes no more of them, without
white space at its ends. That part ends at the place that is found by going back to a boundary from byte
`n`, or from the end. Cutting once more to the same size changes nothing, and a text that does not begin
with white space may be cut to any larger size before. -/
theorem truncate_longest (text : String) (n : Nat) :
    (∃ p, IsLongest n text.toList p ∧ truncate text n = .ofList (trim p) ∧
      ∃ place, lastBoundary? (utf8 text) (min n (utf8 text).length) = some place ∧
        (utf8 text).take place = utf8 (.ofList p)) ∧
    (utf8 (truncate text n)).length ≤ n ∧
    truncate (truncate text n) n = truncate text n ∧
    ((∀ c ∈ text.toList.head?, isWhiteSpace c = false) → ∀ m, n ≤ m →
      truncate (truncate text m) n = truncate text n) := by
  have hlongest := isLongest_fitting n text.toList
  refine ⟨⟨fitting n text.toList, hlongest, rfl, byteCount (fitting n text.toList), ?_, ?_⟩, ?_, ?_, ?_⟩
  · have hsearch := hlongest.lastBoundary?
    rwa [byteCount, String.ofList_toList] at hsearch
  · have htake := take_utf8 hlongest.isPrefix
    rwa [String.ofList_toList] at htake
  · exact byteCount_cut_le n text.toList
  · rw [truncate_eq, truncate_eq, String.toList_ofList, cut_cut_self]
  · intro h m hle
    rw [truncate_eq, truncate_eq, truncate_eq, String.toList_ofList, cut_cut h hle]

theorem truncate_longest_umlauts :
    (∃ place, lastBoundary? (utf8 "aä ö") (min 5 (utf8 "aä ö").length) = some place) ∧
    truncate (truncate "aä ö" 5) 2 = truncate "aä ö" 2 := by
  have hhead : ∀ c ∈ "aä ö".toList.head?, isWhiteSpace c = false := by
    intro c hc
    obtain rfl : 'a' = c := Option.some.inj hc
    rfl
  obtain ⟨⟨p, -, -, place, hplace, -⟩, -⟩ := truncate_longest "aä ö" 5
  exact ⟨⟨place, hplace⟩, (truncate_longest "aä ö" 2).2.2.2 hhead 5 (by decide)⟩

end ContentCode.Text
