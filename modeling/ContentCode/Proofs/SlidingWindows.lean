import ContentCode.Similarity.Windows
import ContentCode.Proofs.Success
import ContentCode.Proofs.TextLimits

/-!
Sliding windows cover what they slide over: the first one begins it, and each later one goes one place
on. The windows of a text can be cut out of its bytes, at the places where its characters start, and
those of an ASCII text are the windows of its bytes.
-/

namespace ContentCode.Windows

open Text

variable {α β : Type} {width n i : Nat} {xs : List α} {w : List α} {cs : List Char} {c : Char}

section slide

@[simp]
theorem length_slide (width n : Nat) (xs : List α) : (slide width n xs).length = n := by
  induction n generalizing xs with
  | zero => rfl
  | succ n ih => rw [slide, List.length_cons, ih]

theorem getElem?_slide (h : i < n) (width : Nat) (xs : List α) :
    (slide width n xs)[i]? = some ((xs.drop i).take width) := by
  induction n generalizing i xs with
  | zero => omega
  | succ n ih =>
      rw [slide]
      cases i with
      | zero => rfl
      | succ i => rw [List.getElem?_cons_succ, ih (Nat.lt_of_succ_lt_succ h), List.drop_tail]

theorem slide_map (f : α → β) (width n : Nat) (xs : List α) :
    slide width n (xs.map f) = (slide width n xs).map (List.map f) := by
  induction n generalizing xs with
  | zero => rfl
  | succ n ih => rw [slide, slide, List.map_cons, List.map_take, ← List.map_tail, ih]

theorem filterMap_getLast?_slide (h : width + n ≤ xs.length) :
    (slide (width + 1) n xs).filterMap List.getLast? = (xs.drop width).take n := by
  induction n generalizing xs with
  | zero => rfl
  | succ n ih =>
      have hlt : width < xs.length := by omega
      have hlast : (xs.take (width + 1)).getLast? = some xs[width] := by
        rw [List.getLast?_take, if_neg (Nat.succ_ne_zero width), Nat.add_sub_cancel,
          List.getElem?_eq_getElem hlt]
        rfl
      rw [slide, List.filterMap_cons_some hlast, ih (by rw [List.length_tail]; omega), List.drop_tail,
        List.drop_eq_getElem_cons hlt, List.take_succ_cons]

theorem subset_of_mem_slide (hw : w ∈ slide width n xs) : w ⊆ xs := by
  induction n generalizing xs with
  | zero => cases hw
  | succ n ih =>
      rw [slide, List.mem_cons] at hw
      rcases hw with rfl | hw
      · exact List.take_subset width xs
      · exact fun x hx => List.mem_of_mem_tail (ih hw hx)

end slide

section windows

/-- What the windows over `xs` are. All of `xs` is one window if it is no longer than that. -/
structure Covers (width : Nat) (xs : List α) (ws : List (List α)) : Prop where
  eq_single : xs.length ≤ width → ws = [xs]
  length_eq : width < xs.length → ws.length = xs.length - width + 1
  getElem?_eq : width < xs.length → ∀ i < ws.length, ws[i]? = some ((xs.drop i).take width)
  rebuilds : ws.headD [] ++ ws.tail.filterMap List.getLast? = xs

theorem windows_of_le (hwidth : 2 ≤ width) (h : xs.length ≤ width) : windows width xs = .ok [xs] := by
  rw [windows, if_neg (Nat.not_lt.2 hwidth), if_pos h]

theorem windows_of_lt (hwidth : 2 ≤ width) (h : width < xs.length) :
    windows width xs = .ok (slide width (xs.length - width + 1) xs) := by
  rw [windows, if_neg (Nat.not_lt.2 hwidth), if_neg (Nat.not_le.2 h)]

theorem exists_covers (hwidth : 2 ≤ width) (xs : List α) :
    ∃ ws, windows width xs = .ok ws ∧ Covers width xs ws := by
  rcases Nat.lt_or_ge width xs.length with hlong | hshort
  · refine ⟨_, windows_of_lt hwidth hlong, ?_, ?_, ?_, ?_⟩
    · intro hshort
      omega
    · intro
      exact length_slide width _ xs
    · intro _ i hi
      rw [length_slide] at hi
      exact getElem?_slide hi width xs
    · obtain ⟨m, rfl⟩ := Nat.exists_eq_add_of_le' (Nat.le_of_succ_le hwidth)
      have hfull : m + (xs.length - (m + 1)) ≤ xs.tail.length := by
        rw [List.length_tail]
        omega
      have hends : (slide (m + 1) (xs.length - (m + 1)) xs.tail).filterMap List.getLast? = xs.drop (m + 1) := by
        rw [filterMap_getLast?_slide hfull, List.drop_tail,
          List.take_of_length_le (by rw [List.length_drop])]
      rw [slide, List.headD_cons, List.tail_cons, hends, List.take_append_drop]
  · refine ⟨_, windows_of_le hwidth hshort, ?_, ?_, ?_, ?_⟩
    · intro
      rfl
    · intro hlong
      omega
    · intro hlong
      omega
    · exact List.append_nil xs

theorem windows_map (f : α → β) (width : Nat) (xs : List α) :
    windows width (xs.map f) = (windows width xs).map (List.map (List.map f)) := by
  simp only [windows, List.length_map, slide_map]
  split_ifs <;> rfl

theorem subset_of_mem_windows {ws : List (List α)} (h : windows width xs = .ok ws) (hw : w ∈ ws) : w ⊆ xs := by
  rw [windows] at h
  split_ifs at h
  · obtain rfl := Except.ok.inj h
    rw [List.mem_singleton.1 hw]
    exact List.Subset.refl xs
  · obtain rfl := Except.ok.inj h
    exact subset_of_mem_slide hw

end windows

section bytes

def startsFrom (place : Nat) : List Char → List Nat
  | [] => []
  | c :: cs => place :: startsFrom (place + c.utf8Size) cs

def starts (text : String) : List Nat := startsFrom 0 text.toList

/-- The windows cut out of the bytes of a text: each begins where a character starts, and ends where the
character `width` places on starts, or at the end of the text if there is none. -/
def cutOut (width : Nat) (text : String) : List (List UInt8) :=
  if (starts text).length ≤ width then [utf8 text]
  else (List.range ((starts text).length - width + 1)).map fun i =>
    ((utf8 text).take ((starts text).getD (i + width) (utf8 text).length)).drop ((starts text).getD i 0)

theorem length_startsFrom (place : Nat) (cs : List Char) : (startsFrom place cs).length = cs.length := by
  induction cs generalizing place with
  | nil => rfl
  | cons c cs ih => rw [startsFrom, List.length_cons, ih, List.length_cons]

theorem length_starts (text : String) : (starts text).length = text.toList.length :=
  length_startsFrom 0 text.toList

theorem getElem?_startsFrom (place : Nat) (h : i < cs.length) :
    (startsFrom place cs)[i]? = some (place + byteCount (cs.take i)) := by
  induction cs generalizing i place with
  | nil => cases h
  | cons c cs ih =>
      rw [startsFrom]
      cases i with
      | zero => rfl
      | succ i =>
          rw [List.getElem?_cons_succ, ih _ (Nat.lt_of_succ_lt_succ h), List.take_succ_cons, byteCount_cons,
            Nat.add_assoc]

theorem getD_starts {text : String} (h : i ≤ text.toList.length) :
    (starts text).getD i (utf8 text).length = byteCount (text.toList.take i) := by
  rw [List.getD_eq_getElem?_getD, starts]
  rcases Nat.lt_or_eq_of_le h with hlt | rfl
  · rw [getElem?_startsFrom 0 hlt, Option.getD_some, Nat.zero_add]
  · rw [List.getElem?_eq_none (Nat.le_of_eq (length_startsFrom 0 _)), Option.getD_none, List.take_length,
      byteCount, String.ofList_toList]

theorem drop_take_utf8 (cs : List Char) (i n : Nat) :
    ((utf8 (.ofList cs)).take (byteCount (cs.take (i + n)))).drop (byteCount (cs.take i)) =
      utf8 (.ofList ((cs.drop i).take n)) := by
  rw [take_utf8 (List.take_prefix _ cs), List.take_add, utf8_append, byteCount, List.drop_left' rfl]

theorem map_utf8_windows {text : String} {ws : List String} (hwidth : 2 ≤ width)
    (h : ofText width text = .ok ws) : ws.map utf8 = cutOut width text := by
  obtain ⟨rows, hrows, hws⟩ := bind_eq_ok.1 h
  obtain rfl := pure_eq_ok.1 hws
  rw [cutOut, length_starts, List.map_map]
  rcases Nat.lt_or_ge width text.toList.length with hlong | hshort
  · rw [windows_of_lt hwidth hlong, Except.ok.injEq] at hrows
    rw [if_neg (Nat.not_le.2 hlong)]
    apply List.ext_getElem?
    intro i
    by_cases hi : i < text.toList.length - width + 1
    · have hstop : i + width ≤ text.toList.length := by omega
      have hstart : (starts text).getD i 0 = byteCount (text.toList.take i) := by
        rw [List.getD_eq_getElem?_getD, starts, getElem?_startsFrom 0 (by omega), Option.getD_some, Nat.zero_add]
      have hbytes := drop_take_utf8 text.toList i width
      rw [String.ofList_toList] at hbytes
      rw [← hrows, List.getElem?_map, getElem?_slide hi, List.getElem?_map, List.getElem?_range hi,
        Option.map_some, Option.map_some, getD_starts hstop, hstart, hbytes]
      rfl
    · rw [← hrows, List.getElem?_eq_none (by rw [List.length_map, length_slide]; omega),
        List.getElem?_eq_none (by rw [List.length_map, List.length_range]; omega)]
  · rw [windows_of_le hwidth hshort, Except.ok.injEq] at hrows
    rw [if_pos hshort, ← hrows, List.map_singleton, Function.comp_apply, String.ofList_toList]

end bytes

section ascii

def IsAscii (cs : List Char) : Prop := ∀ c ∈ cs, c.toNat < 128

def byteOf (c : Char) : UInt8 := UInt8.ofNat c.toNat

theorem IsAscii.of_subset {ds : List Char} (h : IsAscii cs) (hds : ds ⊆ cs) : IsAscii ds :=
  fun c hc => h c (hds hc)

theorem IsAscii.utf8_eq (h : IsAscii cs) : utf8 (.ofList cs) = cs.map byteOf := by
  rw [utf8_ofList, List.map_eq_flatMap]
  refine List.flatMap_congr fun c hc => ?_
  have hc : c.val.toNat ≤ 127 := Nat.le_of_lt_succ (h c hc)
  rw [String.utf8EncodeChar.eq_1]
  exact if_pos hc

theorem ofText_ascii {text : String} (width : Nat) (h : IsAscii text.toList) :
    (ofText width text).map (List.map utf8) = windows width (utf8 text) := by
  have hbytes := h.utf8_eq
  rw [String.ofList_toList] at hbytes
  rw [hbytes, windows_map, ofText]
  cases hws : windows width text.toList with
  | error e => rfl
  | ok ws =>
      have hrows : (ws.map String.ofList).map utf8 = ws.map (List.map byteOf) := by
        rw [List.map_map]
        exact List.map_congr_left fun w hw => (h.of_subset (subset_of_mem_windows hws hw)).utf8_eq
      exact congrArg Except.ok hrows

end ascii

/-- The windows over a text or over bytes cover them, and for a text they are what is cut out of its bytes.
Those of an ASCII text are the same for its bytes. A width below 2 is refused. -/
theorem windows_cover :
    (∀ width, 2 ≤ width → ∀ text, ∃ ws, ofText width text = .ok ws ∧
      Covers width text.toList (ws.map String.toList) ∧ ws.map utf8 = cutOut width text) ∧
    (∀ width, 2 ≤ width → ∀ bytes : List UInt8, ∃ ws, windows width bytes = .ok ws ∧ Covers width bytes ws) ∧
    (∀ width text, IsAscii text.toList →
      (ofText width text).map (List.map utf8) = windows width (utf8 text)) ∧
    ∀ width < 2, ∃ e, (∀ text, ofText width text = .error e) ∧
      (∀ bytes : List UInt8, windows width bytes = .error e) ∧ e.kind = .invalidArgument ∧
      e.message = "Invalid argument: " ++ s!"Sliding window width must be at least 2, got {width}" := by
  refine ⟨fun width hwidth text => ?_, fun width hwidth => exists_covers hwidth,
    fun width text => ofText_ascii width, fun width hwidth => ?_⟩
  · obtain ⟨rows, hrows, hcovers⟩ := exists_covers hwidth text.toList
    have hws : ofText width text = .ok (rows.map String.ofList) := by
      rw [ofText, hrows]
      rfl
    have hback : (rows.map String.ofList).map String.toList = rows := by
      rw [List.map_map]
      exact List.map_id'' (fun w => String.toList_ofList) rows
    exact ⟨_, hws, by rwa [hback], map_utf8_windows hwidth hws⟩
  · have hnarrow {α : Type} (xs : List α) : windows width xs = .error (.narrowWindow width) := if_pos hwidth
    refine ⟨.narrowWindow width, fun text => ?_, hnarrow, rfl, rfl⟩
    rw [ofText, hnarrow]
    rfl

theorem windows_cover_umlauts :
    (∃ ws, ofText 2 "äöß!" = .ok ws ∧ ws.length = 3 ∧ (ws.map String.toList)[1]? = some ['ö', 'ß'] ∧
      ws.map utf8 = cutOut 2 "äöß!") ∧
    (∃ ws, windows 4 [1, 2, 3, (4 : UInt8)] = .ok ws ∧ ws = [[1, 2, 3, 4]]) ∧
    (ofText 3 "abcd").map (List.map utf8) = windows 3 (utf8 "abcd") ∧
    ∃ e, ofText 1 "abcd" = .error e ∧ e.kind = .invalidArgument := by
  obtain ⟨ws, hws, hcovers, hbytes⟩ := windows_cover.1 2 (by decide) "äöß!"
  obtain ⟨rows, hrows, hsingle⟩ := windows_cover.2.1 4 (by decide) [1, 2, 3, 4]
  obtain ⟨e, htext, -, hkind, -⟩ := windows_cover.2.2.2 1 (by decide)
  have hlen : ws.length = 3 := by
    have hcount := hcovers.length_eq (by decide)
    rwa [List.length_map] at hcount
  have hsecond := hcovers.getElem?_eq (by decide) 1 (by rw [List.length_map, hlen]; decide)
  have hascii : IsAscii ['a', 'b', 'c', 'd'] := by simp [IsAscii]
  exact ⟨⟨ws, hws, hlen, hsecond, hbytes⟩, ⟨rows, hrows, hsingle.eq_single (by decide)⟩,
    windows_cover.2.2.1 3 "abcd" hascii, e, htext "abcd", hkind⟩

end ContentCode.Windows
