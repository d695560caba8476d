import ContentCode.Proofs.JsonNumbers

/-!
Written values as tokens. A value without floating-point numbers is written as the tokens that it is
made of: behind each of them the scanner is where it can go on with the next one.
-/

namespace ContentCode.Json

variable {c : Char} {t : Token} {read cs rest : List Char} {i : Int} {v : Value} {n : Nat}

mutual

def Value.tokens : Value → List Token
  | .null => [.null]
  | .bool b => [.bool b]
  | .number n => [.number n]
  | .string s => [.string s]
  | .array [] => [.openArray, .closeArray]
  | .array (v :: items) => .openArray :: (v.tokens ++ itemTokens items)
  | .object [] => [.openObject, .closeObject]
  | .object ((k, v) :: entries) =>
    .openObject :: .string k :: .colon :: (v.tokens ++ entryTokens entries)

def itemTokens : List Value → List Token
  | [] => [.closeArray]
  | v :: items => .comma :: (v.tokens ++ itemTokens items)

def entryTokens : List (List Char × Value) → List Token
  | [] => [.closeObject]
  | (k, v) :: entries => .comma :: .string k :: .colon :: (v.tokens ++ entryTokens entries)

end

/-- A value of integers that fit 64 bits, with at most `n` arrays and objects around each other. -/
inductive Value.Fits : Nat → Value → Prop
  | null {n : Nat} : Fits n .null
  | bool {n : Nat} (b : Bool) : Fits n (.bool b)
  | integer {n : Nat} {i : Int} (h : FitsWord i) : Fits n (.number (.integer i))
  | string {n : Nat} (s : List Char) : Fits n (.string s)
  | array {n : Nat} {items : List Value} (h : ∀ v ∈ items, Fits n v) : Fits (n + 1) (.array items)
  | object {n : Nat} {entries : List (List Char × Value)} (h : ∀ e ∈ entries, Fits n e.2) :
      Fits (n + 1) (.object entries)

def Ascends (entries : List (List Char × Value)) : Prop := entries.Pairwise fun e e' => e.1 < e'.1

/-- Such a value with the keys of its objects in ascending order. -/
inductive IsCanonical : Nat → Value → Prop
  | null {n : Nat} : IsCanonical n .null
  | bool {n : Nat} (b : Bool) : IsCanonical n (.bool b)
  | integer {n : Nat} {i : Int} (h : FitsWord i) : IsCanonical n (.number (.integer i))
  | string {n : Nat} (s : List Char) : IsCanonical n (.string s)
  | array {n : Nat} {items : List Value} (h : ∀ v ∈ items, IsCanonical n v) :
      IsCanonical (n + 1) (.array items)
  | object {n : Nat} {entries : List (List Char × Value)}
      (hkeys : Ascends entries) (h : ∀ e ∈ entries, IsCanonical n e.2) :
      IsCanonical (n + 1) (.object entries)

theorem IsCanonical.fits (h : IsCanonical n v) : v.Fits n := by
  induction h with
  | null => exact .null
  | bool b => exact .bool b
  | integer hi => exact .integer hi
  | string s => exact .string s
  | array _ ih => exact .array ih
  | object _ _ ih => exact .object ih

/-- What can follow a value: the end of the text, of a part of it, or of a line. -/
def EndsValue : List Char → Prop
  | [] => True
  | c :: _ => c = ',' ∨ c = ']' ∨ c = '\x7d' ∨ c = '\n'

theorem bind_cons (x : Option (List Token)) (t : Token) :
    (x.bind fun ts => some (t :: ts)) = x.map (t :: ·) := by
  cases x <;> rfl

theorem scan_mark (h : punctuation? c = some t) (cs : List Char) :
    scan .between (c :: cs) = (scan .between cs).map (t :: ·) := by
  rw [← bind_cons]
  unfold punctuation? at h
  split at h <;> cases h <;> rfl

theorem scan_space (h : isSpace c = true) (cs : List Char) : scan .between (c :: cs) = scan .between cs := by
  simp only [isSpace, Bool.or_eq_true, decide_eq_true_eq] at h
  rcases h with ((rfl | rfl) | rfl) | rfl <;>
  · change (scan .between cs).bind (fun ts => some ts) = _
    cases scan .between cs <;> rfl

theorem scan_quote (cs : List Char) : scan .between ('"' :: cs) = scan (.inString [] none) cs := by
  change (scan (.inString [] none) cs).bind (fun ts => some ts) = _
  cases scan (.inString [] none) cs <;> rfl

theorem scan_endQuote (read cs : List Char) : scan (.inString read none) ('"' :: cs) =
    (scan .between cs).map (.string read.reverse :: ·) := by
  rw [← bind_cons]
  rfl

theorem unitValue_write : ∀ u < 0x20,
    unitValue? '0' '0' (hexDigit (u / 16)) (hexDigit (u % 16)) = some u := by
  decide +kernel

theorem scan_writeChar (read : List Char) (c : Char) (rest : List Char) :
    scan (.inString read none) (writeChar c ++ rest) = scan (.inString (c :: read) none) rest := by
  have hcode {n : Nat} (hn : c.toNat = n) : c = Char.ofNat n := by rw [← hn, Char.ofNat_toNat]
  fun_cases writeChar c with
  | case1 hc => rw [hc]; rfl
  | case2 _ hc => rw [hc]; rfl
  | case3 _ _ hc => rw [hcode hc]; rfl
  | case4 _ _ _ hc => rw [hcode hc]; rfl
  | case5 _ _ _ _ hc => rw [hc]; rfl
  | case6 _ _ _ _ _ hc => rw [hc]; rfl
  | case7 _ _ _ _ _ _ hc => rw [hc]; rfl
  | case8 _ _ _ _ _ _ _ hcontrol =>
      have hunit : afterUnit read none c.toNat = some (.inString (c :: read) none) := by
        rw [afterUnit, if_neg (by omega), if_neg (by omega), Char.ofNat_toNat]
      simp only [List.cons_append, List.nil_append, scan, unitValue_write _ hcontrol, hunit, bind, Option.bind]
  | case9 hquote hbackslash _ _ _ _ _ hcontrol =>
      rw [List.singleton_append, scan, if_neg hquote, if_neg (not_or.2 ⟨hcontrol, hbackslash⟩)]
      · exact fun _ _ _ _ _ hc => absurd hc hbackslash
      · exact fun _ _ hc => absurd hc hbackslash

theorem scan_writeString (s rest : List Char) : scan .between (writeString s ++ rest) =
    (scan .between rest).map (.string s :: ·) := by
  have hcontent (read : List Char) : scan (.inString read none) (s.flatMap writeChar ++ ('"' :: rest)) =
      scan (.inString (s.reverse ++ read) none) ('"' :: rest) := by
    induction s generalizing read with
    | nil => rfl
    | cons c s ih =>
        rw [List.flatMap_cons, List.append_assoc, scan_writeChar, ih, List.reverse_cons, List.append_assoc,
          List.singleton_append]
  rw [writeString, List.cons_append, List.cons_append, List.append_assoc, List.singleton_append, scan_quote,
    hcontent, scan_endQuote, List.append_nil, List.reverse_reverse]

theorem scan_inNumeral (h : ∀ c ∈ cs, inNumeral c = true) (read rest : List Char) :
    scan (.inNumber read) (cs ++ rest) = scan (.inNumber (cs.reverse ++ read)) rest := by
  induction cs generalizing read with
  | nil => rfl
  | cons c cs ih =>
      obtain ⟨hc, hcs⟩ := List.forall_mem_cons.1 h
      rw [List.cons_append, scan, if_pos hc, ih hcs, List.reverse_cons, List.append_assoc,
        List.singleton_append]

theorem scan_endNumber (h : EndsValue rest) (hread : finishNumber read = some t) :
    scan (.inNumber read) rest = (scan .between rest).map (t :: ·) := by
  cases rest with
  | nil =>
      change (finishNumber read).bind (fun t => some [t]) = _
      rw [hread]
      rfl
  | cons c rest =>
      have hend : inNumeral c = false ∧ ∃ us, scanBetween c = some (us, .between) ∧
          scan .between (c :: rest) = (scan .between rest).map (us ++ ·) := by
        rcases h with rfl | rfl | rfl | rfl
        · exact ⟨by decide, _, rfl, scan_mark rfl rest⟩
        · exact ⟨by decide, _, rfl, scan_mark rfl rest⟩
        · exact ⟨by decide, _, rfl, scan_mark rfl rest⟩
        · exact ⟨by decide, _, rfl, (scan_space rfl rest).trans Option.map_id'.symm⟩
      obtain ⟨hnumeral, us, hbetween, hscan⟩ := hend
      rw [hscan, scan, if_neg (by rw [hnumeral]; exact Bool.false_ne_true), hread, hbetween]
      change (scan .between rest).bind (fun ts => some (t :: us ++ ts)) = _
      cases scan .between rest <;> rfl

theorem scan_startNumber (h : startsNumber c = true) (cs : List Char) :
    scan .between (c :: cs) = scan (.inNumber [c]) cs := by
  have hne {d : Char} (hd : startsNumber d = false) : c ≠ d := by
    rintro rfl
    rw [h] at hd
    cases hd
  have hbetween : scanBetween c = some ([], .inNumber [c]) := by
    simp only [scanBetween, isSpace, hne (d := ' ') rfl, hne (d := '\t') rfl, hne (d := '\n') rfl,
      hne (d := '\r') rfl, hne (d := '"') rfl, decide_false, Bool.or_false, Bool.false_eq_true, if_false, h,
      if_true]
  rw [scan, hbetween]
  · change (scan (.inNumber [c]) cs).bind (fun ts => some ts) = _
    cases scan (.inNumber [c]) cs <;> rfl
  · exact fun _ hc => absurd hc (hne rfl)
  · exact fun _ hc => absurd hc (hne rfl)
  · exact fun _ hc => absurd hc (hne rfl)

theorem write_integer (i : Int) : ∃ c cs, (Number.integer i).write = c :: cs ∧ startsNumber c = true ∧
    ∀ d ∈ cs, inNumeral d = true := by
  have hdigits : ∀ d ∈ Decimal.digits i.natAbs, startsNumber d = true ∧ inNumeral d = true := by
    intro d hd
    simp [startsNumber, inNumeral, Decimal.isDigit_of_mem_digits hd]
  rw [Number.write]
  by_cases hsign : i < 0
  · rw [if_pos hsign]
    exact ⟨'-', _, rfl, rfl, fun d hd => (hdigits d hd).2⟩
  · rw [if_neg hsign]
    obtain ⟨c, cs, hcs⟩ := List.exists_cons_of_ne_nil (Decimal.digits_ne_nil i.natAbs)
    rw [hcs, List.forall_mem_cons] at hdigits
    exact ⟨c, cs, hcs, hdigits.1.1, fun d hd => (hdigits.2 d hd).2⟩

theorem scan_number (h : FitsWord i) (hrest : EndsValue rest) :
    scan .between ((Number.integer i).write ++ rest) =
      (scan .between rest).map (.number (.integer i) :: ·) := by
  obtain ⟨c, cs, hwrite, hc, hcs⟩ := write_integer i
  have hread := finishNumber_write h
  rw [hwrite, List.reverse_cons] at hread
  rw [hwrite, List.cons_append, ← scan_endNumber hrest hread, scan_startNumber hc, scan_inNumeral hcs]

theorem endsValue_writeItems (items : List Value) (rest : List Char) :
    EndsValue (writeItems items ++ rest) := by
  cases items with
  | nil => exact .inr (.inl rfl)
  | cons v items => exact .inl rfl

theorem endsValue_writeEntries (entries : List (List Char × Value)) (rest : List Char) :
    EndsValue (writeEntries entries ++ rest) := by
  cases entries with
  | nil => exact .inr (.inr (.inl rfl))
  | cons e entries => exact .inl rfl

/-- In front of whatever can follow a value, the text `cs` has the tokens `ts`. -/
def Scans (cs : List Char) (ts : List Token) : Prop :=
  ∀ rest, EndsValue rest → scan .between (cs ++ rest) = (scan .between rest).map (ts ++ ·)

theorem scans_writeItems {items : List Value} (h : ∀ v ∈ items, Scans v.write v.tokens) :
    Scans (writeItems items) (itemTokens items) := by
  induction items with
  | nil => exact fun rest _ => scan_mark rfl rest
  | cons v items ih =>
      intro rest hrest
      obtain ⟨hv, hitems⟩ := List.forall_mem_cons.1 h
      rw [writeItems, itemTokens, List.cons_append, List.cons_append, List.append_assoc,
        scan_mark (t := .comma) rfl, hv _ (endsValue_writeItems items rest), ih hitems rest hrest]
      simp [Function.comp_def]

theorem scans_entry {k : List Char} (h : Scans v.write v.tokens) (hrest : EndsValue rest) :
    scan .between (writeString k ++ ':' :: (v.write ++ rest)) =
      (scan .between rest).map fun ts => .string k :: .colon :: (v.tokens ++ ts) := by
  rw [scan_writeString, scan_mark (t := .colon) rfl, h rest hrest]
  simp [Function.comp_def]

theorem scans_writeEntries {entries : List (List Char × Value)}
    (h : ∀ e ∈ entries, Scans e.2.write e.2.tokens) :
    Scans (writeEntries entries) (entryTokens entries) := by
  induction entries with
  | nil => exact fun rest _ => scan_mark rfl rest
  | cons e entries ih =>
      intro rest hrest
      obtain ⟨k, v⟩ := e
      obtain ⟨hv, hentries⟩ := List.forall_mem_cons.1 h
      have hentry := scans_entry (k := k) hv (endsValue_writeEntries entries rest)
      simp only [writeEntries, entryTokens, List.cons_append, List.append_assoc]
      rw [scan_mark (t := .comma) rfl, hentry, ih hentries rest hrest]
      simp [Function.comp_def]

/-- The text of a value has the tokens of the value. -/
theorem scans_write (h : v.Fits n) : Scans v.write v.tokens := by
  induction h with
  | null => exact fun rest _ => bind_cons _ _
  | bool b => cases b <;> exact fun rest _ => bind_cons _ _
  | integer hi => exact fun rest hrest => scan_number hi hrest
  | string s => exact fun rest _ => scan_writeString s rest
  | @array n items h ih =>
      intro rest hrest
      cases items with
      | nil =>
          rw [Value.write, Value.tokens, List.cons_append, List.singleton_append,
            scan_mark (t := .openArray) rfl, scan_mark (t := .closeArray) rfl]
          simp [Function.comp_def]
      | cons v items =>
          obtain ⟨hv, hitems⟩ := List.forall_mem_cons.1 ih
          have hend := endsValue_writeItems items rest
          simp only [Value.write, Value.tokens, List.cons_append, List.append_assoc]
          rw [scan_mark (t := .openArray) rfl, hv _ hend, scans_writeItems hitems rest hrest]
          simp [Function.comp_def]
  | @object n entries h ih =>
      intro rest hrest
      cases entries with
      | nil =>
          rw [Value.write, Value.tokens, List.cons_append, List.singleton_append,
            scan_mark (t := .openObject) rfl, scan_mark (t := .closeObject) rfl]
          simp [Function.comp_def]
      | cons e entries =>
          obtain ⟨k, v⟩ := e
          obtain ⟨hv, hentries⟩ := List.forall_mem_cons.1 ih
          have hentry := scans_entry (k := k) hv (endsValue_writeEntries entries rest)
          simp only [Value.write, Value.tokens, List.cons_append, List.append_assoc]
          rw [scan_mark (t := .openObject) rfl, hentry, scans_writeEntries hentries rest hrest]
          simp [Function.comp_def]

theorem tokens_write (h : IsCanonical n v) : tokens v.write = some v.tokens := by
  have hscan := scans_write h.fits [] trivial
  rw [List.append_nil] at hscan
  rw [tokens, hscan, scan, Option.map_some, List.append_nil]

def Token.IsWritten : Token → Prop
  | .number n => ∃ m, Number.ofNumeral m = some n
  | _ => True

theorem isWritten_of_finishNumber (h : finishNumber read = some t) : t.IsWritten := by
  obtain ⟨m, -, h⟩ := Option.bind_eq_some_iff.1 h
  obtain ⟨n, hn, h⟩ := Option.bind_eq_some_iff.1 h
  cases h
  exact ⟨m, hn⟩

theorem isWritten_of_scanBetween {us : List Token} {s : Scanner} (h : scanBetween c = some (us, s)) :
    ∀ u ∈ us, u.IsWritten := by
  have hmark (t : Token) (h : punctuation? c = some t) : t.IsWritten := by
    unfold punctuation? at h
    split at h <;> cases h <;> trivial
  unfold scanBetween at h
  split_ifs at h
  · cases h; exact List.forall_mem_nil _
  · cases h; exact List.forall_mem_nil _
  · cases h; exact List.forall_mem_nil _
  · obtain ⟨t, ht, h⟩ := Option.map_eq_some_iff.1 h
    cases h
    exact List.forall_mem_singleton.2 (hmark t ht)

theorem isWritten_of_scan {ts : List Token} {s : Scanner} (h : scan s cs = some ts) :
    ∀ t ∈ ts, t.IsWritten := by
  have hcons {x : Option (List Token)} {t : Token} {ts : List Token}
      (h : (do return t :: (← x)) = some ts) (ht : t.IsWritten)
      (hx : ∀ {ts}, x = some ts → ∀ t ∈ ts, t.IsWritten) : ∀ t ∈ ts, t.IsWritten := by
    obtain ⟨ts', hts', h⟩ := Option.bind_eq_some_iff.1 h
    cases h
    exact List.forall_mem_cons.2 ⟨ht, hx hts'⟩
  fun_induction scan s cs generalizing ts with
  | case1 => cases h; exact List.forall_mem_nil _
  | case2 read =>
      obtain ⟨t, ht, h⟩ := Option.bind_eq_some_iff.1 h
      cases h
      exact List.forall_mem_singleton.2 (isWritten_of_finishNumber ht)
  | case3 | case11 | case14 => cases h
  | case4 cs ih | case5 cs ih | case6 cs ih => exact hcons h trivial ih
  | case7 c cs _ _ _ ih =>
      obtain ⟨⟨us, s⟩, hus, h⟩ := Option.bind_eq_some_iff.1 h
      obtain ⟨ts', hts', h⟩ := Option.bind_eq_some_iff.1 h
      cases h
      exact List.forall_mem_append.2 ⟨isWritten_of_scanBetween hus, ih s hts'⟩
  | case8 read c cs hc ih => exact ih h
  | case9 read c cs hc ih =>
      obtain ⟨t, ht, h⟩ := Option.bind_eq_some_iff.1 h
      obtain ⟨⟨us, s⟩, hus, h⟩ := Option.bind_eq_some_iff.1 h
      obtain ⟨ts', hts', h⟩ := Option.bind_eq_some_iff.1 h
      cases h
      refine List.forall_mem_cons.2 ⟨isWritten_of_finishNumber ht, ?_⟩
      exact List.forall_mem_append.2 ⟨isWritten_of_scanBetween hus, ih s hts'⟩
  | case10 read high a b c d cs ih =>
      obtain ⟨u, -, h⟩ := Option.bind_eq_some_iff.1 h
      obtain ⟨s, -, h⟩ := Option.bind_eq_some_iff.1 h
      exact ih s h
  | case12 read c cs _ ih =>
      obtain ⟨d, -, h⟩ := Option.bind_eq_some_iff.1 h
      exact ih d h
  | case13 read cs _ _ ih => exact hcons h trivial ih
  | case15 read c cs _ _ _ _ ih => exact ih h

end ContentCode.Json
