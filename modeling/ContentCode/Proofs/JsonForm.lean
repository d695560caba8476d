import ContentCode.Text
import ContentCode.Proofs.JsonTokens

/-!
The form of written values. Outside strings there is no white space, and in every object the keys
ascend by their bytes in UTF-8.
-/

namespace ContentCode.Json

open Unicode

variable {c d : Char} {k k' cs xs ys : List Char} {v : Value} {n : Nat}

section order

theorem toNat_lt (c : Char) : c.val.toNat < 0x110000 := by
  have hvalid : c.val.toNat.isValidChar := c.valid
  rw [Nat.isValidChar] at hvalid
  omega

theorem utf8EncodeChar_append_lt (h : c < d) (xs ys : List UInt8) :
    String.utf8EncodeChar c ++ xs < String.utf8EncodeChar d ++ ys := by
  have hlt : c.val.toNat < d.val.toNat := UInt32.lt_iff_toNat_lt.1 h
  have hbound := toNat_lt d
  rw [String.utf8EncodeChar.eq_1, String.utf8EncodeChar.eq_1]
  generalize c.val.toNat = m at *
  generalize d.val.toNat = n at *
  have hfirst (v : Nat) : (v / 64 % 32 + 192) % 256 = v / 64 % 32 + 192 ∧
      (v / 4096 % 16 + 224) % 256 = v / 4096 % 16 + 224 ∧
      (v / 262144 % 8 + 240) % 256 = v / 262144 % 8 + 240 ∧ (v % 64 + 128) % 256 = v % 64 + 128 := by
    omega
  -- the digits to the base 64 compare in this order, the last one last
  have hdigit (v w : Nat) : v < w → v / 64 < w / 64 ∨ v / 64 = w / 64 ∧ v % 64 < w % 64 := by omega
  have hdiv (v : Nat) : v / 64 / 64 = v / 4096 ∧ v / 4096 / 64 = v / 262144 := by omega
  have hsecond := hdigit (m / 64) (n / 64)
  have hthird := hdigit (m / 4096) (n / 4096)
  have hfourth : m / 262144 % 8 = m / 262144 ∧ n / 262144 % 8 = n / 262144 := by omega
  rw [(hdiv m).1, (hdiv n).1] at hsecond
  rw [(hdiv m).2, (hdiv n).2] at hthird
  split_ifs <;> simp only [List.cons_append, List.cons_lt_cons_iff, UInt8.lt_iff_toNat_lt, ← UInt8.toNat_inj,
    UInt8.toNat_ofNat', Nat.reducePow, hfirst] <;> omega

theorem utf8_lt_utf8 (h : k < k') : Text.utf8 (.ofList k) < Text.utf8 (.ofList k') := by
  simp only [Text.utf8, String.toList_ofList]
  induction h with
  | @nil c cs =>
      obtain ⟨b, bs, hbytes⟩ := List.exists_cons_of_ne_nil (String.utf8EncodeChar_ne_nil (c := c))
      rw [List.flatMap_nil, List.flatMap_cons, hbytes, List.cons_append]
      exact List.nil_lt_cons b _
  | @rel c d cs ds h => exact utf8EncodeChar_append_lt h _ _
  | @cons c cs ds h ih =>
      rw [List.flatMap_cons, List.flatMap_cons]
      exact List.append_left_lt ih

end order

section spaces

/-- The characters of a text that are outside its strings; `inside` tells whether the text begins
inside one. -/
def outside : (inside : Bool) → List Char → List Char
  | _, [] => []
  | true, '\\' :: _ :: cs => outside true cs
  | true, c :: cs => outside (c ≠ '"') cs
  | false, c :: cs => if c = '"' then outside true cs else c :: outside false cs

def IsCompact (cs : List Char) : Prop := ∀ c ∈ outside false cs, isWhiteSpace c = false

/-- A text that can be put in front of compact ones. -/
def Extends (cs : List Char) : Prop := ∀ rest, IsCompact rest → IsCompact (cs ++ rest)

theorem Extends.append (h : Extends xs) (h' : Extends ys) : Extends (xs ++ ys) := by
  intro rest hrest
  rw [List.append_assoc]
  exact h _ (h' _ hrest)

theorem Extends.cons (hc : isWhiteSpace c = false) (hquote : c ≠ '"') (h : Extends cs) :
    Extends (c :: cs) := by
  intro rest hrest
  rw [IsCompact, List.cons_append, outside, if_neg hquote]
  exact List.forall_mem_cons.2 ⟨hc, h rest hrest⟩

theorem extends_nil : Extends [] := fun _ => id

theorem outside_plain (hquote : c ≠ '"') (hbackslash : c ≠ '\\') (rest : List Char) :
    outside true (c :: rest) = outside true rest := by
  rw [outside, decide_eq_true hquote]
  exact fun _ _ hc => absurd hc hbackslash

theorem outside_writeChar (c : Char) (rest : List Char) :
    outside true (writeChar c ++ rest) = outside true rest := by
  have hhex : ∀ v < 16, hexDigit v ≠ '"' ∧ hexDigit v ≠ '\\' := by decide
  fun_cases writeChar c with
  | case8 _ _ _ _ _ _ _ hcontrol =>
      have hhigh := hhex (c.toNat / 16) (by omega)
      have hlow := hhex (c.toNat % 16) (by omega)
      change outside true (hexDigit (c.toNat / 16) :: hexDigit (c.toNat % 16) :: rest) = _
      rw [outside_plain hhigh.1 hhigh.2, outside_plain hlow.1 hlow.2]
  | case9 hquote hbackslash => exact outside_plain hquote hbackslash rest
  | _ => rfl

theorem extends_writeString (s : List Char) : Extends (writeString s) := by
  intro rest hrest
  have hcontent : outside true (s.flatMap writeChar ++ ('"' :: rest)) = outside false rest := by
    induction s with
    | nil => rfl
    | cons c s ih => rw [List.flatMap_cons, List.append_assoc, outside_writeChar, ih]
  rw [IsCompact, writeString, List.cons_append, List.cons_append, List.append_assoc, List.singleton_append]
  change ∀ c ∈ outside true _, _
  rwa [hcontent]

theorem extends_of_all (h : cs.all fun c => !isWhiteSpace c && c ≠ '"') : Extends cs := by
  induction cs with
  | nil => exact extends_nil
  | cons c cs ih =>
      simp only [List.all_cons, Bool.and_eq_true, Bool.not_eq_true', decide_eq_true_eq] at h
      exact (ih h.2).cons h.1.1 h.1.2

theorem extends_write_integer (i : Int) : Extends (Number.integer i).write := by
  have hsymbol : ∀ d < 10, isWhiteSpace (Decimal.digitChar d) = false ∧ Decimal.digitChar d ≠ '"' := by
    decide +kernel
  have hdigits (n : Nat) : Extends (Decimal.digits n) := by
    refine extends_of_all (List.all_eq_true.2 fun c hc => ?_)
    obtain ⟨d, hd, rfl⟩ := Decimal.exists_of_mem_digits hc
    simpa using hsymbol d hd
  rw [Number.write]
  split
  · exact (hdigits _).cons rfl (by decide)
  · exact hdigits _

theorem extends_writeItems {items : List Value} (h : ∀ v ∈ items, Extends v.write) :
    Extends (writeItems items) := by
  induction items with
  | nil => exact extends_nil.cons rfl (by decide)
  | cons v items ih =>
      obtain ⟨hv, hitems⟩ := List.forall_mem_cons.1 h
      exact (hv.append (ih hitems)).cons rfl (by decide)

theorem extends_entry (k : List Char) (h : Extends v.write) : Extends (writeString k ++ ':' :: v.write) :=
  (extends_writeString k).append (h.cons rfl (by decide))

theorem extends_writeEntries {entries : List (List Char × Value)} (h : ∀ e ∈ entries, Extends e.2.write) :
    Extends (writeEntries entries) := by
  induction entries with
  | nil => exact extends_nil.cons rfl (by decide)
  | cons e entries ih =>
      obtain ⟨he, hentries⟩ := List.forall_mem_cons.1 h
      have hentry := ((extends_entry e.1 he).append (ih hentries)).cons (c := ',') rfl (by decide)
      simpa [writeEntries] using hentry

theorem extends_write (h : IsCanonical n v) : Extends v.write := by
  induction h with
  | null => exact extends_of_all (by decide +kernel)
  | bool b => cases b <;> exact extends_of_all (by decide +kernel)
  | @integer n i hi => exact extends_write_integer i
  | string s => exact extends_writeString s
  | @array n items h ih =>
      cases items with
      | nil => exact (extends_nil.cons rfl (by decide)).cons rfl (by decide)
      | cons v items =>
          obtain ⟨hv, hitems⟩ := List.forall_mem_cons.1 ih
          exact (hv.append (extends_writeItems hitems)).cons rfl (by decide)
  | @object n entries hkeys h ih =>
      cases entries with
      | nil => exact (extends_nil.cons rfl (by decide)).cons rfl (by decide)
      | cons e entries =>
          obtain ⟨he, hentries⟩ := List.forall_mem_cons.1 ih
          have hentry := ((extends_entry e.1 he).append (extends_writeEntries hentries)).cons (c := '\x7b')
            rfl (by decide)
          simpa [Value.write] using hentry

theorem isCompact_write (h : IsCanonical n v) : IsCompact v.write := by
  have hcompact := extends_write h [] (List.forall_mem_nil _)
  rwa [List.append_nil] at hcompact

example : outside false "\x7b\"a b\\\" \": 1\x7d".toList = "\x7b: 1\x7d".toList := by decide +kernel

end spaces

section keys

/-- Each key is greater than the one before it in the same object; `lasts` has the last key, if there
is one, of every array and object that is open. -/
def KeysAscend : (lasts : List (Option (List Char))) → List Token → Prop
  | _, [] => True
  | lasts, .openArray :: ts | lasts, .openObject :: ts => KeysAscend (none :: lasts) ts
  | _ :: lasts, .closeArray :: ts | _ :: lasts, .closeObject :: ts => KeysAscend lasts ts
  | last :: lasts, .string k :: .colon :: ts =>
    (∀ k' ∈ last, Text.utf8 (.ofList k') < Text.utf8 (.ofList k)) ∧ KeysAscend (some k :: lasts) ts
  | lasts, _ :: ts => KeysAscend lasts ts

/-- The tokens of a value, which leave the keys before and behind it as they are. -/
def Passes (ts : List Token) : Prop :=
  ∀ lasts rest, rest.head? ≠ some .colon → KeysAscend lasts rest → KeysAscend lasts (ts ++ rest)

variable {lasts : List (Option (List Char))} {ts : List Token}

theorem passes_string (s : List Char) : Passes [.string s] := by
  intro lasts rest hrest h
  cases rest with
  | nil => cases lasts <;> exact trivial
  | cons t rest =>
      -- only in front of a colon a string is a key
      cases lasts <;> cases t <;> first | exact h | exact absurd rfl hrest

theorem head?_itemTokens (items : List Value) (ts : List Token) :
    (itemTokens items ++ ts).head? ≠ some .colon := by
  cases items <;> simp [itemTokens]

theorem head?_entryTokens (entries : List (List Char × Value)) (ts : List Token) :
    (entryTokens entries ++ ts).head? ≠ some .colon := by
  cases entries <;> simp [entryTokens]

theorem keysAscend_itemTokens {items : List Value} (h : ∀ v ∈ items, Passes v.tokens)
    (last : Option (List Char)) (hts : KeysAscend lasts ts) :
    KeysAscend (last :: lasts) (itemTokens items ++ ts) := by
  induction items with
  | nil => exact hts
  | cons v items ih =>
      obtain ⟨hv, hitems⟩ := List.forall_mem_cons.1 h
      rw [itemTokens, List.cons_append, List.append_assoc]
      exact hv _ _ (head?_itemTokens items ts) (ih hitems)

theorem keysAscend_entryTokens {entries : List (List Char × Value)} (h : ∀ e ∈ entries, Passes e.2.tokens)
    (hkeys : Ascends ((k, v) :: entries)) (hts : KeysAscend lasts ts) :
    KeysAscend (some k :: lasts) (entryTokens entries ++ ts) := by
  induction entries generalizing k v with
  | nil => exact hts
  | cons e entries ih =>
      obtain ⟨k', v'⟩ := e
      obtain ⟨hv', hentries⟩ := List.forall_mem_cons.1 h
      obtain ⟨hfirst, hkeys⟩ := List.pairwise_cons.1 hkeys
      simp only [entryTokens, List.cons_append, List.append_assoc]
      refine ⟨fun k'' hk'' => ?_, hv' _ _ (head?_entryTokens entries ts) (ih hentries hkeys)⟩
      cases hk''
      exact utf8_lt_utf8 (hfirst (k', v') List.mem_cons_self)

theorem passes_tokens (h : IsCanonical n v) : Passes v.tokens := by
  induction h with
  | null | bool b | integer hi => exact fun lasts rest _ hrest => by cases lasts <;> exact hrest
  | string s => exact passes_string s
  | @array n items h ih =>
      intro lasts rest _ hrest
      cases items with
      | nil => exact hrest
      | cons v items =>
          obtain ⟨hv, hitems⟩ := List.forall_mem_cons.1 ih
          rw [Value.tokens, List.cons_append, List.append_assoc]
          exact hv _ _ (head?_itemTokens items rest) (keysAscend_itemTokens hitems none hrest)
  | @object n entries hkeys h ih =>
      intro lasts rest _ hrest
      cases entries with
      | nil => exact hrest
      | cons e entries =>
          obtain ⟨k, v⟩ := e
          obtain ⟨hv, hentries⟩ := List.forall_mem_cons.1 ih
          simp only [Value.tokens, List.cons_append, List.append_assoc]
          refine ⟨fun _ hk => (Option.not_mem_none _ hk).elim, ?_⟩
          exact hv _ _ (head?_entryTokens entries rest) (keysAscend_entryTokens hentries hkeys hrest)

theorem keysAscend_tokens (h : IsCanonical n v) : KeysAscend [] v.tokens := by
  have hpasses := passes_tokens h [] [] (by simp) trivial
  rwa [List.append_nil] at hpasses

end keys

end ContentCode.Json
