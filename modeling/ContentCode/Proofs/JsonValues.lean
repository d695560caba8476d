import Mathlib.Data.Char
import Mathlib.Data.List.Lex
import ContentCode.Json.Parser
import ContentCode.Proofs.JsonTokens

/-!
Values that are read. From the tokens of a value the parser builds that value with its entries in order.
It builds canonical values only, and those have their entries in order already.
-/

namespace ContentCode.Json

variable {k : List Char} {v : Value} {entries : List (List Char × Value)} {items : List Value}
  {t : Token} {ts : List Token} {stack : List Frame} {p p' : Parser} {n : Nat}

section entries

theorem forall_mem_insertEntry {P : List Char × Value → Prop} (hnew : P (k, v))
    (h : ∀ e ∈ entries, P e) : ∀ e ∈ insertEntry k v entries, P e := by
  induction entries with
  | nil => simpa [insertEntry] using hnew
  | cons e entries ih =>
      obtain ⟨he, hentries⟩ := List.forall_mem_cons.1 h
      rw [insertEntry]
      split
      · exact List.forall_mem_cons.2 ⟨hnew, h⟩
      · split
        · exact List.forall_mem_cons.2 ⟨hnew, hentries⟩
        · exact List.forall_mem_cons.2 ⟨he, ih hentries⟩

theorem Ascends.insertEntry (h : Ascends entries) (k : List Char) (v : Value) :
    Ascends (insertEntry k v entries) := by
  induction entries with
  | nil => exact List.pairwise_singleton _ _
  | cons e entries ih =>
      obtain ⟨k', v'⟩ := e
      obtain ⟨hfirst, hentries⟩ := List.pairwise_cons.1 h
      rw [Json.insertEntry]
      by_cases hlt : k < k'
      · rw [if_pos hlt]
        refine List.pairwise_cons.2 ⟨List.forall_mem_cons.2 ⟨hlt, fun e he => ?_⟩, h⟩
        exact lt_trans hlt (hfirst e he)
      · rw [if_neg hlt]
        by_cases heq : k = k'
        · rw [if_pos heq, heq]
          exact List.pairwise_cons.2 ⟨hfirst, hentries⟩
        · rw [if_neg heq]
          have hgt : k' < k := (lt_trichotomy k k').resolve_left hlt |>.resolve_left heq
          exact List.pairwise_cons.2 ⟨forall_mem_insertEntry hgt hfirst, ih hentries⟩

theorem insertEntry_of_forall_lt (h : ∀ e ∈ entries, e.1 < k) :
    insertEntry k v entries = entries ++ [(k, v)] := by
  induction entries with
  | nil => rfl
  | cons e entries ih =>
      obtain ⟨hlt, hentries⟩ := List.forall_mem_cons.1 h
      rw [insertEntry, if_neg (not_lt_of_gt hlt), if_neg hlt.ne', ih hentries, List.cons_append]

theorem foldl_insertEntry (sorted : List (List Char × Value)) (h : Ascends (sorted ++ entries)) :
    entries.foldl (fun sorted (k, v) => insertEntry k v sorted) sorted = sorted ++ entries := by
  induction entries generalizing sorted with
  | nil => rw [List.append_nil]; rfl
  | cons e entries ih =>
      obtain ⟨k, v⟩ := e
      have hlt : ∀ e ∈ sorted, e.1 < k := fun e he =>
        (List.pairwise_append.1 h).2.2 e he (k, v) List.mem_cons_self
      rw [List.append_cons] at h ⊢
      rw [← ih _ h, ← insertEntry_of_forall_lt hlt]
      rfl

theorem ofEntries_of_ascends (h : Ascends entries) : Value.ofEntries entries = .object entries := by
  rw [Value.ofEntries, foldl_insertEntry [] h, List.nil_append]

theorem IsCanonical.ofEntries (h : ∀ e ∈ entries, IsCanonical n e.2) :
    IsCanonical (n + 1) (.ofEntries entries) := by
  have hfold (sorted : List (List Char × Value)) (hsorted : Ascends sorted)
      (hmem : ∀ e ∈ sorted, IsCanonical n e.2) :
      IsCanonical (n + 1) (.object (entries.foldl (fun sorted (k, v) => insertEntry k v sorted) sorted)) := by
    induction entries generalizing sorted with
    | nil => exact .object hsorted hmem
    | cons e entries ih =>
        obtain ⟨he, hentries⟩ := List.forall_mem_cons.1 h
        exact ih hentries _ (hsorted.insertEntry e.1 e.2) (forall_mem_insertEntry he hmem)
  exact hfold [] .nil (List.forall_mem_nil _)

end entries

section sorted

mutual

/-- The value with the entries of each object in ascending order of keys; of equal keys the last one
counts. -/
def Value.sorted : Value → Value
  | .null => .null
  | .bool b => .bool b
  | .number n => .number n
  | .string s => .string s
  | .array items => .array (sortedItems items)
  | .object entries => .ofEntries (sortedEntries entries)

def sortedItems : List Value → List Value
  | [] => []
  | v :: items => v.sorted :: sortedItems items

def sortedEntries : List (List Char × Value) → List (List Char × Value)
  | [] => []
  | (k, v) :: entries => (k, v.sorted) :: sortedEntries entries

end

theorem sortedItems_eq_self (h : ∀ v ∈ items, v.sorted = v) : sortedItems items = items := by
  induction items with
  | nil => rfl
  | cons v items ih =>
      obtain ⟨hv, hitems⟩ := List.forall_mem_cons.1 h
      rw [sortedItems, hv, ih hitems]

theorem sortedEntries_eq_self (h : ∀ e ∈ entries, e.2.sorted = e.2) : sortedEntries entries = entries := by
  induction entries with
  | nil => rfl
  | cons e entries ih =>
      obtain ⟨he, hentries⟩ := List.forall_mem_cons.1 h
      rw [sortedEntries, he, ih hentries]

theorem IsCanonical.sorted_eq_self (h : IsCanonical n v) : v.sorted = v := by
  induction h with
  | null | bool b | integer hi | string s => rw [Value.sorted]
  | array _ ih => rw [Value.sorted, sortedItems_eq_self ih]
  | object hkeys _ ih => rw [Value.sorted, sortedEntries_eq_self ih, ofEntries_of_ascends hkeys]

end sorted

section run

/-- Read where a value is to come, the tokens `ts` are those of the value `v`, if there is room for `n`
arrays and objects around each other. -/
def Reads (n : Nat) (ts : List Token) (v : Value) : Prop :=
  ∀ stack rest, n + stack.length ≤ maxDepth → (ts ++ rest).foldlM Parser.step ⟨.value, stack⟩ =
    rest.foldlM Parser.step ⟨.afterValue v, stack⟩

theorem foldlM_cons_of_step {q : Parser} (h : p.step t = some q) (rest : List Token) :
    (t :: rest).foldlM Parser.step p = rest.foldlM Parser.step q := by
  rw [List.foldlM_cons, h]
  rfl

theorem exists_cons_tokens (v : Value) : ∃ t ts, v.tokens = t :: ts ∧ t ≠ .closeArray := by
  fun_cases Value.tokens v <;> exact ⟨_, _, rfl, by simp⟩

theorem step_itemOrEnd (ht : t ≠ .closeArray) (stack : List Frame) :
    Parser.step ⟨.itemOrEnd, stack⟩ t = Parser.step ⟨.value, .items [] :: stack⟩ t := by
  cases t <;> first | rfl | exact absurd rfl ht

theorem foldlM_itemTokens (h : ∀ v ∈ items, Reads n v.tokens v.sorted)
    (hn : n + (stack.length + 1) ≤ maxDepth) (v : Value) (read : List Value) (rest : List Token) :
    (itemTokens items ++ rest).foldlM Parser.step ⟨.afterValue v, .items read :: stack⟩ =
      rest.foldlM Parser.step ⟨.afterValue (.array (read.reverse ++ v :: sortedItems items)), stack⟩ := by
  induction items generalizing v read with
  | nil =>
      rw [itemTokens, List.singleton_append]
      refine foldlM_cons_of_step ?_ rest
      simp [Parser.step, Parser.continueFrame, sortedItems]
  | cons v' items ih =>
      obtain ⟨hv', hitems⟩ := List.forall_mem_cons.1 h
      rw [itemTokens, List.cons_append, List.append_assoc,
        foldlM_cons_of_step (q := ⟨.value, .items (v :: read) :: stack⟩) rfl,
        hv' (.items (v :: read) :: stack) _ hn, ih hitems]
      simp [sortedItems]

theorem foldlM_entryTokens (h : ∀ e ∈ entries, Reads n e.2.tokens e.2.sorted)
    (hn : n + (stack.length + 1) ≤ maxDepth) (k : List Char) (v : Value)
    (read : List (List Char × Value)) (rest : List Token) :
    (entryTokens entries ++ rest).foldlM Parser.step ⟨.afterValue v, .entry read k :: stack⟩ =
      rest.foldlM Parser.step
        ⟨.afterValue (.ofEntries (read.reverse ++ (k, v) :: sortedEntries entries)), stack⟩ := by
  induction entries generalizing k v read with
  | nil =>
      rw [entryTokens, List.singleton_append]
      refine foldlM_cons_of_step ?_ rest
      simp [Parser.step, Parser.continueFrame, sortedEntries]
  | cons e entries ih =>
      obtain ⟨k', v'⟩ := e
      obtain ⟨hv', hentries⟩ := List.forall_mem_cons.1 h
      simp only [entryTokens, List.cons_append, List.append_assoc]
      rw [foldlM_cons_of_step (q := ⟨.key ((k, v) :: read), stack⟩) rfl,
        foldlM_cons_of_step (q := ⟨.colon ((k, v) :: read) k', stack⟩) rfl,
        foldlM_cons_of_step (q := ⟨.value, .entry ((k, v) :: read) k' :: stack⟩) rfl,
        hv' (.entry ((k, v) :: read) k' :: stack) _ hn, ih hentries]
      simp [sortedEntries]

theorem reads_tokens (h : v.Fits n) : Reads n v.tokens v.sorted := by
  induction h with
  | null => exact fun stack rest _ => foldlM_cons_of_step rfl rest
  | bool b => exact fun stack rest _ => foldlM_cons_of_step rfl rest
  | integer hi => exact fun stack rest _ => foldlM_cons_of_step rfl rest
  | string s => exact fun stack rest _ => foldlM_cons_of_step rfl rest
  | @array n items h ih =>
      intro stack rest hn
      have hopen : Parser.step ⟨.value, stack⟩ .openArray = some ⟨.itemOrEnd, stack⟩ :=
        if_pos (show stack.length < maxDepth by omega)
      cases items with
      | nil =>
          rw [Value.tokens, List.cons_append, foldlM_cons_of_step hopen]
          exact foldlM_cons_of_step rfl rest
      | cons v items =>
          obtain ⟨hv, hitems⟩ := List.forall_mem_cons.1 ih
          rw [Value.tokens, List.cons_append, List.append_assoc, foldlM_cons_of_step hopen]
          have hfirst (rest : List Token) : (v.tokens ++ rest).foldlM Parser.step ⟨.itemOrEnd, stack⟩ =
              (v.tokens ++ rest).foldlM Parser.step ⟨.value, .items [] :: stack⟩ := by
            obtain ⟨t, ts, hts, ht⟩ := exists_cons_tokens v
            rw [hts, List.cons_append, List.foldlM_cons, List.foldlM_cons, step_itemOrEnd ht]
          rw [hfirst, hv _ _ (by simp; omega), foldlM_itemTokens hitems (by omega)]
          rfl
  | @object n entries h ih =>
      intro stack rest hn
      have hopen : Parser.step ⟨.value, stack⟩ .openObject = some ⟨.keyOrEnd, stack⟩ :=
        if_pos (show stack.length < maxDepth by omega)
      cases entries with
      | nil =>
          rw [Value.tokens, List.cons_append, foldlM_cons_of_step hopen]
          exact foldlM_cons_of_step rfl rest
      | cons e entries =>
          obtain ⟨k, v⟩ := e
          obtain ⟨hv, hentries⟩ := List.forall_mem_cons.1 ih
          simp only [Value.tokens, List.cons_append, List.append_assoc]
          rw [foldlM_cons_of_step hopen, foldlM_cons_of_step (q := ⟨.colon [] k, stack⟩) rfl,
            foldlM_cons_of_step (q := ⟨.value, .entry [] k :: stack⟩) rfl, hv _ _ (by simp; omega),
            foldlM_entryTokens hentries (by omega), List.reverse_nil, List.nil_append]
          rfl

theorem read?_of_tokens {cs : List Char} (h : v.Fits maxDepth) (hcs : tokens cs = some v.tokens) :
    read? cs = some v.sorted := by
  have hrun := reads_tokens h [] [] le_rfl
  rw [List.append_nil] at hrun
  rw [read?, hcs]
  change (v.tokens.foldlM Parser.step ⟨.value, []⟩).bind Parser.result? = some v.sorted
  rw [hrun]
  rfl

theorem read?_write_value (h : IsCanonical maxDepth v) : read? v.write = some v := by
  rw [read?_of_tokens h.fits (tokens_write h), h.sorted_eq_self]

end run

section invariant

def Token.Fits : Token → Prop
  | .number (.integer i) => FitsWord i
  | .number (.double _) => False
  | _ => True

/-- What has been read of an array or object is canonical, with room for `n` more of them inside. -/
def Frame.Holds (n : Nat) : Frame → Prop
  | .items read => ∀ v ∈ read, IsCanonical n v
  | .entry read _ => ∀ e ∈ read, IsCanonical n e.2

/-- The same of all that are open; `n` is the room inside the innermost one. -/
inductive StackHolds : Nat → List Frame → Prop
  | nil : StackHolds maxDepth []
  | cons {n : Nat} {f : Frame} {stack : List Frame} (hf : f.Holds n) (h : StackHolds (n + 1) stack) :
      StackHolds n (f :: stack)

def Expected.Holds (n : Nat) : Expected → Prop
  | .value => True
  | .itemOrEnd | .keyOrEnd => ∃ m, n = m + 1
  | .key read | .colon read _ => ∃ m, n = m + 1 ∧ ∀ e ∈ read, IsCanonical m e.2
  | .afterValue v => IsCanonical n v

def Parser.Holds (p : Parser) : Prop := ∃ n, p.expected.Holds n ∧ StackHolds n p.stack

theorem StackHolds.length_eq (h : StackHolds n stack) : n + stack.length = maxDepth := by
  induction h with
  | nil => rfl
  | cons hf h ih => rw [List.length_cons]; omega

theorem holds_beginValue {e : Expected} (h : StackHolds n stack) (ht : t.Fits)
    (hp : Parser.beginValue ⟨e, stack⟩ t = some p') : p'.Holds := by
  have hopen (e' : Expected) (he' : ∀ m, e'.Holds (m + 1))
      (hp : Parser.openFrame ⟨e, stack⟩ e' = some p') : p'.Holds := by
    rw [Parser.openFrame] at hp
    split at hp
    next hroom =>
      cases hp
      obtain ⟨m, rfl⟩ : ∃ m, n = m + 1 := Nat.exists_eq_succ_of_ne_zero fun hzero => by
        have hlength := h.length_eq
        dsimp only at hroom
        omega
      exact ⟨m + 1, he' m, h⟩
    next => cases hp
  cases t with
  | null => cases hp; exact ⟨n, .null, h⟩
  | bool b => cases hp; exact ⟨n, .bool b, h⟩
  | string s => cases hp; exact ⟨n, .string s, h⟩
  | number x =>
      cases x with
      | integer i => cases hp; exact ⟨n, .integer ht, h⟩
      | double x => exact ht.elim
  | openArray => exact hopen .itemOrEnd (fun m => ⟨m, rfl⟩) hp
  | openObject => exact hopen .keyOrEnd (fun m => ⟨m, rfl⟩) hp
  | _ => cases hp

theorem Parser.Holds.step (h : p.Holds) (ht : t.Fits) (hp : p.step t = some p') : p'.Holds := by
  obtain ⟨expected, stack⟩ := p
  obtain ⟨n, he, hs⟩ := h
  cases expected with
  | value => exact holds_beginValue hs ht hp
  | itemOrEnd =>
      obtain ⟨m, rfl⟩ := he
      by_cases hclose : t = .closeArray
      · subst hclose
        cases hp
        exact ⟨m + 1, .array (List.forall_mem_nil _), hs⟩
      · rw [step_itemOrEnd hclose] at hp
        exact holds_beginValue (.cons (f := .items []) (List.forall_mem_nil _) hs) ht hp
  | keyOrEnd =>
      obtain ⟨m, rfl⟩ := he
      cases t with
      | closeObject => cases hp; exact ⟨m + 1, .object .nil (List.forall_mem_nil _), hs⟩
      | string k => cases hp; exact ⟨m + 1, ⟨m, rfl, List.forall_mem_nil _⟩, hs⟩
      | _ => cases hp
  | key read =>
      cases t with
      | string k => cases hp; exact ⟨n, he, hs⟩
      | _ => cases hp
  | colon read k =>
      obtain ⟨m, rfl, hread⟩ := he
      cases t with
      | colon => cases hp; exact ⟨m, trivial, .cons hread hs⟩
      | _ => cases hp
  | afterValue v =>
      cases hs with
      | nil => cases hp
      | @cons _ f stack hf hs =>
          cases f with
          | items read =>
              have hall : ∀ u ∈ v :: read, IsCanonical n u := List.forall_mem_cons.2 ⟨he, hf⟩
              cases t with
              | comma => cases hp; exact ⟨n, trivial, .cons hall hs⟩
              | closeArray =>
                  cases hp
                  exact ⟨n + 1, .array fun v hv => hall v (List.mem_reverse.1 hv), hs⟩
              | _ => cases hp
          | entry read k =>
              have hall : ∀ e ∈ (k, v) :: read, IsCanonical n e.2 := List.forall_mem_cons.2 ⟨he, hf⟩
              cases t with
              | comma => cases hp; exact ⟨n + 1, ⟨n, rfl, hall⟩, hs⟩
              | closeObject =>
                  cases hp
                  exact ⟨n + 1, .ofEntries fun e he => hall e (List.mem_reverse.1 he), hs⟩
              | _ => cases hp

theorem Parser.Holds.foldlM (h : p.Holds) (hts : ∀ t ∈ ts, t.Fits)
    (hp : ts.foldlM Parser.step p = some p') : p'.Holds := by
  induction ts generalizing p with
  | nil => cases hp; exact h
  | cons t ts ih =>
      obtain ⟨ht, hts⟩ := List.forall_mem_cons.1 hts
      rw [List.foldlM_cons] at hp
      obtain ⟨q, hq, hp⟩ := Option.bind_eq_some_iff.1 hp
      exact ih (h.step ht hq) hts hp

/-- Values that are read are canonical, unless they have other numbers than integers. -/
theorem isCanonical_of_read? {cs : List Char} (hts : tokens cs = some ts) (hfits : ∀ t ∈ ts, t.Fits)
    (h : read? cs = some v) : IsCanonical maxDepth v := by
  rw [read?, hts] at h
  change (ts.foldlM Parser.step ⟨.value, []⟩).bind Parser.result? = some v at h
  obtain ⟨⟨expected, stack⟩, hp, hresult⟩ := Option.bind_eq_some_iff.1 h
  have hstart : Parser.Holds ⟨.value, []⟩ := ⟨maxDepth, trivial, .nil⟩
  obtain ⟨n, he, hs⟩ := hstart.foldlM hfits hp
  cases expected with
  | afterValue v' =>
      cases hs with
      | nil => cases hresult; exact he
      | cons => cases hresult
  | _ => cases hresult

end invariant

end ContentCode.Json
