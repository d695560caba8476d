import ContentCode.Json.Pretty
import ContentCode.Proofs.JsonValues

/-!
Values over several lines. A line break and blanks may stand between two tokens and give none, so a value
over several lines is read as it is from one line: with its entries in order.
-/

namespace ContentCode.Json

variable {v : Value} {items : List Value} {entries : List (List Char × Value)} {rest : List Char} {n depth : Nat}

theorem scan_newLine (depth : Nat) (rest : List Char) : scan .between (newLine depth ++ rest) = scan .between rest := by
  have hblanks (k : Nat) : scan .between (List.replicate k ' ' ++ rest) = scan .between rest := by
    induction k with
    | zero => rfl
    | succ k ih => rw [List.replicate_succ, List.cons_append, scan_space rfl, ih]
  rw [newLine, List.cons_append, scan_space rfl, hblanks]

theorem endsValue_prettyItems (depth : Nat) (items : List Value) (rest : List Char) :
    EndsValue (prettyItems depth items ++ rest) := by
  cases items with
  | nil => exact .inr (.inr (.inr rfl))
  | cons v items => exact .inl rfl

theorem endsValue_prettyEntries (depth : Nat) (entries : List (List Char × Value)) (rest : List Char) :
    EndsValue (prettyEntries depth entries ++ rest) := by
  cases entries with
  | nil => exact .inr (.inr (.inr rfl))
  | cons e entries => exact .inl rfl

theorem scans_prettyItems (h : ∀ v ∈ items, Scans (v.pretty (depth + 1)) v.tokens) :
    Scans (prettyItems depth items) (itemTokens items) := by
  induction items with
  | nil =>
      intro rest _
      rw [prettyItems, List.append_assoc, scan_newLine]
      exact scan_mark rfl rest
  | cons v items ih =>
      intro rest hrest
      obtain ⟨hv, hitems⟩ := List.forall_mem_cons.1 h
      simp only [prettyItems, itemTokens, List.cons_append, List.append_assoc]
      rw [scan_mark (t := .comma) rfl, scan_newLine, hv _ (endsValue_prettyItems depth items rest),
        ih hitems rest hrest]
      simp [Function.comp_def]

theorem scans_prettyEntry {k : List Char} (h : Scans (v.pretty depth) v.tokens) (hrest : EndsValue rest) :
    scan .between (newLine depth ++ (writeString k ++ ':' :: ' ' :: (v.pretty depth ++ rest))) =
      (scan .between rest).map fun ts => .string k :: .colon :: (v.tokens ++ ts) := by
  rw [scan_newLine, scan_writeString, scan_mark (t := .colon) rfl, scan_space rfl, h rest hrest]
  simp [Function.comp_def]

theorem scans_prettyEntries (h : ∀ e ∈ entries, Scans (e.2.pretty (depth + 1)) e.2.tokens) :
    Scans (prettyEntries depth entries) (entryTokens entries) := by
  induction entries with
  | nil =>
      intro rest _
      rw [prettyEntries, List.append_assoc, scan_newLine]
      exact scan_mark rfl rest
  | cons e entries ih =>
      intro rest hrest
      obtain ⟨k, v⟩ := e
      obtain ⟨hv, hentries⟩ := List.forall_mem_cons.1 h
      have hentry := scans_prettyEntry (k := k) hv (endsValue_prettyEntries depth entries rest)
      simp only [prettyEntries, entryTokens, List.cons_append, List.append_assoc, List.nil_append]
      rw [scan_mark (t := .comma) rfl, hentry, ih hentries rest hrest]
      simp [Function.comp_def]

theorem scans_pretty (h : v.Fits n) (depth : Nat) : Scans (v.pretty depth) v.tokens := by
  induction h generalizing depth with
  | @null n => exact scans_write (n := n) .null
  | @bool n b => exact scans_write (n := n) (.bool b)
  | @integer n i hi => exact scans_write (n := n) (.integer hi)
  | @string n s => exact scans_write (n := n) (.string s)
  | @array n items h ih =>
      intro rest hrest
      cases items with
      | nil => exact scans_write (n := n + 1) (.array h) rest hrest
      | cons v items =>
          obtain ⟨hv, hitems⟩ := List.forall_mem_cons.1 ih
          have hend := endsValue_prettyItems depth items rest
          simp only [Value.pretty, Value.tokens, List.cons_append, List.append_assoc]
          rw [scan_mark (t := .openArray) rfl, scan_newLine, hv _ _ hend,
            scans_prettyItems (fun v hv => hitems v hv _) rest hrest]
          simp [Function.comp_def]
  | @object n entries h ih =>
      intro rest hrest
      cases entries with
      | nil => exact scans_write (n := n + 1) (.object h) rest hrest
      | cons e entries =>
          obtain ⟨k, v⟩ := e
          obtain ⟨hv, hentries⟩ := List.forall_mem_cons.1 ih
          have hentry := scans_prettyEntry (k := k) (hv (depth + 1)) (endsValue_prettyEntries depth entries rest)
          simp only [Value.pretty, Value.tokens, List.cons_append, List.append_assoc, List.nil_append]
          rw [scan_mark (t := .openObject) rfl, hentry, scans_prettyEntries (fun e he => hentries e he _) rest hrest]
          simp [Function.comp_def]

/-- A value that is written over several lines, with a line break behind it, is read again. -/
theorem read?_pretty (h : v.Fits maxDepth) : read? (v.pretty 0 ++ ['\n']) = some v.sorted := by
  refine read?_of_tokens h ?_
  rw [tokens, scans_pretty h 0 ['\n'] (.inr (.inr (.inr rfl))), scan_space rfl, scan, Option.map_some, List.append_nil]

end ContentCode.Json
