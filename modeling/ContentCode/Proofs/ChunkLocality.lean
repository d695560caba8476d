import Mathlib.Data.List.Basic
import ContentCode.Chunking.Chunker

/-!
Chunks do not depend on what follows them. A cut that falls before the end of the bytes stays where
it is when further bytes arrive, so only the last chunk of a text can change when it is continued. Nor
do they depend on what stands before them: behind a boundary, cutting begins anew.
-/

namespace ContentCode.Chunking

variable (p : Parameters)

theorem scan_append (i : Nat) (hash : UInt32) (bytes more : List UInt8)
    (h : scan p i hash bytes < i + bytes.length) :
    scan p i hash (bytes ++ more) = scan p i hash bytes := by
  induction bytes generalizing i hash with
  | nil => simp [scan] at h
  | cons b bytes ih =>
      simp only [List.cons_append, List.length_cons, scan] at h ⊢
      split
      next hi =>
        rw [if_pos hi] at h
        exact ih (i + 1) hash (by omega)
      next hi =>
        rw [if_neg hi] at h
        cases hm : p.maskAt i with
        | none => rfl
        | some mask =>
            simp only [hm] at h ⊢
            split
            next => rfl
            next hz =>
              rw [if_neg hz] at h
              exact ih (i + 1) (roll hash b) (by omega)

theorem scan_le_of_sizes {n : Nat} (hmin : p.minSize ≤ n) (hcenter : p.centerSize ≤ n)
    (hmax : p.maxSize ≤ n) (i : Nat) (hash : UInt32) (bytes : List UInt8) (hi : i ≤ n) :
    scan p i hash bytes ≤ n := by
  induction bytes generalizing i hash with
  | nil => exact hi
  | cons b bytes ih =>
      simp only [scan]
      split
      next hlt => exact ih (i + 1) hash (by omega)
      next =>
        cases hm : p.maskAt i with
        | none => exact hi
        | some mask =>
            have hlt : i < n := by
              by_contra hge
              have hnone : p.maskAt i = none := by
                simp only [Parameters.maskAt]
                rw [if_neg (by omega), if_neg (by omega)]
              simp [hnone] at hm
            dsimp only
            split
            next => omega
            next => exact ih (i + 1) (roll hash b) (by omega)

theorem cut_append {bytes : List UInt8} (more : List UInt8) (h : cut p bytes < bytes.length) :
    cut p (bytes ++ more) = cut p bytes := by
  cases bytes with
  | nil => simp at h
  | cons b bytes =>
      simp only [cut, List.cons_append] at h ⊢
      rw [← List.cons_append, scan_append p 0 0 (b :: bytes) more (by omega)]

theorem cut_le_of_sizes {n : Nat} (hn : 1 ≤ n) (hmin : p.minSize ≤ n) (hcenter : p.centerSize ≤ n)
    (hmax : p.maxSize ≤ n) (bytes : List UInt8) : cut p bytes ≤ n := by
  cases bytes with
  | nil => exact Nat.zero_le n
  | cons b bytes =>
      have := scan_le_of_sizes p hmin hcenter hmax 0 0 (b :: bytes) (Nat.zero_le n)
      simp only [cut]
      omega

variable (align : Bool)

theorem cutAll_of_ne_nil {bytes : List UInt8} (h : bytes ≠ []) :
    cutAll p align bytes = bytes.take (alignedCut p align bytes) ::
      cutAll p align (bytes.drop (alignedCut p align bytes)) := by
  rw [cutAll, dif_neg h]

theorem cutAll_eq_nil_iff (bytes : List UInt8) : cutAll p align bytes = [] ↔ bytes = [] := by
  constructor
  · intro h
    by_contra hne
    rw [cutAll_of_ne_nil p align hne] at h
    exact List.cons_ne_nil _ _ h
  · rintro rfl
    rw [cutAll, dif_pos rfl]

theorem ne_nil_of_mem_cutAll (bytes : List UInt8) : ∀ c ∈ cutAll p align bytes, c ≠ [] := by
  fun_induction cutAll p align bytes with
  | case1 => simp
  | case2 bytes hne hpos hlen ih =>
      intro c hc
      rcases List.mem_cons.1 hc with rfl | hc
      · rw [ne_eq, List.take_eq_nil_iff, not_or]
        exact ⟨Nat.ne_of_gt hpos, hne⟩
      · exact ih c hc

theorem chunks_ne_nil (bytes : List UInt8) : chunks p align bytes ≠ [] := by
  simp only [chunks]
  split
  next => simp
  next h => exact fun he => h ((cutAll_eq_nil_iff p align bytes).1 he)

theorem exists_chunks_eq_concat (bytes : List UInt8) :
    ∃ front last, chunks p align bytes = front ++ [last] :=
  ⟨_, _, (List.dropLast_append_getLast (chunks_ne_nil p align bytes)).symm⟩

theorem ne_nil_of_mem_chunks {bytes : List UInt8} (h : bytes ≠ []) :
    ∀ c ∈ chunks p align bytes, c ≠ [] := by
  rw [chunks, if_neg h]
  exact ne_nil_of_mem_cutAll p align bytes

theorem forall_mem_cutAll {P : Nat → Prop} (hcut : ∀ bytes, P (alignedCut p align bytes))
    (bytes : List UInt8) : ∀ c ∈ cutAll p align bytes, P c.length := by
  fun_induction cutAll p align bytes with
  | case1 => simp
  | case2 bytes hne hpos hlen ih =>
      intro c hc
      rcases List.mem_cons.1 hc with rfl | hc
      · rw [List.length_take, Nat.min_eq_left (alignedCut_le p align bytes)]
        exact hcut bytes
      · exact ih c hc

theorem forall_mem_dropLast_cutAll {P : Nat → Prop}
    (hcut : ∀ bytes, alignedCut p align bytes < bytes.length → P (alignedCut p align bytes))
    (bytes : List UInt8) : ∀ c ∈ (cutAll p align bytes).dropLast, P c.length := by
  fun_induction cutAll p align bytes with
  | case1 => simp
  | case2 bytes hne hpos hlen ih =>
      intro c hc
      by_cases hrest : bytes.drop (alignedCut p align bytes) = []
      · rw [(cutAll_eq_nil_iff p align _).2 hrest] at hc
        exact absurd hc List.not_mem_nil
      · rw [List.dropLast_cons_of_ne_nil (mt (cutAll_eq_nil_iff p align _).1 hrest)] at hc
        rw [List.drop_eq_nil_iff, Nat.not_le] at hrest
        rcases List.mem_cons.1 hc with rfl | hc
        · rw [List.length_take, Nat.min_eq_left (Nat.le_of_lt hrest)]
          exact hcut bytes hrest
        · exact ih c hc

theorem forall_mem_chunks {P : Nat → Prop} (hcut : ∀ bytes, P (alignedCut p align bytes))
    (bytes : List UInt8) : ∀ c ∈ chunks p align bytes, P c.length := by
  rw [chunks]
  split
  next =>
    -- the one chunk of no bytes is as long as their cut
    have hzero : alignedCut p align [] = 0 := Nat.le_zero.1 (alignedCut_le p align [])
    rw [List.forall_mem_singleton, List.length_nil, ← hzero]
    exact hcut []
  next => exact forall_mem_cutAll p align hcut bytes

theorem forall_mem_dropLast_chunks {P : Nat → Prop}
    (hcut : ∀ bytes, alignedCut p align bytes < bytes.length → P (alignedCut p align bytes))
    (bytes : List UInt8) : ∀ c ∈ (chunks p align bytes).dropLast, P c.length := by
  rw [chunks]
  split
  next => exact List.forall_mem_nil _
  next => exact forall_mem_dropLast_cutAll p align hcut bytes

theorem length_le_of_mem_chunks {n : Nat} (hcut : ∀ bytes, alignedCut p align bytes ≤ n)
    (bytes : List UInt8) : ∀ c ∈ chunks p align bytes, c.length ≤ n :=
  forall_mem_chunks p align (P := (· ≤ n)) hcut bytes

/-- All chunks but the last one are final: further bytes only go on from the start of the last. -/
theorem cutAll_append (bytes more : List UInt8) (h : bytes ≠ []) :
    cutAll p false (bytes ++ more) =
      (cutAll p false bytes).dropLast ++ cutAll p false ((cutAll p false bytes).getLastD [] ++ more) := by
  induction bytes using cutAll.induct p false with
  | case1 => exact absurd rfl h
  | case2 bytes _ hpos hlen ih =>
      have hle := alignedCut_le p false bytes
      rw [cutAll_of_ne_nil p false h]
      by_cases hcut : alignedCut p false bytes < bytes.length
      · have hrest : bytes.drop (alignedCut p false bytes) ≠ [] := by
          rw [ne_eq, List.drop_eq_nil_iff]
          omega
        have hsame : alignedCut p false (bytes ++ more) = alignedCut p false bytes :=
          cut_append p more hcut
        have hne := mt (cutAll_eq_nil_iff p false _).1 hrest
        rw [cutAll_of_ne_nil p false (List.append_ne_nil_of_left_ne_nil h more), hsame,
          List.take_append_of_le_length hle, List.drop_append_of_le_length hle, ih hrest,
          List.dropLast_cons_of_ne_nil hne, List.cons_append, List.getLastD_cons]
        congr 3
        rw [List.getLastD_eq_getLast?, List.getLastD_eq_getLast?, List.getLast?_eq_some_getLast hne]
        rfl
      · -- the cut is at the end, and further bytes may move it
        have hall : alignedCut p false bytes = bytes.length := by omega
        have hnil := (cutAll_eq_nil_iff p false []).2 rfl
        rw [hall, List.take_length, List.drop_length, hnil]
        rfl

theorem chunks_append (bytes more : List UInt8) :
    chunks p false (bytes ++ more) =
      (chunks p false bytes).dropLast ++ chunks p false ((chunks p false bytes).getLastD [] ++ more) := by
  by_cases h : bytes = []
  · subst h
    simp [chunks]
  · have hlast : (cutAll p false bytes).getLastD [] ≠ [] := by
      rw [List.getLastD_eq_getLast?]
      cases hl : (cutAll p false bytes).getLast? with
      | none => exact absurd ((cutAll_eq_nil_iff p false bytes).1 (List.getLast?_eq_none_iff.1 hl)) h
      | some c => exact ne_nil_of_mem_cutAll p false bytes c (List.mem_of_getLast? hl)
    rw [chunks, chunks, chunks, if_neg h, if_neg (List.append_ne_nil_of_left_ne_nil h more),
      if_neg (List.append_ne_nil_of_left_ne_nil hlast more), cutAll_append p bytes more h]

theorem chunks_behind {bytes : List UInt8} {front back : List (List UInt8)}
    (h : chunks p align bytes = front ++ back) (hlt : front.flatten.length < bytes.length) :
    back = chunks p align (bytes.drop front.flatten.length) := by
  induction front generalizing bytes with
  | nil => exact h.symm
  | cons c front ih =>
      have hbytes : bytes ≠ [] := List.length_pos_iff.1 (Nat.zero_lt_of_lt hlt)
      have hle := alignedCut_le p align bytes
      rw [chunks, if_neg hbytes, cutAll_of_ne_nil p align hbytes, List.cons_append, List.cons.injEq] at h
      obtain ⟨rfl, htail⟩ := h
      rw [List.flatten_cons, List.length_append, List.length_take, Nat.min_eq_left hle] at hlt ⊢
      have hrest : bytes.drop (alignedCut p align bytes) ≠ [] := by
        rw [ne_eq, List.drop_eq_nil_iff]
        omega
      have hchunks : chunks p align (bytes.drop (alignedCut p align bytes)) = front ++ back := by
        rw [chunks, if_neg hrest, htail]
      rw [← List.drop_drop]
      apply ih hchunks
      rw [List.length_drop]
      omega

theorem chunks_append_of_last {bytes last : List UInt8} {front : List (List UInt8)}
    (h : chunks p false bytes = front ++ [last]) (more : List UInt8) :
    chunks p false (bytes ++ more) = front ++ chunks p false (last ++ more) := by
  rw [chunks_append p bytes more, h, List.dropLast_concat, List.getLastD_concat]

/-- Cutting is local, whatever the parameters are: bytes that arrive change the last chunk only, and
bytes in front of a boundary have no influence behind it. -/
theorem chunks_local (p : Parameters) :
    (∀ bytes, ∃ front last, chunks p false bytes = front ++ [last] ∧
      ∀ more, chunks p false (bytes ++ more) = front ++ chunks p false (last ++ more)) ∧
    (∀ bytes more, cut p bytes < bytes.length → cut p (bytes ++ more) = cut p bytes) ∧
    (∀ align bytes front back, chunks p align bytes = front ++ back →
      front.flatten.length < bytes.length → back = chunks p align (bytes.drop front.flatten.length)) ∧
    ∀ align bytes bytes' front front' back back', chunks p align bytes = front ++ back →
      chunks p align bytes' = front' ++ back' →
      bytes.drop front.flatten.length = bytes'.drop front'.flatten.length →
      front.flatten.length < bytes.length → back = back' := by
  refine ⟨fun bytes => ?_, fun bytes more => cut_append p more, fun align bytes front back =>
    chunks_behind p align, ?_⟩
  · obtain ⟨front, last, hsplit⟩ := exists_chunks_eq_concat p false bytes
    exact ⟨front, last, hsplit, chunks_append_of_last p hsplit⟩
  · intro align bytes bytes' front front' back back' h h' hsame hlt
    have hlt' : front'.flatten.length < bytes'.length := by
      have hsize := congrArg List.length hsame
      rw [List.length_drop, List.length_drop] at hsize
      omega
    rw [chunks_behind p align h hlt, chunks_behind p align h' hlt', hsame]

theorem chunks_local_smallest :
    chunks (.derive 1) false [0, 1, 2, 1, 2] = [[0], [1, 2]] ++ [[1, 2]] ∧
    [[1, 2]] = chunks (.derive 1) false [1, 2] := by
  have h : chunks (.derive 1) false [0, 1, 2, 1, 2] = [[0], [1, 2]] ++ [[1, 2]] := by decide +kernel
  exact ⟨h, (chunks_local (.derive 1)).2.2.1 false _ _ _ h (by decide)⟩

end ContentCode.Chunking
