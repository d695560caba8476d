import ContentCode.Proofs.ChunkPartition

/-!
How long chunks are. Parameters that are derived from an average size bound every chunk from above, and
every chunk but the last from below; aligned chunks start at multiples of four, and what is left of the
bytes behind the last multiple is in the last chunk.
-/

namespace ContentCode.Chunking

variable {p : Parameters} {align : Bool}

section cuts

variable {bytes : List UInt8}

theorem minSize_lt_scan (hsizes : p.minSize < p.maxSize) (i : Nat) (hash : UInt32) (bytes : List UInt8)
    (h : scan p i hash bytes < i + bytes.length) : p.minSize < scan p i hash bytes := by
  induction bytes generalizing i hash with
  | nil => exact absurd h (Nat.lt_irrefl i)
  | cons b bytes ih =>
      rw [List.length_cons] at h
      rw [scan] at h ⊢
      split
      next hi =>
        rw [if_pos hi] at h
        exact ih (i + 1) hash (by omega)
      next hi =>
        rw [if_neg hi] at h
        cases hm : p.maskAt i with
        | none =>
            -- the scan has run to the maximal size
            have hmax : ¬ i < p.maxSize := by
              intro hlt
              rw [Parameters.maskAt, if_pos hlt] at hm
              split at hm <;> cases hm
            dsimp only
            omega
        | some mask =>
            simp only [hm] at h ⊢
            split
            next => omega
            next hz =>
              rw [if_neg hz] at h
              exact ih (i + 1) (roll hash b) (by omega)

theorem minSize_lt_cut (hsizes : p.minSize < p.maxSize) (h : cut p bytes < bytes.length) :
    p.minSize < cut p bytes := by
  cases bytes with
  | nil => exact absurd h (Nat.not_lt_zero _)
  | cons b bytes =>
      simp only [cut] at h ⊢
      have := minSize_lt_scan hsizes 0 0 (b :: bytes) (by omega)
      omega

theorem alignedCut_le_of_cut {n : Nat} (hn : 4 ≤ n) (h : cut p bytes ≤ n) : alignedCut p align bytes ≤ n := by
  simp only [alignedCut]
  split
  next => exact h
  next =>
    split
    next =>
      rw [List.length_take]
      omega
    next => omega

theorem alignedCut_cases (bytes : List UInt8) : 4 ∣ alignedCut p true bytes ∨
    alignedCut p true bytes = bytes.length ∧ bytes.length < 4 := by
  simp only [alignedCut, Bool.not_true, Bool.false_eq_true, if_false]
  split
  next =>
    rw [List.length_take]
    omega
  next => exact .inl (Nat.dvd_sub_mod _)

end cuts

section chunks

variable {pieces : List (List UInt8)} {n : Nat}

theorem dvd_length_flatten (h : ∀ c ∈ pieces, n ∣ c.length) : n ∣ pieces.flatten.length := by
  induction pieces with
  | nil => exact Nat.dvd_zero n
  | cons c pieces ih =>
      rw [List.forall_mem_cons] at h
      rw [List.flatten_cons, List.length_append]
      exact Nat.dvd_add h.1 (ih h.2)

theorem dvd_start_of_mem_boundariesFrom {start : Nat} (hstart : n ∣ start)
    (h : ∀ c ∈ pieces.dropLast, n ∣ c.length) : ∀ b ∈ boundariesFrom start pieces, n ∣ b.start := by
  induction pieces generalizing start with
  | nil => simp [boundariesFrom]
  | cons c pieces ih =>
      rw [boundariesFrom, List.forall_mem_cons]
      refine ⟨hstart, ?_⟩
      cases pieces with
      | nil => simp [boundariesFrom]
      | cons d pieces =>
          rw [List.dropLast_cons_cons, List.forall_mem_cons] at h
          exact ih (Nat.dvd_add hstart h.1) h.2

/-- Chunks of `size` bytes that are cut at multiples of four. What is left behind the last multiple is
in the last chunk. -/
structure Aligned (chunks : List (List UInt8)) (size : Nat) : Prop where
  start : ∀ b ∈ boundariesFrom 0 chunks, 4 ∣ b.start
  front : ∀ c ∈ chunks.dropLast, 0 < c.length ∧ 4 ∣ c.length
  last : ∃ c ∈ chunks.getLast?, if size % 4 = 0 then 4 ∣ c.length else c.length = size % 4

theorem aligned_chunks (p : Parameters) (bytes : List UInt8) : Aligned (chunks p true bytes) bytes.length := by
  have hfront : ∀ c ∈ (chunks p true bytes).dropLast, 0 < c.length ∧ 4 ∣ c.length := by
    refine forall_mem_dropLast_chunks p true (P := fun n => 0 < n ∧ 4 ∣ n) ?_ bytes
    intro bytes hlt
    have hbytes : bytes ≠ [] := List.length_pos_iff.1 (Nat.zero_lt_of_lt hlt)
    refine ⟨alignedCut_pos p true hbytes, (alignedCut_cases bytes).resolve_right ?_⟩
    rintro ⟨hall, -⟩
    exact Nat.ne_of_lt hlt hall
  have hdvd : ∀ c ∈ (chunks p true bytes).dropLast, 4 ∣ c.length := fun c hc => (hfront c hc).2
  have hshort : ∀ c ∈ chunks p true bytes, 4 ∣ c.length ∨ c.length < 4 := by
    refine forall_mem_chunks p true (P := fun n => 4 ∣ n ∨ n < 4) (fun bytes => ?_) bytes
    exact (alignedCut_cases bytes).imp_right fun hall => by omega
  refine ⟨dvd_start_of_mem_boundariesFrom (Nat.dvd_zero 4) hdvd, hfront, ?_⟩
  -- the last chunk is as long as all bytes, up to a multiple of four
  have hsize := flatten_chunks p true bytes
  obtain ⟨front, last, hsplit⟩ := exists_chunks_eq_concat p true bytes
  rw [hsplit] at hsize hdvd hshort ⊢
  rw [List.dropLast_concat] at hdvd
  have hrest := dvd_length_flatten hdvd
  have hlast := hshort last (List.mem_append_right _ (List.mem_singleton_self last))
  refine ⟨last, List.getLast?_concat, ?_⟩
  rw [← hsize, List.flatten_append, List.flatten_singleton, List.length_append]
  split
  next => omega
  next => omega

end chunks

structure Bounded (least most : Nat) (chunks : List (List UInt8)) : Prop where
  le : ∀ c ∈ chunks, c.length ≤ most
  gt : ∀ c ∈ chunks.dropLast, least < c.length

/-- An average size bounds the chunks that are cut for it; aligned ones are cut at multiples of four. -/
theorem sizes_of_average {average : Nat} (h : 1 ≤ average ∧ average ≤ Parameters.maxAverage)
    (bytes : List UInt8) :
    (∃ chunks, chunksOfAverage average false bytes = .ok chunks ∧
      Bounded (average / 4) (8 * average) chunks) ∧
    ∃ chunks, chunksOfAverage average true bytes = .ok chunks ∧
      (∀ c ∈ chunks, c.length ≤ 8 * average) ∧ Aligned chunks bytes.length := by
  have hok (align : Bool) :
      chunksOfAverage average align bytes = .ok (chunks (.derive average) align bytes) := by
    rw [chunksOfAverage, Parameters.ofAverage, if_pos h]
    rfl
  have hmin : (Parameters.derive average).minSize = average / 4 := rfl
  have hmax : (Parameters.derive average).maxSize = 8 * average := rfl
  have hcenter : (Parameters.derive average).centerSize ≤ average := Nat.sub_le _ _
  have hcut (bytes : List UInt8) : cut (.derive average) bytes ≤ 8 * average :=
    cut_le_of_sizes _ (by omega) (by omega) (by omega) (by omega) bytes
  have hle (align : Bool) : ∀ c ∈ chunks (.derive average) align bytes, c.length ≤ 8 * average :=
    length_le_of_mem_chunks _ align (fun bytes => alignedCut_le_of_cut (by omega) (hcut bytes)) bytes
  refine ⟨⟨_, hok false, hle false, ?_⟩, _, hok true, hle true, aligned_chunks _ bytes⟩
  refine forall_mem_dropLast_chunks _ false (P := fun n => average / 4 < n) (fun bytes hlt => ?_) bytes
  rw [← hmin]
  exact minSize_lt_cut (by omega) hlt

theorem sizes_of_average_smallest :
    (1 ≤ 1 ∧ 1 ≤ Parameters.maxAverage) ∧
    chunksOfAverage 1 true [0, 1, 2, 3, 4, 5, 6] = .ok [[0, 1, 2, 3], [4, 5, 6]] ∧
    Aligned [[0, 1, 2, 3], [4, 5, 6]] 7 := by
  have hrange : 1 ≤ 1 ∧ 1 ≤ Parameters.maxAverage := by decide
  have hchunks : chunksOfAverage 1 true [0, 1, 2, 3, 4, 5, 6] = .ok [[0, 1, 2, 3], [4, 5, 6]] := by
    decide +kernel
  obtain ⟨-, chunks, hok, -, haligned⟩ := sizes_of_average hrange [0, 1, 2, 3, 4, 5, 6]
  rw [hchunks, Except.ok.injEq] at hok
  subst hok
  exact ⟨hrange, hchunks, haligned⟩

end ContentCode.Chunking
