import ContentCode.Proofs.ChunkLocality

/-!
Chunks partition their bytes, whatever the parameters are. A chunker gives out the boundaries of
these chunks one after the other, and nothing from then on.
-/

namespace ContentCode.Chunking

def boundariesFrom (start : Nat) : List (List UInt8) → List Boundary
  | [] => []
  | c :: chunks => ⟨start, start + c.length⟩ :: boundariesFrom (start + c.length) chunks

def Boundary.slice (b : Boundary) (bytes : List UInt8) : List UInt8 := (bytes.take b.stop).drop b.start

/-- Boundaries that lie side by side and take up all of `size` bytes. Only no bytes at all have an
empty one. -/
structure Partitions (bounds : List Boundary) (size : Nat) : Prop where
  first : bounds.head?.map Boundary.start = some 0
  adjacent : bounds.IsChain fun a b => b.start = a.stop
  last : bounds.getLast?.map Boundary.stop = some size
  nonempty : size ≠ 0 → ∀ b ∈ bounds, b.start < b.stop
  eq_of_zero : size = 0 → bounds = [⟨0, 0⟩]
  length_le : bounds.length ≤ max 1 size

section boundaries

variable {start : Nat} {chunks : List (List UInt8)}

theorem head?_boundariesFrom (h : chunks ≠ []) :
    (boundariesFrom start chunks).head?.map Boundary.start = some start := by
  cases chunks with
  | nil => exact absurd rfl h
  | cons c chunks => rfl

theorem isChain_boundariesFrom :
    (boundariesFrom start chunks).IsChain fun a b => b.start = a.stop := by
  induction chunks generalizing start with
  | nil => exact .nil
  | cons c chunks ih =>
      cases chunks with
      | nil => exact .singleton _
      | cons d chunks => exact .cons_cons rfl ih

theorem getLast?_boundariesFrom (h : chunks ≠ []) :
    (boundariesFrom start chunks).getLast?.map Boundary.stop =
      some (start + chunks.flatten.length) := by
  induction chunks generalizing start with
  | nil => exact absurd rfl h
  | cons c chunks ih =>
      cases chunks with
      | nil => simp [boundariesFrom]
      | cons d chunks =>
          have hrest := @ih (start + c.length) (List.cons_ne_nil d chunks)
          rw [boundariesFrom] at hrest
          rw [boundariesFrom, boundariesFrom, List.getLast?_cons_cons, hrest,
            List.flatten_cons (l := c), List.length_append, Nat.add_assoc]

theorem start_lt_of_mem_boundariesFrom (h : ∀ c ∈ chunks, c ≠ []) :
    ∀ b ∈ boundariesFrom start chunks, b.start < b.stop := by
  induction chunks generalizing start with
  | nil => simp [boundariesFrom]
  | cons c chunks ih =>
      rw [List.forall_mem_cons] at h
      have hpos := List.length_pos_iff.2 h.1
      rw [boundariesFrom, List.forall_mem_cons]
      exact ⟨by dsimp only; omega, ih h.2⟩

theorem length_boundariesFrom : (boundariesFrom start chunks).length = chunks.length := by
  induction chunks generalizing start with
  | nil => rfl
  | cons c chunks ih => rw [boundariesFrom, List.length_cons, List.length_cons, ih]

theorem map_slice_boundariesFrom (before : List UInt8) (h : start = before.length) :
    (boundariesFrom start chunks).map (fun b => b.slice (before ++ chunks.flatten)) = chunks := by
  induction chunks generalizing start before with
  | nil => rfl
  | cons c chunks ih =>
      subst h
      have hrest := ih (before ++ c) List.length_append.symm
      rw [List.append_assoc] at hrest
      have hfirst : (before ++ (c ++ chunks.flatten)).take (before.length + c.length) = before ++ c := by
        rw [← List.append_assoc, List.take_left' List.length_append]
      rw [boundariesFrom, List.map_cons, List.flatten_cons, hrest, Boundary.slice, hfirst,
        List.drop_left]

theorem length_le_length_flatten (h : ∀ c ∈ chunks, c ≠ []) :
    chunks.length ≤ chunks.flatten.length := by
  induction chunks with
  | nil => exact Nat.le_refl 0
  | cons c chunks ih =>
      rw [List.forall_mem_cons] at h
      have hpos := List.length_pos_iff.2 h.1
      have hrest := ih h.2
      rw [List.length_cons, List.flatten_cons, List.length_append]
      omega

end boundaries

variable (p : Parameters) (align : Bool)

theorem flatten_cutAll (bytes : List UInt8) : (cutAll p align bytes).flatten = bytes := by
  fun_induction cutAll p align bytes with
  | case1 => rfl
  | case2 bytes _ _ _ ih => rw [List.flatten_cons, ih, List.take_append_drop]

theorem flatten_chunks (bytes : List UInt8) : (chunks p align bytes).flatten = bytes := by
  rw [chunks]
  split
  next h => rw [h, List.flatten_singleton]
  next => exact flatten_cutAll p align bytes

theorem partitions_chunks (bytes : List UInt8) :
    Partitions (boundariesFrom 0 (chunks p align bytes)) bytes.length := by
  have hne := chunks_ne_nil p align bytes
  have hall := flatten_chunks p align bytes
  refine ⟨head?_boundariesFrom hne, isChain_boundariesFrom, ?_, ?_, ?_, ?_⟩
  · rw [getLast?_boundariesFrom hne, hall, Nat.zero_add]
  · intro hsize
    have hbytes : bytes ≠ [] := mt List.length_eq_zero_iff.2 hsize
    exact start_lt_of_mem_boundariesFrom (ne_nil_of_mem_chunks p align hbytes)
  · intro hsize
    rw [List.length_eq_zero_iff.1 hsize]
    rfl
  · rw [length_boundariesFrom]
    by_cases hbytes : bytes = []
    · subst hbytes
      exact Nat.le_max_left 1 0
    · have hle := length_le_length_flatten (ne_nil_of_mem_chunks p align hbytes)
      rw [hall] at hle
      exact Nat.le_trans hle (Nat.le_max_right 1 _)

theorem boundariesFrom_chunks (start : Nat) (bytes : List UInt8) :
    boundariesFrom start (chunks p align bytes) =
      ⟨start, start + alignedCut p align bytes⟩ ::
        if bytes.drop (alignedCut p align bytes) = [] then []
        else boundariesFrom (start + alignedCut p align bytes)
          (chunks p align (bytes.drop (alignedCut p align bytes))) := by
  by_cases hbytes : bytes = []
  · subst hbytes
    cases align <;> rfl
  · have hsize : (bytes.take (alignedCut p align bytes)).length = alignedCut p align bytes := by
      rw [List.length_take, Nat.min_eq_left (alignedCut_le p align bytes)]
    rw [chunks, if_neg hbytes, cutAll_of_ne_nil p align hbytes, boundariesFrom, hsize]
    split
    next hrest =>
      rw [hrest, (cutAll_eq_nil_iff p align []).2 rfl]
      rfl
    next hrest => rw [chunks, if_neg hrest]

namespace Chunker

def after (c : Chunker) : Nat → Chunker
  | 0 => c
  | n + 1 => (c.after n).next.2

/-- The boundaries that a chunker which is not finished has still to give out. -/
def pending (c : Chunker) : List Boundary :=
  boundariesFrom c.position (chunks c.parameters c.align c.rest)

variable {c : Chunker}

theorem after_succ (n : Nat) : c.after (n + 1) = (c.after n).next.2 := rfl

theorem after_next (n : Nat) : c.next.2.after n = c.after (n + 1) := by
  induction n with
  | zero => rfl
  | succ n ih => rw [after_succ, ih, ← after_succ]

theorem next_of_finished (h : c.isFinished = true) : c.next = (none, c) := by
  rw [next, if_pos h]

theorem after_of_finished (h : c.isFinished = true) (n : Nat) : c.after n = c := by
  induction n with
  | zero => rfl
  | succ n ih => rw [after, ih, next_of_finished h]

/-- A call gives out the first boundary that is pending; the chunker goes on with the others, and is
finished if there are none. -/
theorem next_of_not_finished (h : c.isFinished = false) :
    ∃ b, c.next.1 = some b ∧ c.next.2.position = b.stop ∧
      c.pending = b :: if c.next.2.isFinished then [] else c.next.2.pending := by
  have hpending := boundariesFrom_chunks c.parameters c.align c.position c.rest
  rw [next, h, if_neg Bool.false_ne_true]
  refine ⟨_, rfl, rfl, ?_⟩
  simp only [List.isEmpty_iff]
  exact hpending

theorem next_after (h : c.isFinished = false) (n : Nat) : (c.after n).next.1 = c.pending[n]? := by
  induction n generalizing c with
  | zero =>
      obtain ⟨b, hb, -, hpending⟩ := next_of_not_finished h
      rw [hpending]
      exact hb
  | succ n ih =>
      obtain ⟨b, -, -, hpending⟩ := next_of_not_finished h
      rw [← after_next, hpending, List.getElem?_cons_succ]
      cases hend : c.next.2.isFinished with
      | true =>
          rw [after_of_finished hend, next_of_finished hend]
          rfl
      | false => exact ih hend

theorem position_add_remaining_next : c.next.2.position + c.next.2.remaining = c.position + c.remaining := by
  cases h : c.isFinished with
  | true => rw [next_of_finished h]
  | false =>
      have hle := alignedCut_le c.parameters c.align c.rest
      rw [next, h, if_neg Bool.false_ne_true]
      simp only [remaining, List.length_drop]
      omega

theorem position_add_remaining_after (n : Nat) :
    (c.after n).position + (c.after n).remaining = c.position + c.remaining := by
  induction n with
  | zero => rfl
  | succ n ih => rw [after, position_add_remaining_next, ih]

theorem position_after (h : c.isFinished = false) (n : Nat) :
    (c.pending.take (n + 1)).getLast?.map Boundary.stop = some (c.after (n + 1)).position := by
  induction n with
  | zero =>
      obtain ⟨b, -, hposition, hpending⟩ := next_of_not_finished h
      rw [hpending, after, after, hposition]
      rfl
  | succ n ih =>
      rw [List.take_add_one, ← next_after h, after_succ (n + 1)]
      cases hend : (c.after (n + 1)).isFinished with
      | true =>
          rw [next_of_finished hend, Option.toList_none, List.append_nil]
          exact ih
      | false =>
          obtain ⟨b, hb, hposition, -⟩ := next_of_not_finished hend
          rw [hb, Option.toList_some, List.getLast?_concat, hposition]
          rfl

/-- Whatever the parameters are, the calls give out a partition of the bytes and nothing more, and
the chunks between its boundaries make up the bytes. -/
theorem next_partitions (bytes : List UInt8) :
    (∃ bounds, Partitions bounds bytes.length ∧
      (∀ n, ((new p align bytes).after n).next.1 = bounds[n]?) ∧
      (∀ n, some ((new p align bytes).after (n + 1)).position =
        (bounds.take (n + 1)).getLast?.map Boundary.stop) ∧
      (∀ n, ((new p align bytes).after n).position + ((new p align bytes).after n).remaining =
        bytes.length) ∧
      chunks p align bytes = bounds.map fun b => b.slice bytes) ∧
    ∀ average, (∃ chunks, chunksOfAverage average align bytes = .ok chunks ∧ chunks.flatten = bytes) ↔
      1 ≤ average ∧ average ≤ Parameters.maxAverage := by
  refine ⟨⟨(new p align bytes).pending, partitions_chunks p align bytes, ?_, ?_, ?_, ?_⟩, ?_⟩
  · exact next_after rfl
  · exact fun n => (position_after rfl n).symm
  · intro n
    rw [position_add_remaining_after]
    exact Nat.zero_add _
  · have hslices : (boundariesFrom 0 (chunks p align bytes)).map
        (fun b => b.slice ([] ++ (chunks p align bytes).flatten)) = chunks p align bytes :=
      map_slice_boundariesFrom [] rfl
    rw [List.nil_append, flatten_chunks] at hslices
    exact hslices.symm
  · intro average
    constructor
    · rintro ⟨chunks, hchunks, -⟩
      by_contra hrange
      rw [chunksOfAverage, Parameters.ofAverage, if_neg hrange] at hchunks
      cases hchunks
    · intro hrange
      refine ⟨chunks (Parameters.derive average) align bytes, ?_, flatten_chunks _ align bytes⟩
      rw [chunksOfAverage, Parameters.ofAverage, if_pos hrange]
      rfl

end Chunker

end ContentCode.Chunking
