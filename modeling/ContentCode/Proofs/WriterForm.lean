import ContentCode.Bits.Writer
import ContentCode.Proofs.BitGroups

/-!
What the bytes of a writer are. At every moment they spell the bits written so far, with zeros up to the
next byte boundary and nothing else behind them.
-/

namespace ContentCode.Bits

theorem ofNat_lor_two_pow {n v : Nat} {d e : List Bool} (h : ofNat n v = d ++ false :: e) :
    ofNat n (v ||| 2 ^ e.length) = d ++ true :: e := by
  have hlen := congrArg List.length h
  rw [length_ofNat, List.length_append, List.length_cons] at hlen
  have hother {i : Nat} (hi : i ≠ e.length) : (v ||| 2 ^ e.length).testBit i = v.testBit i := by
    rw [Nat.testBit_or, Nat.testBit_two_pow_of_ne hi.symm, Bool.or_false]
  induction d generalizing n with
  | nil =>
      obtain rfl : n = e.length + 1 := by simpa using hlen
      rw [ofNat, List.nil_append, List.cons.injEq] at h ⊢
      refine ⟨by rw [Nat.testBit_or, Nat.testBit_two_pow_self, Bool.or_true], ?_⟩
      conv_rhs => rw [← h.2]
      exact ofNat_congr fun i hi => hother (Nat.ne_of_lt hi)
  | cons c d ih =>
      cases n with
      | zero => cases h
      | succ n =>
          rw [List.length_cons] at hlen
          rw [ofNat, List.cons_append, List.cons.injEq] at h ⊢
          exact ⟨(hother (by omega)).trans h.1, ih h.2 (by omega)⟩

theorem paddingSize_succ (n : Nat) : paddingSize (n + 1) = 7 - n % 8 := by
  rw [paddingSize]
  omega

theorem paddingSize_mul (n : Nat) : paddingSize (8 * n) = 0 := by
  rw [paddingSize]
  omega

theorem modify_concat {α : Type} (f : α → α) (xs : List α) (x : α) :
    (xs ++ [x]).modify ((xs ++ [x]).length - 1) f = xs ++ [f x] := by
  rw [List.length_append, List.length_singleton, Nat.add_sub_cancel, List.modify_eq_take_drop,
    List.take_left, List.drop_left, List.modifyHead_cons]

theorem ofBytes_modify {bytes : List UInt8} {d : List Bool} {k : Nat} (hk : k < 8)
    (h : ofBytes bytes = d ++ List.replicate (k + 1) false) :
    ofBytes (bytes.modify (bytes.length - 1) (· ||| UInt8.ofNat (Nat.pow 2 k))) =
      d ++ true :: List.replicate k false := by
  rcases List.eq_nil_or_concat bytes with rfl | ⟨front, last, rfl⟩
  · simp at h
  have hlen := congrArg List.length h
  rw [length_ofBytes, List.length_concat, List.length_append, List.length_replicate] at hlen
  rw [List.concat_eq_append, ofBytes_append, ofBytes_cons, ofBytes_nil, List.append_nil] at h
  obtain ⟨e, rfl⟩ : ofBytes front <+: d := by
    refine List.prefix_of_prefix_length_le ⟨_, h⟩ ⟨_, rfl⟩ ?_
    rw [length_ofBytes]
    omega
  rw [List.append_assoc, List.append_cancel_left_eq, List.replicate_succ] at h
  have hmask : (last ||| UInt8.ofNat (Nat.pow 2 k)).toNat = last.toNat ||| 2 ^ k := by
    have hlt : 2 ^ k < 256 := Nat.pow_lt_pow_right (by decide) hk
    rw [UInt8.toNat_or, Nat.pow_eq, UInt8.toNat_ofNat_of_lt' hlt]
  have hset := ofNat_lor_two_pow h
  rw [List.length_replicate] at hset
  rw [List.concat_eq_append, modify_concat, ofBytes_append, ofBytes_cons, ofBytes_nil, List.append_nil, hmask,
    hset, List.append_assoc]

namespace Writer

/-- The bits written to `w` are `bits`. -/
structure Spells (w : Writer) (bits : List Bool) : Prop where
  bytes : ofBytes w.bytes = bits ++ List.replicate (paddingSize bits.length) false
  length : w.length = bits.length

variable {w : Writer} {bits : List Bool}

theorem spells_empty : empty.Spells [] := ⟨rfl, rfl⟩

theorem Spells.push (h : w.Spells bits) (b : Bool) : (w.push b).Spells (bits ++ [b]) := by
  -- the byte that takes the bit is a new one, or has a zero at its place
  have hroom : ofBytes (if w.isAligned then w.bytes ++ [0] else w.bytes) =
      bits ++ List.replicate (7 - w.length % 8 + 1) false := by
    have hbytes := h.bytes
    rw [← h.length, paddingSize] at hbytes
    simp only [isAligned, beq_iff_eq]
    split
    next haligned =>
      rw [haligned] at hbytes ⊢
      rw [ofBytes_append, hbytes]
      simp [ofNat]
    next hopen =>
      rw [hbytes]
      congr 2
      omega
  have hlength : (w.push b).length = (bits ++ [b]).length := by
    rw [List.length_append, ← h.length]
    rfl
  refine ⟨?_, hlength⟩
  rw [← hlength]
  simp only [Writer.push, paddingSize_succ]
  cases b with
  | false =>
      rw [if_neg Bool.false_ne_true, hroom, List.replicate_succ, List.append_cons]
  | true =>
      rw [if_pos rfl, ofBytes_modify (by omega) hroom, List.append_cons]

theorem Spells.pushAll (h : w.Spells bits) (more : List Bool) : (w.pushAll more).Spells (bits ++ more) := by
  induction more generalizing w bits with
  | nil => rwa [List.append_nil]
  | cons b more ih =>
      rw [List.append_cons]
      exact ih (h.push b)

theorem Spells.append (h : w.Spells bits) (bytes : List UInt8) : (w.append bytes).Spells
    (bits ++ List.replicate (paddingSize bits.length) false ++ ofBytes bytes) := by
  have hbytes : ofBytes (w.bytes ++ bytes) =
      bits ++ List.replicate (paddingSize bits.length) false ++ ofBytes bytes := by
    rw [ofBytes_append, h.bytes]
  have hlength := congrArg List.length hbytes
  rw [length_ofBytes] at hlength
  refine ⟨?_, hlength⟩
  rw [← hlength, paddingSize_mul, List.replicate_zero, List.append_nil]
  exact hbytes

theorem Spells.pad (h : w.Spells bits) :
    w.pad.Spells (bits ++ List.replicate (paddingSize bits.length) false) := by
  simpa [Writer.pad, Writer.append] using h.append []

end Writer

def Piece.digits (position : Nat) : Piece → List Bool
  | bit b => [b]
  | number width v => ofNat width v
  | varnibble v => Varnibble.digits v
  | padding => List.replicate (paddingSize position) false
  | bytes bs => List.replicate (paddingSize position) false ++ ofBytes bs

namespace Writer

variable {w : Writer} {bits : List Bool}

/-- A piece is refused for one reason only, and leaves no trace then; else its bits are added. -/
theorem Spells.step (h : w.Spells bits) (p : Piece) :
    (∃ v > Varnibble.maxValue, p = .varnibble v ∧ w.step p = (.error (.varnibbleTooLarge v), w)) ∨
    ∃ after, w.step p = (.ok (), after) ∧ after.Spells (bits ++ p.digits bits.length) := by
  cases p with
  | bit b => exact .inr ⟨_, rfl, h.push b⟩
  | number width v => exact .inr ⟨_, rfl, h.pushAll _⟩
  | varnibble v =>
      by_cases hv : v ≤ Varnibble.maxValue
      · refine .inr ⟨_, ?_, h.pushAll _⟩
        rw [Writer.step, Varnibble.encode, if_pos hv]
        rfl
      · refine .inl ⟨v, Nat.lt_of_not_le hv, rfl, ?_⟩
        rw [Writer.step, Varnibble.encode, if_neg hv]
  | padding => exact .inr ⟨_, rfl, h.pad⟩
  | bytes bs =>
      refine .inr ⟨_, rfl, ?_⟩
      rw [Piece.digits, ← List.append_assoc]
      exact h.append bs

def after (w : Writer) (pieces : List Piece) : Writer := pieces.foldl (fun w p => (w.step p).2) w

theorem Spells.after (h : w.Spells bits) (pieces : List Piece) :
    ∃ more, (w.after pieces).Spells (bits ++ more) := by
  induction pieces generalizing w bits with
  | nil => exact ⟨[], by rwa [List.append_nil]⟩
  | cons p pieces ih =>
      rw [Writer.after, List.foldl_cons]
      obtain ⟨v, -, -, hstep⟩ | ⟨after, hstep, hafter⟩ := h.step p
      · rw [hstep]
        exact ih h
      · rw [hstep]
        obtain ⟨more, hmore⟩ := ih hafter
        exact ⟨_, by rwa [← List.append_assoc]⟩

/-- There are as many bytes as the bits need, and the bits behind them are zeros. -/
structure IsFilled (w : Writer) : Prop where
  size : w.bytes.length = (w.length + 7) / 8
  zeros : ∀ b ∈ (ofBytes w.bytes).drop w.length, b = false

theorem Spells.isFilled (h : w.Spells bits) : w.IsFilled := by
  constructor
  · have hsize := congrArg List.length h.bytes
    rw [length_ofBytes, List.length_append, List.length_replicate, ← h.length, paddingSize] at hsize
    omega
  · rw [h.bytes, List.drop_left' h.length.symm]
    exact fun b hb => List.eq_of_mem_replicate hb

end Writer

end ContentCode.Bits
