import ContentCode.Proofs.InputErrors
import ContentCode.Proofs.PieceReading

/-!
Varnibbles within a bit string. At every position a reading finds the one number whose form begins there,
if one does, and stays within the bits in any case; no form is the beginning of another.
-/

namespace ContentCode

open Bits Bits.Reading

namespace Bits

variable {α β : Type}

def Reader.seek (bytes : List UInt8) (position : Nat) : Reader :=
  ⟨position, (Bits.ofBytes bytes).drop position⟩

theorem Reader.takes_seek {bytes : List UInt8} {position : Nat} {digits : List Bool} {r : Reader} :
    (Reader.seek bytes position).Takes digits r ↔
      digits <+: (Bits.ofBytes bytes).drop position ∧ r = .seek bytes (position + digits.length) := by
  constructor
  · rintro ⟨hrest, hposition⟩
    refine ⟨⟨r.rest, hrest.symm⟩, ?_⟩
    have hdrop : r.rest = (Bits.ofBytes bytes).drop (position + digits.length) := by
      rw [← List.drop_drop]
      exact (List.drop_left' rfl).symm.trans (congrArg (List.drop digits.length) hrest.symm)
    cases r
    simp_all [Reader.seek]
  · rintro ⟨⟨rest, hrest⟩, rfl⟩
    refine ⟨?_, rfl⟩
    rw [Reader.seek, Reader.seek, ← List.drop_drop, ← hrest, List.drop_left]

namespace Reading

/-- However a reading ends, it has gone over some bits and stands behind them. -/
def Advances (m : Reading α) : Prop := ∀ r : Reader, ∃ digits, r.Takes digits (m.run r).2

namespace Advances

variable {m m' : Reading α} {f : α → Reading β}

theorem pure (a : α) : Advances (Pure.pure a) := fun _ => ⟨[], Reader.takes_nil.2 rfl⟩

theorem throw (e : Error) : Advances (throw e : Reading α) := fun _ => ⟨[], Reader.takes_nil.2 rfl⟩

theorem bind (hm : Advances m) (hf : ∀ a, Advances (f a)) : Advances (m >>= f) := by
  intro r
  obtain ⟨digits, hdigits⟩ := hm r
  rw [run_bind]
  generalize (m.run r : Except Error α × Reader) = result at hdigits ⊢
  rcases result with ⟨e | a, s⟩
  · exact ⟨digits, hdigits⟩
  · obtain ⟨more, hmore⟩ := hf a s
    exact ⟨digits ++ more, Reader.takes_append.2 ⟨s, hdigits, hmore⟩⟩

theorem ite {p : Prop} [Decidable p] (hm : Advances m) (hm' : Advances m') : Advances (if p then m else m') := by
  by_cases hp : p
  · rwa [if_pos hp]
  · rwa [if_neg hp]

end Advances

theorem advances_bit : Advances bit := by
  intro r
  rcases r with ⟨position, _ | ⟨b, rest⟩⟩
  · exact ⟨[], Reader.takes_nil.2 rfl⟩
  · exact ⟨[b], rfl, rfl⟩

theorem advances_bits (n : Nat) : Advances (bits n) := by
  intro r
  have hrun : ((bits n).run r : Except Error Nat × Reader) =
      if r.rest.length < n then (.error .truncatedHeader, r)
      else (.ok (toNat (r.rest.take n)), ⟨r.position + n, r.rest.drop n⟩) := rfl
  rw [hrun]
  split
  next => exact ⟨[], Reader.takes_nil.2 rfl⟩
  next h =>
    refine ⟨r.rest.take n, (List.take_append_drop n r.rest).symm, ?_⟩
    rw [List.length_take, Nat.min_eq_left (Nat.le_of_not_lt h)]

end Reading

/-- Pushing `v` as a varnibble adds `digits`, wherever a writer stands. -/
def Writer.Pushes (v : Nat) (digits : List Bool) : Prop :=
  ∀ w written, Writer.Spells w written →
    ∃ after, w.step (.varnibble v) = (.ok (), after) ∧ after.Spells (written ++ digits)

theorem Writer.Spells.inj {w : Writer} {bits bits' : List Bool} (h : w.Spells bits) (h' : w.Spells bits') :
    bits = bits' := by
  have hlength : bits.length = bits'.length := h.length.symm.trans h'.length
  exact (List.append_inj (h.bytes.symm.trans h'.bytes) hlength).1

end Bits

namespace Varnibble

theorem advances_read : Advances read := by
  have hbits (n k : Nat) : Advances (do return (← bits n) + k) :=
    (advances_bits n).bind fun _ => .pure _
  refine advances_bit.bind fun _ => .ite (advances_bits 3) ?_
  refine advances_bit.bind fun _ => .ite (hbits 6 8) ?_
  refine advances_bit.bind fun _ => .ite (hbits 9 72) ?_
  exact advances_bit.bind fun _ => .ite (hbits 12 584) (.throw _)

theorem pushes_iff {v : Nat} {d : List Bool} : Writer.Pushes v d ↔ v ≤ maxValue ∧ d = digits v := by
  have hdigits (hv : v ≤ maxValue) : Writer.Pushes v (digits v) := by
    intro w written hspells
    obtain ⟨u, hu, heq, -⟩ | hdone := hspells.step (.varnibble v)
    · cases heq
      exact absurd hv (Nat.not_le_of_lt hu)
    · exact hdone
  constructor
  · intro h
    obtain ⟨after, hstep, hafter⟩ := h .empty [] Writer.spells_empty
    have hv : v ≤ maxValue := by
      by_contra hv
      rw [Writer.step, encode, if_neg hv] at hstep
      cases hstep
    obtain ⟨after', hstep', hafter'⟩ := hdigits hv .empty [] Writer.spells_empty
    rw [hstep] at hstep'
    cases hstep'
    exact ⟨hv, hafter.inj hafter'⟩
  · rintro ⟨hv, rfl⟩
    exact hdigits hv

/-- The marks of varnibbles, and how many bits follow each of them. -/
def forms : List (List Bool × Nat) :=
  [([false], 3), ([true, false], 6), ([true, true, false], 9), ([true, true, true, false], 12)]

theorem exists_digits_iff {d : List Bool} : (∃ v ≤ maxValue, digits v = d) ↔
    ∃ f ∈ forms, f.1 <+: d ∧ d.length = f.1.length + f.2 := by
  constructor
  · rintro ⟨v, -, rfl⟩
    rw [digits]
    split
    next => exact ⟨([false], 3), by simp [forms], ⟨_, rfl⟩, by simp⟩
    next =>
      split
      next => exact ⟨([true, false], 6), by simp [forms], ⟨_, rfl⟩, by simp⟩
      next =>
        split
        next => exact ⟨([true, true, false], 9), by simp [forms], ⟨_, rfl⟩, by simp⟩
        next => exact ⟨([true, true, true, false], 12), by simp [forms], ⟨_, rfl⟩, by simp⟩
  · rintro ⟨f, hf, ⟨payload, rfl⟩, hlength⟩
    rw [List.length_append, Nat.add_left_cancel_iff] at hlength
    have hlt := toNat_lt payload
    have hback := ofNat_toNat payload
    simp only [forms, List.mem_cons, List.not_mem_nil, or_false] at hf
    -- What follows a mark counts from the first number that the marks in front have no room for.
    rcases hf with rfl | rfl | rfl | rfl
    all_goals
      dsimp only at hlength
      rw [hlength] at hlt hback
    · refine ⟨toNat payload, by simp only [maxValue]; omega, ?_⟩
      rw [digits, if_pos (by omega), hback]
      rfl
    · refine ⟨toNat payload + 8, by simp only [maxValue]; omega, ?_⟩
      rw [digits, if_neg (by omega), if_pos (by omega), Nat.add_sub_cancel, hback]
      rfl
    · refine ⟨toNat payload + 72, by simp only [maxValue]; omega, ?_⟩
      rw [digits, if_neg (by omega), if_neg (by omega), if_pos (by omega), Nat.add_sub_cancel, hback]
      rfl
    · refine ⟨toNat payload + 584, by simp only [maxValue]; omega, ?_⟩
      rw [digits, if_neg (by omega), if_neg (by omega), if_neg (by omega), Nat.add_sub_cancel, hback]
      rfl

theorem eq_of_digits_isPrefix {v w : Nat} (hv : v ≤ maxValue) (hw : w ≤ maxValue)
    (h : digits v <+: digits w) : v = w := by
  obtain ⟨rest, hrest⟩ := h
  have hreadv : Yields read ⟨0, digits w⟩ v ⟨(digits v).length, rest⟩ :=
    yields_read.2 ⟨hv, hrest.symm, (Nat.zero_add _).symm⟩
  have hreadw : Yields read ⟨0, digits w⟩ w ⟨(digits w).length, []⟩ :=
    yields_read.2 ⟨hw, (List.append_nil _).symm, (Nat.zero_add _).symm⟩
  exact Except.ok.inj (congrArg Prod.fst (hreadv.symm.trans hreadw))

section seek

variable {bytes : List UInt8} {position : Nat}

theorem yields_read_seek {v : Nat} {r : Reader} : Yields read (.seek bytes position) v r ↔
    ∃ d, Writer.Pushes v d ∧ d <+: (ofBytes bytes).drop position ∧ r = .seek bytes (position + d.length) := by
  rw [yields_read, Reader.takes_seek]
  simp only [pushes_iff]
  constructor
  · rintro ⟨hv, hd⟩
    exact ⟨_, ⟨hv, rfl⟩, hd⟩
  · rintro ⟨_, ⟨hv, rfl⟩, hd⟩
    exact ⟨hv, hd⟩

theorem exists_yields_read_seek : (∃ v r, Yields read (.seek bytes position) v r) ↔
    ∃ f ∈ forms, f.1 <+: (ofBytes bytes).drop position ∧
      f.1.length + f.2 ≤ ((ofBytes bytes).drop position).length := by
  simp only [yields_read_seek, pushes_iff]
  constructor
  · rintro ⟨v, _, _, ⟨hv, rfl⟩, hrest, -⟩
    obtain ⟨f, hf, hmark, hlength⟩ := exists_digits_iff.1 ⟨v, hv, rfl⟩
    exact ⟨f, hf, hmark.trans hrest, hlength ▸ hrest.length_le⟩
  · rintro ⟨f, hf, hmark, hle⟩
    have htake : (((ofBytes bytes).drop position).take (f.1.length + f.2)).length = f.1.length + f.2 :=
      List.length_take_of_le hle
    have hprefix : f.1 <+: ((ofBytes bytes).drop position).take (f.1.length + f.2) :=
      List.prefix_of_prefix_length_le hmark (List.take_prefix _ _) (by rw [htake]; omega)
    obtain ⟨v, hv, hdigits⟩ := exists_digits_iff.2 ⟨f, hf, hprefix, htake⟩
    exact ⟨v, _, _, ⟨hv, hdigits.symm⟩, List.take_prefix _ _, rfl⟩

theorem exists_run_read_seek (h : position ≤ 8 * bytes.length) :
    ∃ stop, (read.run (.seek bytes position) : Except Error Nat × Reader).2 = .seek bytes stop ∧
      position ≤ stop ∧ stop ≤ 8 * bytes.length := by
  obtain ⟨d, hd⟩ := advances_read (.seek bytes position)
  obtain ⟨hrest, hr⟩ := Reader.takes_seek.1 hd
  refine ⟨_, hr, Nat.le_add_right _ _, ?_⟩
  have hle := hrest.length_le
  rw [List.length_drop, length_ofBytes] at hle
  omega

end seek

/-- A number is read, at any position of any bytes, exactly where one of the marks and the bits that it
asks for follow; the bits that it takes are those that pushing the number adds, and of these there are no
two for one number and none that begin with those of another. Whatever follows, the reader stays within
the bytes. -/
theorem read_canonical :
    (∀ bytes position, position ≤ 8 * bytes.length →
      ((∃ v r, Yields read (.seek bytes position) v r) ↔
        ∃ f ∈ forms, f.1 <+: (ofBytes bytes).drop position ∧
          f.1.length + f.2 ≤ ((ofBytes bytes).drop position).length) ∧
      (∀ v r, Yields read (.seek bytes position) v r ↔ v ≤ maxValue ∧ ∃ d, Writer.Pushes v d ∧
        d <+: (ofBytes bytes).drop position ∧ r = .seek bytes (position + d.length)) ∧
      (∃ stop, (read.run (.seek bytes position) : Except Error Nat × Reader).2 = .seek bytes stop ∧
        position ≤ stop ∧ stop ≤ 8 * bytes.length) ∧
      ∀ e, (read.run (.seek bytes position) : Except Error Nat × Reader).1 = .error e →
        e.kind = .invalidArgument) ∧
    (∀ v ≤ maxValue, ∃! d, Writer.Pushes v d) ∧
    ∀ v w d e, Writer.Pushes v d → Writer.Pushes w e → d <+: e → v = w ∧ d = e := by
  refine ⟨fun bytes position hposition => ⟨exists_yields_read_seek, fun v r => ?_,
    exists_run_read_seek hposition, fun e he => (failsOnBits_read _ e he).kind⟩, fun v hv => ?_, ?_⟩
  · rw [yields_read_seek]
    refine ⟨fun h => ⟨?_, h⟩, fun h => h.2⟩
    obtain ⟨d, hd, -⟩ := h
    exact (pushes_iff.1 hd).1
  · exact ⟨digits v, pushes_iff.2 ⟨hv, rfl⟩, fun d hd => (pushes_iff.1 hd).2⟩
  · intro v w d e hd he hprefix
    obtain ⟨hv, rfl⟩ := pushes_iff.1 hd
    obtain ⟨hw, rfl⟩ := pushes_iff.1 he
    obtain rfl := eq_of_digits_isPrefix hv hw hprefix
    exact ⟨rfl, rfl⟩

theorem read_canonical_unaligned :
    3 ≤ 8 * [247, 255].length ∧ Writer.Pushes 71 [true, false, true, true, true, true, true, true] ∧
    Yields read (.seek [247, 255] 3) 71 (.seek [247, 255] 11) ∧
    ¬ ∃ v r, Yields read (.seek [247, 255] 0) v r := by
  have hpushes : Writer.Pushes 71 [true, false, true, true, true, true, true, true] :=
    pushes_iff.2 ⟨by decide, by decide⟩
  have hinside := (read_canonical.1 [247, 255] 3 (by decide)).2.1 71 (.seek [247, 255] 11)
  have hstart := (read_canonical.1 [247, 255] 0 (by decide)).1
  refine ⟨by decide, hpushes, hinside.2 ⟨by decide, _, hpushes, by decide, rfl⟩, fun h => ?_⟩
  exact absurd (hstart.1 h) (by decide)

end Varnibble

end ContentCode
