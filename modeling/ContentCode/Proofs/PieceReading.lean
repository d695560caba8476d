import ContentCode.Proofs.HeaderForm
import ContentCode.Proofs.WriterForm

/-!
Pieces that are written one after the other, wherever they begin, are read back by their shapes in the
same order.
-/

namespace ContentCode.Bits

/-- The piece that is read in the place of a written one: of a number, the bits that were written. -/
def Piece.cut : Piece → Piece
  | number width v => .number width (v % 2 ^ width)
  | bit b => .bit b
  | varnibble v => .varnibble v
  | padding => .padding
  | bytes bs => .bytes bs

def Piece.FitsAt (position : Nat) : Piece → Prop
  | varnibble v => v ≤ Varnibble.maxValue
  | bytes _ => position % 8 = 0
  | bit _ | number _ _ | padding => True

def Writer.Accepts (w : Writer) : List Piece → Prop
  | [] => True
  | p :: pieces => p.FitsAt w.length ∧ (w.step p).2.Accepts pieces

variable {r r' : Reader}

theorem ofNat_mod (n v : Nat) : ofNat n (v % 2 ^ n) = ofNat n v :=
  ofNat_congr fun i hi => by rw [Nat.testBit_mod_two_pow, decide_eq_true hi, Bool.true_and]

theorem Reading.yields_bytes {bs : List UInt8} (h : r.Takes (ofBytes bs) r') :
    Yields (Reading.bytes bs.length) r bs r' := by
  induction bs generalizing r with
  | nil =>
      rw [ofBytes_nil, Reader.takes_nil] at h
      exact yields_pure.2 ⟨rfl, h⟩
  | cons b bs ih =>
      rw [ofBytes_cons, Reader.takes_append] at h
      obtain ⟨s, hb, hbs⟩ := h
      rw [List.length_cons, Reading.bytes, yields_bind]
      refine ⟨b.toNat, s, yields_bits.2 ⟨b.toNat_lt, hb⟩, ?_⟩
      rw [yields_bind]
      exact ⟨bs, r', ih hbs, yields_pure.2 ⟨by rw [UInt8.ofNat_toNat], rfl⟩⟩

open Reading in
theorem Shape.yields_read {p : Piece} (hfit : p.FitsAt r.position) (h : r.Takes (p.digits r.position) r') :
    Yields p.shape.read r p.cut r' := by
  cases p with
  | bit b => exact yields_bind.2 ⟨b, r', yields_bit.2 h, yields_pure.2 ⟨rfl, rfl⟩⟩
  | number width v =>
      have hbits : Yields (Reading.bits width) r (v % 2 ^ width) r' :=
        yields_bits.2 ⟨Nat.mod_lt _ (Nat.two_pow_pos width), by rwa [ofNat_mod]⟩
      exact yields_bind.2 ⟨_, r', hbits, yields_pure.2 ⟨rfl, rfl⟩⟩
  | varnibble v =>
      exact yields_bind.2 ⟨v, r', Varnibble.yields_read.2 ⟨hfit, h⟩, yields_pure.2 ⟨rfl, rfl⟩⟩
  | padding => exact yields_bind.2 ⟨(), r', yields_padding.2 h, yields_pure.2 ⟨rfl, rfl⟩⟩
  | bytes bs =>
      have hnone : paddingSize r.position = 0 := by
        have haligned : r.position % 8 = 0 := hfit
        rw [paddingSize, haligned]
      rw [Piece.digits, hnone, List.replicate_zero, List.nil_append] at h
      exact yields_bind.2 ⟨bs, r', yields_bytes h, yields_pure.2 ⟨rfl, rfl⟩⟩

namespace Writer

variable {w : Writer} {bits : List Bool}

theorem Spells.write (h : w.Spells bits) {p : Piece} (hfit : p.FitsAt w.length) :
    w.write p = .ok (w.step p).2 ∧ (w.step p).2.Spells (bits ++ p.digits bits.length) := by
  obtain ⟨v, hv, rfl, -⟩ | ⟨after, hstep, hafter⟩ := h.step p
  · exact absurd hfit (Nat.not_le_of_lt hv)
  · rw [Writer.write, hstep]
    exact ⟨rfl, hafter⟩

open Reading in
/-- Pieces that fit are all written, and read back from the bits that they add, whatever stands before. -/
theorem Spells.exists_read (h : w.Spells bits) {pieces : List Piece} (haccepts : w.Accepts pieces) :
    ∃ more, pieces.foldlM Writer.write w = .ok (w.after pieces) ∧ (w.after pieces).Spells (bits ++ more) ∧
      ∀ r r' : Reader, r.position = bits.length → r.Takes more r' →
        Yields ((pieces.map Piece.shape).mapM Shape.read) r (pieces.map Piece.cut) r' := by
  induction pieces generalizing w bits with
  | nil =>
      refine ⟨[], rfl, by rwa [List.append_nil], fun r r' _ htakes => ?_⟩
      exact yields_pure.2 ⟨rfl, Reader.takes_nil.1 htakes⟩
  | cons p pieces ih =>
      obtain ⟨hfit, hrest⟩ := haccepts
      obtain ⟨hwrite, hstep⟩ := h.write hfit
      obtain ⟨more, hall, hmore, hread⟩ := ih hstep hrest
      refine ⟨p.digits bits.length ++ more, ?_, by rwa [← List.append_assoc], fun r r' hposition htakes => ?_⟩
      · rw [List.foldlM_cons, hwrite]
        exact hall
      · -- writer and reader are at the same position in front of every piece
        obtain ⟨s, hp, hs⟩ := Reader.takes_append.1 htakes
        rw [← hposition] at hp
        rw [h.length, ← hposition] at hfit
        rw [List.map_cons, List.mapM_cons, yields_bind]
        refine ⟨p.cut, s, Shape.yields_read hfit hp, ?_⟩
        rw [yields_bind]
        refine ⟨pieces.map Piece.cut, r', hread s r' ?_ hs, yields_pure.2 ⟨rfl, rfl⟩⟩
        rw [hp.position, List.length_append, hposition]

/-- Written pieces are read back, up to where the writer stands; its bytes are filled up with zeros at
every moment, and a number without a form is refused without a trace. -/
theorem written_read_back :
    (∀ pieces, empty.Accepts pieces →
      pieces.foldlM Writer.write empty = .ok (empty.after pieces) ∧
      ∃ r, Reading.Yields ((pieces.map Piece.shape).mapM Shape.read)
        (Reader.ofBytes (empty.after pieces).bytes) (pieces.map Piece.cut) r ∧
        r.position = (empty.after pieces).length) ∧
    (∀ pieces, (empty.after pieces).IsFilled) ∧
    ∀ (w : Writer) v, Varnibble.maxValue < v →
      w.step (.varnibble v) = (.error (.varnibbleTooLarge v), w) := by
  refine ⟨fun pieces haccepts => ?_, fun pieces => ?_, fun w v hv => ?_⟩
  · obtain ⟨bits, hwrite, hspells, hread⟩ := spells_empty.exists_read haccepts
    rw [List.nil_append] at hspells
    refine ⟨hwrite, ⟨bits.length, List.replicate (paddingSize bits.length) false⟩, ?_, hspells.length.symm⟩
    refine hread _ _ rfl ⟨?_, ?_⟩
    · rw [Reader.ofBytes, hspells.bytes]
    · rw [Reader.ofBytes, Nat.zero_add]
  · obtain ⟨bits, hspells⟩ := spells_empty.after pieces
    exact hspells.isFilled
  · rw [Writer.step, Varnibble.encode, if_neg (Nat.not_le_of_lt hv)]

def mixedPieces : List Piece :=
  [.bit true, .varnibble 4679, .number 13 (2 ^ 20 + 5), .padding, .bytes [171, 205], .number 3 6, .varnibble 70]

theorem mixedPieces_read_back :
    empty.Accepts mixedPieces ∧
    empty.after mixedPieces = ⟨[247, 255, 128, 20, 171, 205, 215, 192], 59⟩ ∧
    ∃ r, Reading.Yields ((mixedPieces.map Piece.shape).mapM Shape.read)
      (Reader.ofBytes [247, 255, 128, 20, 171, 205, 215, 192])
      [.bit true, .varnibble 4679, .number 13 5, .padding, .bytes [171, 205], .number 3 6, .varnibble 70] r ∧
      r.position = 59 := by
  have hlarge : 4679 ≤ Varnibble.maxValue ∧ 70 ≤ Varnibble.maxValue := by decide
  have haligned : (empty.after (mixedPieces.take 4)).length % 8 = 0 := by decide
  have haccepts : empty.Accepts mixedPieces :=
    ⟨trivial, hlarge.1, trivial, trivial, haligned, trivial, hlarge.2, trivial⟩
  have hafter : empty.after mixedPieces = ⟨[247, 255, 128, 20, 171, 205, 215, 192], 59⟩ := by decide
  have hread := (written_read_back.1 mixedPieces haccepts).2
  rw [hafter] at hread
  exact ⟨haccepts, hafter, hread⟩

end Writer

end ContentCode.Bits
