import ContentCode.Varnibble

/-!
Bit strings made of pieces, written into bytes. Every piece has a shape, by which it can be read back:
writing pieces and reading their shapes in the same order gives the pieces again, numbers cut to their
width.
-/

namespace ContentCode.Bits

/-- A part of a bit string that is written at once. A number gives its `width` low bits, padding the
zeros up to the next byte boundary; bytes are written at a byte boundary only. -/
inductive Piece where
  | bit (b : Bool)
  | number (width value : Nat)
  | varnibble (value : Nat)
  | padding
  | bytes (bytes : List UInt8)
  deriving DecidableEq, Repr

inductive Shape where
  | bit
  | number (width : Nat)
  | varnibble
  | padding
  | bytes (count : Nat)
  deriving DecidableEq, Repr

def Piece.shape : Piece → Shape
  | bit _ => .bit
  | number width _ => .number width
  | varnibble _ => .varnibble
  | padding => .padding
  | bytes bs => .bytes bs.length

def Reading.bytes : (n : Nat) → Reading (List UInt8)
  | 0 => return []
  | n + 1 => do
    let b ← Reading.bits 8
    return UInt8.ofNat b :: (← bytes n)

def Shape.read : Shape → Reading Piece
  | bit => return .bit (← Reading.bit)
  | number width => return .number width (← Reading.bits width)
  | varnibble => return .varnibble (← Varnibble.read)
  | padding => do
    Reading.padding
    return .padding
  | bytes n => return .bytes (← Reading.bytes n)

/-- Bytes that are written bit by bit, and the number of bits so far. Behind these, the last byte is
filled up with zeros. -/
structure Writer where
  bytes : List UInt8
  length : Nat
  deriving DecidableEq, Repr

namespace Writer

def empty : Writer := ⟨[], 0⟩

def isAligned (w : Writer) : Bool := w.length % 8 == 0

/-- A new byte begins as zero, so that only a bit that is one has to be set. -/
def push (w : Writer) (b : Bool) : Writer :=
  let bytes := if w.isAligned then w.bytes ++ [0] else w.bytes
  let mask := UInt8.ofNat (Nat.pow 2 (7 - w.length % 8))
  ⟨if b then bytes.modify (bytes.length - 1) (· ||| mask) else bytes, w.length + 1⟩

def pushAll (w : Writer) (bits : List Bool) : Writer := bits.foldl push w

/-- Goes on to the next byte boundary. The zeros up to there are written already. -/
def pad (w : Writer) : Writer := ⟨w.bytes, 8 * w.bytes.length⟩

def append (w : Writer) (bytes : List UInt8) : Writer := ⟨w.bytes ++ bytes, 8 * (w.bytes ++ bytes).length⟩

/-- Writes a piece; one that has no form leaves no trace. -/
def step (w : Writer) : Piece → Except Error Unit × Writer
  | .bit b => (.ok (), w.push b)
  | .number width v => (.ok (), w.pushAll (ofNat width v))
  | .varnibble v =>
    match Varnibble.encode v with
    | .ok digits => (.ok (), w.pushAll digits)
    | .error e => (.error e, w)
  | .padding => (.ok (), w.pad)
  | .bytes bs => (.ok (), w.append bs)

def write (w : Writer) (p : Piece) : Except Error Writer :=
  match w.step p with
  | (.ok (), after) => .ok after
  | (.error e, _) => .error e

end Writer

end ContentCode.Bits
