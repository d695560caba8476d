import ContentCode.Code
import ContentCode.Generator.Transform

/-!
Image codes, from 32 by 32 grey pixels. Of the coefficients of their transform in both directions,
four overlapping blocks of low frequencies are compared with their medians.
-/

namespace ContentCode

structure ImageCode where
  iscc : String
  deriving DecidableEq, Repr

namespace ImageCode

def side : Nat := 32

/-- The corners of the blocks, as column and row. -/
def corners : List (Nat × Nat) := [(0, 0), (1, 0), (0, 1), (1, 1)]

def blockSide : Nat := 8

def rowsFrom : (n : Nat) → List UInt8 → List (List Float)
  | 0, _ => []
  | n + 1, pixels =>
    (pixels.take side).map (fun p => Float.ofNat p.toNat) :: rowsFrom n (pixels.drop side)

def transpose (n : Nat) (rows : List (List Float)) : List (List Float) :=
  (List.range n).map fun i => rows.map fun row => row.getD i 0

def coefficients (pixels : List UInt8) : Except Error (List (List Float)) := do
  let rows ← (rowsFrom side pixels).mapM Transform.dct
  let columns ← (transpose side rows).mapM Transform.dct
  return transpose side columns

def block (rows : List (List Float)) (corner : Nat × Nat) : List Float :=
  ((rows.drop corner.2).take blockSide).flatMap fun row => (row.drop corner.1).take blockSide

def median (values : List Float) : Float :=
  let sorted := values.mergeSort fun x y => x ≤ y
  let n := sorted.length
  if n % 2 = 1 then sorted.getD (n / 2) 0
  else (sorted.getD (n / 2 - 1) 0 + sorted.getD (n / 2) 0) / 2

/-- One bit per coefficient, which is set if the coefficient is above the median of its block. Once
there are `count` bits, no more coefficients are looked at. -/
def bitsFrom (rows : List (List Float)) : (count : Nat) → List (Nat × Nat) → List Bool
  | _, [] => []
  | count, corner :: corners =>
    if count = 0 then []
    else
      let values := block rows corner
      let m := median values
      (values.take count).map (fun v => decide (m < v)) ++ bitsFrom rows (count - values.length) corners

def digest (rows : List (List Float)) (bits : Nat) : List UInt8 :=
  Bits.toBytes (bitsFrom rows bits corners)

def generate (pixels : List UInt8) (bits : Nat) : Except Error ImageCode := do
  Code.checkBits bits
  if pixels.length ≠ side * side then throw (.pixelCount pixels.length)
  return ⟨← Code.generate .content .image bits (digest (← coefficients pixels) bits)⟩

end ImageCode

end ContentCode
