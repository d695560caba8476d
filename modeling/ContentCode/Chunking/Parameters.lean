import ContentCode.Error

/-!
How large chunks are to be. From `minSize` on, a chunk ends where the hash has no bit of a mask:
of the strict mask up to `centerSize`, of the relaxed one after it, and at `maxSize` at the latest.
-/

namespace ContentCode.Chunking

structure Parameters where
  minSize : Nat
  maxSize : Nat
  centerSize : Nat
  strictMask : UInt32
  relaxedMask : UInt32
  deriving DecidableEq, Repr

/-- The binary logarithm of a positive number, rounded to the nearest integer: the largest `b` with
`4 ^ b ≤ 2 * n ^ 2`. -/
def roundedLog2 (n : Nat) : Nat := (2 * (n * n)).log2 / 2

namespace Parameters

def maxAverage : Nat := Nat.pow 2 28

def defaultAverage : Nat := 1024

/-- Parameters for chunks of `average` bytes. The strict mask has one bit more than the logarithm,
the relaxed one a bit less. -/
def derive (average : Nat) : Parameters :=
  let minSize := average / 4
  let b := roundedLog2 average
  { minSize
    maxSize := 8 * average
    centerSize := average - (minSize + (minSize + 1) / 2)
    strictMask := UInt32.ofNat (Nat.pow 2 (b + 1) - 1)
    relaxedMask := UInt32.ofNat (Nat.pow 2 (b - 1) - 1) }

def ofAverage (average : Nat) : Except Error Parameters :=
  if 1 ≤ average ∧ average ≤ maxAverage then .ok (derive average)
  else .error (.averageSize average)

def default : Parameters := derive defaultAverage

/-- The mask that ends a chunk after the byte at offset `i`; none where the chunk ends before it. -/
def maskAt (p : Parameters) (i : Nat) : Option UInt32 :=
  if i < p.centerSize then some p.strictMask
  else if i < p.maxSize then some p.relaxedMask
  else none

end Parameters

end ContentCode.Chunking
