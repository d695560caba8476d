import ContentCode.Bits
import ContentCode.Error

/-!
SimHash: of digests of equal length, the bitwise majority. A tie counts as set.
-/

namespace ContentCode.SimHash

def tally (size : Nat) (digests : List (List UInt8)) : List Nat :=
  digests.foldl (fun counts d => List.zipWith (fun n b => n + b.toNat) counts (Bits.ofBytes d))
    (List.replicate (8 * size) 0)

def majority (size : Nat) (digests : List (List UInt8)) : List UInt8 :=
  Bits.toBytes ((tally size digests).map fun n => digests.length ≤ 2 * n)

/-- The SimHash of no digests is 32 zero bytes. -/
def simhash : (digests : List (List UInt8)) → Except Error (List UInt8)
  | [] => .ok (List.replicate 32 0)
  | d :: ds =>
    let sizes := (d :: ds).map List.length
    match sizes.findIdx? (· ≠ d.length) with
    | some i => .error (.unequalDigests d.length (sizes.getD i 0) i)
    | none => .ok (majority d.length (d :: ds))

end ContentCode.SimHash
