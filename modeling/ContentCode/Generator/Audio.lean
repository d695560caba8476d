import ContentCode.Code
import ContentCode.Similarity.SimHash

/-!
Audio codes, from a vector of 32-bit features: the SimHash of all of them, those of its quarters,
and those of the thirds of the sorted vector.
-/

namespace ContentCode

structure AudioCode where
  iscc : String
  deriving DecidableEq, Repr

namespace AudioCode

variable {α : Type}

def splitSizes : (sizes : List Nat) → List α → List (List α)
  | [], _ => []
  | n :: sizes, xs => xs.take n :: splitSizes sizes (xs.drop n)

/-- `n` consecutive parts of sizes that differ by one at most, the larger ones first. -/
def splitEven (n : Nat) (xs : List α) : List (List α) :=
  splitSizes ((List.range n).map fun i =>
    xs.length / n + if i < xs.length % n then 1 else 0) xs

def featureBytes (v : Int32) : List UInt8 := Bits.toBytes (Bits.ofNat 32 v.toUInt32.toNat)

/-- The SimHash of features; that of none is zero. -/
def partHash (part : List Int32) : Except Error (List UInt8) :=
  if part.isEmpty then .ok (List.replicate 4 0) else SimHash.simhash (part.map featureBytes)

def digest (features : List Int32) : Except Error (List UInt8) := do
  if features.isEmpty then return List.replicate 32 0
  let sorted := features.mergeSort fun x y => x ≤ y
  let parts := features :: splitEven 4 features ++ splitEven 3 sorted
  return (← parts.mapM partHash).flatten

def generate (features : List Int32) (bits : Nat) : Except Error AudioCode := do
  Code.checkBits bits
  return ⟨← Code.generate .content .audio bits (← digest features)⟩

end AudioCode

end ContentCode
