import ContentCode.Chunking.Chunker
import ContentCode.Code
import ContentCode.Hash.XxHash32
import ContentCode.Similarity.MinHash

/-!
Data codes: the MinHash of the hashes of the content-defined chunks of some bytes.
-/

namespace ContentCode

structure DataCode where
  iscc : String
  deriving DecidableEq, Repr

namespace DataCode

def chunks (bytes : List UInt8) : List (List UInt8) := Chunking.chunks .default false bytes

def ofFeatures (features : List UInt32) (bits : Nat) : Except Error DataCode := do
  return ⟨← Code.generate .data .plain bits (MinHash.digest features)⟩

def generate (bytes : List UInt8) (bits : Nat) : Except Error DataCode := do
  Code.checkBits bits
  ofFeatures ((chunks bytes).map Hash.XxHash32.hash) bits

end DataCode

end ContentCode
