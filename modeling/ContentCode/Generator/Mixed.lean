import ContentCode.Code
import ContentCode.Similarity.SimHash

/-!
Mixed codes, from two content codes or more: the SimHash of their first header bytes and digests.
-/

namespace ContentCode

structure MixedCode where
  iscc : String
  parts : List String
  deriving DecidableEq, Repr

namespace MixedCode

/-- The first header byte of a unit and its digest, cut or filled up with zeros to `size` bytes. -/
def entry (size : Nat) (u : CodeUnit) : List UInt8 :=
  let bytes := u.toBytes.take 1 ++ u.digest.take (size - 1)
  bytes ++ List.replicate (size - bytes.length) 0

def readContent (code : String) : Except Error CodeUnit := do
  let u ← Code.decode code
  if u.maintype ≠ .content then throw (.notContent u.maintype)
  return u

def generate (codes : List String) (bits : Nat) : Except Error MixedCode := do
  Code.checkBits bits
  if codes.length < 2 then throw (.fewContentCodes codes.length)
  let units ← codes.mapM readContent
  let digest ← SimHash.simhash (units.map (entry (bits / 8)))
  return ⟨← Code.generate .content .mixed bits digest, codes⟩

end MixedCode

end ContentCode
