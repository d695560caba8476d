import ContentCode.Code
import ContentCode.Hash.Blake3

/-!
Instance codes: the BLAKE3 hash of some bytes.
-/

namespace ContentCode

structure InstanceCode where
  iscc : String
  datahash : String
  filesize : Nat
  deriving DecidableEq, Repr

namespace InstanceCode

def ofHash (hash : List UInt8) (filesize bits : Nat) : Except Error InstanceCode := do
  return ⟨← Code.generate .inst .plain bits hash, Hash.Blake3.multihash hash, filesize⟩

def generate (bytes : List UInt8) (bits : Nat) : Except Error InstanceCode :=
  ofHash (Hash.Blake3.hash bytes) bytes.length bits

end InstanceCode

end ContentCode
