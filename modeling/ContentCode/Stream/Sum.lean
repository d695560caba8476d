import ContentCode.Composite
import ContentCode.Settings
import ContentCode.Stream.Hasher
import ContentCode.Stream.Input

/-!
Sum codes: the data and the instance code of an input in one reading, and the composite code of the
two. The wide form needs units of 128 bits at least.
-/

namespace ContentCode

structure SumCode where
  iscc : String
  datahash : String
  filesize : Nat
  units : List String
  deriving DecidableEq, Repr

namespace SumCode

def unitBits (s : Settings) : Nat := if s.wide then max s.bits 128 else s.bits

def generateThrough (room : Nat) (input : Input) (s : Settings) : Except Error SumCode := do
  let absorb := fun (d, i) bytes => (DataState.absorb d bytes, InstanceState.absorb i bytes)
  let (d, i) ← input.absorbAll absorb room (DataState.new, InstanceState.new)
  let data ← (d.finish (unitBits s)).1
  let inst ← (i.finish (unitBits s)).1
  let units := [data.iscc, inst.iscc]
  return ⟨← Composite.assemble units s.wide, inst.datahash, inst.filesize, units⟩

/-- None if there is no such buffer, so that the program stops before it reads. -/
def generate (input : Input) (s : Settings) : Option (Except Error SumCode) :=
  match s.validate with
  | .error e => some (.error e)
  | .ok () => (Input.buffer? s.bufferSize).map fun room => generateThrough room input s

end SumCode

end ContentCode
