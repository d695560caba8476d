import ContentCode.Code

/-!
What a user can set: the number of digest bits, the wide form of composite codes, and the size of
the buffer through which input is read.
-/

namespace ContentCode

structure Settings where
  bits : Nat := 64
  wide : Bool := false
  bufferSize : UInt64 := 2 * 1024 * 1024
  deriving DecidableEq, Repr

def Settings.validate (s : Settings) : Except Error Unit := do
  Code.checkBits s.bits
  if s.bufferSize = 0 then throw .emptyBuffer

end ContentCode
