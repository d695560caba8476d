import ContentCode.Bits
import ContentCode.Error

/-!
Reading a bit string from the front. A reader holds what is left and how far it has come; a
reading that fails keeps the bits it took before it failed.
-/

namespace ContentCode.Bits

structure Reader where
  position : Nat
  rest : List Bool
  deriving DecidableEq, Repr

def Reader.ofBytes (bytes : List UInt8) : Reader := ⟨0, Bits.ofBytes bytes⟩

def Reader.isAligned (r : Reader) : Bool := r.position % 8 == 0

def paddingSize (position : Nat) : Nat := (8 - position % 8) % 8

/-- A step of reading: it may fail, and moves the reader in either case. -/
abbrev Reading := ExceptT Error (StateM Reader)

namespace Reading

def bit : Reading Bool := ExceptT.mk fun r =>
  match r.rest with
  | [] => (.error .truncatedHeader, r)
  | b :: rest => (.ok b, ⟨r.position + 1, rest⟩)

/-- The number that the next `n` bits stand for. If fewer are left, none is taken. -/
def bits (n : Nat) : Reading Nat := ExceptT.mk fun r =>
  if r.rest.length < n then (.error .truncatedHeader, r)
  else (.ok (toNat (r.rest.take n)), ⟨r.position + n, r.rest.drop n⟩)

def zeros : (n : Nat) → Reading Unit
  | 0 => pure ()
  | n + 1 => do
    if ← bit then throw .nonzeroPadding
    zeros n

/-- Goes on to the next byte boundary; a padding bit that is set is an error. -/
def padding : Reading Unit := do
  zeros (paddingSize (← get).position)

end Reading

end ContentCode.Bits
