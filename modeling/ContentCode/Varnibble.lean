import ContentCode.Bits.Reader

/-!
Varnibbles: numbers up to 4679 in four, eight, twelve or sixteen bits. Leading ones tell the
length, and each length begins where the shorter one ends, so a number has one form only.

| mark   | bits | numbers    |
|--------|------|------------|
| `0`    | 4    | 0 - 7      |
| `10`   | 8    | 8 - 71     |
| `110`  | 12   | 72 - 583   |
| `1110` | 16   | 584 - 4679 |
-/

namespace ContentCode.Varnibble

open Bits

def maxValue : Nat := 4679

/-- The form of a number up to `maxValue`. -/
def digits (v : Nat) : List Bool :=
  if v < 8 then false :: ofNat 3 v
  else if v < 72 then true :: false :: ofNat 6 (v - 8)
  else if v < 584 then true :: true :: false :: ofNat 9 (v - 72)
  else true :: true :: true :: false :: ofNat 12 (v - 584)

def encode (v : Nat) : Except Error (List Bool) :=
  if v ≤ maxValue then .ok (digits v) else .error (.varnibbleTooLarge v)

def read : Reading Nat := do
  if !(← Reading.bit) then return ← Reading.bits 3
  if !(← Reading.bit) then return (← Reading.bits 6) + 8
  if !(← Reading.bit) then return (← Reading.bits 9) + 72
  if !(← Reading.bit) then return (← Reading.bits 12) + 584
  throw .varnibbleMark

end ContentCode.Varnibble
