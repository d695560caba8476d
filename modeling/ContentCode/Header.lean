import ContentCode.Varnibble

/-!
Headers: four fields, of which the last one, the length field, tells the size of the digest that
follows. In units it is an index into the supported bit lengths, in composite codes it is a set of
flags that names the optional units inside.
-/

namespace ContentCode

namespace MainType

def maxLength : MainType → Nat
  | id => 4
  | _ => 7

def ofNumber (v : Nat) : Except Error MainType :=
  match all[v]? with
  | some t => .ok t
  | none => .error (.unknownMainType v)

/-- The flag of an optional unit in the length field of a composite code. Data and instance units
are always there and need none. -/
def flag : MainType → Option Nat
  | metadata => some 4
  | semantic => some 2
  | content => some 1
  | data | inst => some 0
  | iscc | id | flake => none

def flagsOf (types : List MainType) : Except Error Nat :=
  types.foldlM (fun flags t =>
    match t.flag with
    | some f => .ok (flags ||| f)
    | none => .error (.notComposable t)) 0

/-- The optional units that a set of flags names, in the order in which they stand in a composite
code. -/
def optional (flags : Nat) : List MainType :=
  [metadata, semantic, content].filter fun t => (t.flag.getD 0 &&& flags) != 0

def ofFlags (flags : Nat) : Except Error (List MainType) :=
  if flags ≤ 7 then .ok (optional flags) else .error (.unitFlags flags)

/-- The number of digest bits that a length field announces. -/
def digestBits (t : MainType) (s : SubType) (length : Nat) : Nat :=
  match t with
  | iscc => if s = .wide then 256 else 128 + 64 * (optional length).length
  | id => 64 + 8 * length
  | _ => 32 * (length + 1)

def lengthError (t : MainType) (length : Nat) : Error :=
  match t with
  | iscc => .unitFlags length
  | id => .idLength length
  | _ => .unitLength t length

def decodeLength (t : MainType) (s : SubType) (length : Nat) : Except Error Nat :=
  if length ≤ t.maxLength then .ok (t.digestBits s length) else .error (t.lengthError length)

/-- The length field for a number of digest bits. Composite codes have no such field, their flags
are passed on; the length of an id is only ever read. -/
def encodeLength (t : MainType) (bits : Nat) : Except Error Nat :=
  match t with
  | iscc => if bits ≤ 7 then .ok bits else .error (.unitFlags bits)
  | id => .error (.idFromBits bits)
  | _ =>
    if 32 ≤ bits ∧ bits ≤ 256 ∧ bits % 32 = 0 then .ok (bits / 32 - 1)
    else .error (.bitLength t bits)

end MainType

def SubType.ofNumber (v : Nat) : Except Error SubType :=
  match all[v]? with
  | some t => .ok t
  | none => .error (.unknownSubType v)

def Version.ofNumber (v : Nat) : Except Error Version :=
  match all[v]? with
  | some t => .ok t
  | none => .error (.unknownVersion v)

structure Header where
  maintype : MainType
  subtype : SubType
  version : Version
  length : Nat
  length_le : length ≤ maintype.maxLength
  deriving DecidableEq, Repr

namespace Header

open Bits

def ofLength (t : MainType) (s : SubType) (v : Version) (length : Nat) : Except Error Header :=
  if h : length ≤ t.maxLength then .ok ⟨t, s, v, length, h⟩ else .error (t.lengthError length)

def ofBits (t : MainType) (s : SubType) (v : Version) (bits : Nat) : Except Error Header := do
  ofLength t s v (← t.encodeLength bits)

def digestBits (h : Header) : Nat := h.maintype.digestBits h.subtype h.length

def digestSize (h : Header) : Nat := h.digestBits / 8

theorem digestSize_pos (h : Header) : 0 < h.digestSize := by
  simp only [digestSize, digestBits, MainType.digestBits]
  split
  · split <;> omega
  · omega
  · omega

def digits (h : Header) : List Bool :=
  Varnibble.digits h.maintype.number ++ Varnibble.digits h.subtype.number ++
    Varnibble.digits h.version.number ++ Varnibble.digits h.length

def toBytes (h : Header) : List UInt8 := Bits.toBytes h.digits

/-- Reads the four fields and the padding after them. A number that names no main type, subtype or
version fails at once, a length field out of range only after the padding. -/
def read : Reading Header := do
  let t ← ofExcept (MainType.ofNumber (← Varnibble.read))
  let s ← ofExcept (SubType.ofNumber (← Varnibble.read))
  let v ← ofExcept (Version.ofNumber (← Varnibble.read))
  let length ← Varnibble.read
  Reading.padding
  ofExcept (ofLength t s v length)

end Header

end ContentCode
