/-!
Bit strings, highest bit first, and the numbers and bytes they stand for. `groups` cuts a bit
string into digits of a given width; bytes, base32 and base64 are its cases 8, 5 and 6.
-/

namespace ContentCode.Bits

def ofNat : (n : Nat) → (v : Nat) → List Bool
  | 0, _ => []
  | n + 1, v => v.testBit n :: ofNat n v

def toNat (bits : List Bool) : Nat :=
  bits.foldl (fun v b => 2 * v + b.toNat) 0

def ofBytes (bytes : List UInt8) : List Bool :=
  bytes.flatMap fun b => ofNat 8 b.toNat

/-- The digits of `width` bits in what follows a digit's first `filled` bits, whose value is `v`. -/
def groupsFrom (width : Nat) : (filled : Nat) → (v : Nat) → List Bool → List Nat
  | 0, _, [] => []
  | filled + 1, v, [] => [v * Nat.pow 2 (width - (filled + 1))]
  | filled, v, b :: bits =>
    if filled + 1 < width then groupsFrom width (filled + 1) (2 * v + b.toNat) bits
    else (2 * v + b.toNat) :: groupsFrom width 0 0 bits

def groups (width : Nat) (bits : List Bool) : List Nat :=
  groupsFrom width 0 0 bits

/-- The bytes of a bit string; the last one is filled up with zeros. -/
def toBytes (bits : List Bool) : List UInt8 :=
  (groups 8 bits).map UInt8.ofNat

@[simp] theorem length_ofNat (n v : Nat) : (ofNat n v).length = n := by
  induction n with
  | zero => rfl
  | succ n ih => simp [ofNat, ih]

@[simp] theorem ofBytes_nil : ofBytes [] = [] := rfl

@[simp] theorem ofBytes_cons (b : UInt8) (bytes : List UInt8) :
    ofBytes (b :: bytes) = ofNat 8 b.toNat ++ ofBytes bytes := rfl

@[simp] theorem ofBytes_append (xs ys : List UInt8) :
    ofBytes (xs ++ ys) = ofBytes xs ++ ofBytes ys := by
  simp [ofBytes]

@[simp] theorem length_ofBytes (bytes : List UInt8) :
    (ofBytes bytes).length = 8 * bytes.length := by
  induction bytes with
  | nil => rfl
  | cons b bytes ih => simp [ih]; omega

end ContentCode.Bits
