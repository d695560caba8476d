import ContentCode.Error

/-!
The discrete cosine transform of a vector whose length is a power of two. The sums and the scaled
differences of entries as far from the one end as from the other are transformed separately: the
first give the even coefficients, and sums of neighbours among the second give the odd ones.
-/

namespace ContentCode

class Arithmetic (α : Type) extends Add α, Sub α, Mul α, Div α where
  ofNat : Nat → α
  pi : α
  cos : α → α

instance : Arithmetic Float where
  ofNat := Float.ofNat
  pi := 3.141592653589793
  cos := Float.cos

namespace Transform

open Arithmetic

variable {α : Type} [Arithmetic α]

/-- The cosine at the middle of the `i`-th of `n` parts of a half turn. -/
def scale (n i : Nat) : α :=
  cos ((ofNat i + ofNat 1 / ofNat 2) * pi / ofNat n)

def sums (front back : List α) : List α := List.zipWith (· + ·) front back

def differences (n : Nat) (front back : List α) : List α :=
  (front.zip back).mapIdx fun i (a, b) => (a - b) / scale n i / ofNat 2

/-- The even coefficients, and between them the sums of neighbours; the last of the odd ones has no
neighbour. -/
def combine : (even odd : List α) → List α
  | a :: even, b :: b' :: odd => a :: (b + b') :: combine even (b' :: odd)
  | a :: _, [b] => [a, b]
  | even, _ => even

/-- The transform of a vector of length `2 ^ m`. -/
def transform : (m : Nat) → List α → List α
  | 0, v => v
  | m + 1, v =>
    let front := v.take (Nat.pow 2 m)
    let back := (v.drop (Nat.pow 2 m)).reverse
    combine (transform m (sums front back))
      (transform m (differences (Nat.pow 2 (m + 1)) front back))

def dct (v : List α) : Except Error (List α) :=
  if v.length = Nat.pow 2 v.length.log2 then .ok (transform v.length.log2 v)
  else .error (.transformLength v.length)

end Transform

end ContentCode
