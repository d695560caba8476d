import ContentCode.Decimal.Digits

/-!
Non-negative binary floating-point numbers of 53 bits, reckoned exactly: a number is an integer
times a power of two, and every operation rounds the exact quotient of two integers to the nearest
of them, a tie to the even one.
-/

namespace ContentCode.Decimal

/-- The number `mantissa * 2 ^ exponent`. -/
structure Binary64 where
  mantissa : Nat
  exponent : Int
  deriving DecidableEq, Repr

/-- The quotient rounded to the nearest integer, a half to the even neighbour. -/
def roundDiv (num den : Nat) : Nat :=
  let q := num / den
  let r := num % den
  if 2 * r < den then q else if den < 2 * r then q + 1 else q + q % 2

namespace Binary64

def minExponent : Int := -1074
def maxExponent : Int := 971

def zero : Binary64 := ⟨0, minExponent⟩

def scale (num den : Nat) (e : Int) : Nat × Nat :=
  (num * Nat.pow 2 (-e).toNat, den * Nat.pow 2 e.toNat)

/-- The exponent at which a positive quotient has 53 bits, or the least one. -/
def exponentOf (num den : Nat) : Int :=
  let e : Int := num.log2 - den.log2 - 53
  let (n, d) := scale num den e
  max minExponent (if Nat.pow 2 53 ≤ n / d then e + 1 else e)

def ofRatio (num den : Nat) : Option Binary64 :=
  if num = 0 then some zero
  else
    let e := exponentOf num den
    let (n, d) := scale num den e
    let m := roundDiv n d
    let (m, e) := if m = Nat.pow 2 53 then (Nat.pow 2 52, e + 1) else (m, e)
    if e ≤ maxExponent then some ⟨m, e⟩ else none

def ratio (x : Binary64) : Nat × Nat :=
  (x.mantissa * Nat.pow 2 x.exponent.toNat, Nat.pow 2 (-x.exponent).toNat)

def mul (x y : Binary64) : Option Binary64 :=
  let (n, d) := x.ratio
  let (n', d') := y.ratio
  ofRatio (n * n') (d * d')

def div (x y : Binary64) : Option Binary64 :=
  let (n, d) := x.ratio
  let (n', d') := y.ratio
  ofRatio (n * d') (d * n')

def ofNat (n : Nat) : Option Binary64 := ofRatio n 1

/-- Whether `v * 10 ^ e` is in range. The power is reckoned only where the number of digits does not
tell. -/
def inRange (v : Nat) (e : Int) : Bool :=
  let size := (digits v).length + e
  if v = 0 ∨ size ≤ 308 then true
  else if 309 < size then false
  else (ofRatio (v * Nat.pow 10 e.toNat) (Nat.pow 10 (-e).toNat)).isSome

end Binary64

end ContentCode.Decimal
