import ContentCode.Decimal.Binary64
import ContentCode.Decimal.Digits

/-!
The shortest decimal that reads back as a given floating-point number, and of those the nearest.
-/

namespace ContentCode.Decimal

/-- A positive decimal: its digits, with the point after the first one, times a power of ten. -/
structure Scientific where
  digits : List Char
  exponent : Int

def magnitude (num den : Nat) : Int :=
  if den ≤ num then (digits (num / den)).length - 1
  else
    let j := (digits (den / num)).length - 1
    if num * Nat.pow 10 j = den then -j else -(j + 1)

/-- The ends of the interval of reals that round to a number, in units of `2 ^ (exponent - 2)`; the
number itself is `4 * mantissa`. Below a power of two the next number is only half as far. -/
def Binary64.interval (x : Binary64) : Nat × Nat :=
  let low := if x.mantissa = Nat.pow 2 52 ∧ Binary64.minExponent < x.exponent then 1 else 2
  (4 * x.mantissa - low, 4 * x.mantissa + 2)

/-- Whether the quotient of two integers rounds to a number; the ends of the interval do so if the
mantissa is even. -/
def Binary64.takes (x : Binary64) (num den : Nat) : Bool :=
  let (low, high) := x.interval
  let (n, d) := Binary64.scale num den (x.exponent - 2)
  if x.mantissa % 2 = 0 then low * d ≤ n && n ≤ high * d else low * d < n && n < high * d

/-- The shortest decimal, looked for among those of `n`, `n + 1`, … digits, `tries` lengths in all.
On each grid only the two neighbours of the number can be the nearest ones. -/
def shortestFrom (x : Binary64) (k : Int) : (n tries : Nat) → Scientific
  | _, 0 => ⟨digits x.mantissa, k⟩
  | n, tries + 1 =>
    let (num, den) := x.ratio
    let e : Int := k - n + 1
    let up := Nat.pow 10 e.toNat
    let down := Nat.pow 10 (-e).toNat
    let c := num * down / (den * up)
    let r := num * down % (den * up)
    let below := x.takes (c * up) down
    let above := x.takes ((c + 1) * up) down
    if below && (!above || 2 * r < den * up || (2 * r = den * up && c % 2 = 0)) then
      ⟨digits c, k⟩
    else if above then
      if c + 1 = Nat.pow 10 n then ⟨['1'], k + 1⟩ else ⟨digits (c + 1), k⟩
    else shortestFrom x k (n + 1) tries

/-- The shortest decimal of a positive number; seventeen digits are always enough. -/
def shortest (x : Binary64) : Scientific :=
  let (num, den) := x.ratio
  shortestFrom x (magnitude num den) 1 17

end ContentCode.Decimal
