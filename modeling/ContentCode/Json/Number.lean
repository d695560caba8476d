import ContentCode.Decimal.Shortest

/-!
Numbers in JSON. An integer that fits 64 bits, with or without a sign, stays what it is; any other
number becomes a floating-point number.
-/

namespace ContentCode.Json

open Decimal

/-- A floating-point number; zero comes with either sign. -/
structure Double where
  negative : Bool
  magnitude : Binary64
  deriving DecidableEq, Repr

inductive Number where
  | integer (n : Int)
  | double (x : Double)
  deriving DecidableEq, Repr

structure Numeral where
  negative : Bool
  whole : List Char
  fraction : Option (List Char)
  exponent : Option Int

namespace Numeral

def readDigits (cs : List Char) : Option (List Char × List Char) :=
  let ds := cs.takeWhile Char.isDigit
  if ds.isEmpty then none else some (ds, cs.dropWhile Char.isDigit)

def readFraction : List Char → Option (Option (List Char) × List Char)
  | '.' :: cs => (readDigits cs).map fun (ds, rest) => (some ds, rest)
  | cs => some (none, cs)

def readExponent (cs : List Char) : Option (Option Int × List Char) :=
  match cs with
  | [] => some (none, [])
  | c :: cs =>
    if c = 'e' || c = 'E' then
      match cs with
      | '-' :: cs => (readDigits cs).map fun (ds, rest) => (some (-(value ds : Int)), rest)
      | '+' :: cs => (readDigits cs).map fun (ds, rest) => (some (value ds), rest)
      | cs => (readDigits cs).map fun (ds, rest) => (some (value ds), rest)
    else some (none, c :: cs)

/-- Reads all of a text as a number. Zero is the only whole part that begins with a zero. -/
def read? (cs : List Char) : Option Numeral := do
  let (negative, cs) := match cs with
    | '-' :: rest => (true, rest)
    | rest => (false, rest)
  let (whole, cs) ← readDigits cs
  guard (whole.length = 1 ∨ whole.head? ≠ some '0')
  let (fraction, cs) ← readFraction cs
  let (exponent, cs) ← readExponent cs
  guard cs.isEmpty
  return ⟨negative, whole, fraction, exponent⟩

end Numeral

/-- The leading digits of a number as an integer below `2 ^ 64`, times a power of ten. -/
structure Significand where
  value : Nat
  exponent : Int

namespace Significand

/-- Appends digits while they fit; once one does not, the rest of them is dropped. Each digit kept
moves the exponent by `kept`, each one dropped by `dropped`. -/
def append (kept dropped : Int) (s : Significand) : List Char → Significand
  | [] => s
  | c :: ds =>
    let v := 10 * s.value + digitValue c
    if v < Nat.pow 2 64 then append kept dropped ⟨v, s.exponent + kept⟩ ds
    else ⟨s.value, s.exponent + dropped * (ds.length + 1)⟩

def ofNumeral (n : Numeral) : Significand :=
  let whole := append 0 1 ⟨0, 0⟩ n.whole
  let all := append (-1) 0 whole (n.fraction.getD [])
  ⟨all.value, all.exponent + n.exponent.getD 0⟩

def maxPower : Nat := 308

def power (n : Nat) : Binary64 := (Binary64.ofNat (Nat.pow 10 n)).getD .zero

/-- A number divided `n` times by the largest power; it soon is zero, and stays so. -/
def shrinkSteps (x : Binary64) : (n : Nat) → Option Binary64
  | 0 => some x
  | n + 1 => if x.mantissa = 0 then some x else (x.div (power maxPower)).bind (shrinkSteps · n)

def shrink (x : Binary64) (n : Nat) : Option Binary64 := do
  let steps := (n - 1) / maxPower
  let x ← shrinkSteps x steps
  x.div (power (n - maxPower * steps))

/-- Significand and power of ten are rounded each, and so is their product or quotient. -/
def toBinary (s : Significand) : Option Binary64 := do
  let x ← Binary64.ofNat s.value
  if s.exponent < 0 then shrink x s.exponent.natAbs
  else if s.exponent ≤ maxPower then x.mul (power s.exponent.toNat)
  else if s.value = 0 then some .zero
  else none

end Significand

/-- The number that a numeral stands for, if it is in range. The negative zero is no integer. -/
def Number.ofNumeral (n : Numeral) : Option Number :=
  let v := value n.whole
  let float := (Significand.ofNumeral n).toBinary.map fun x => Number.double ⟨n.negative, x⟩
  if n.fraction.isSome || n.exponent.isSome then float
  else if n.negative then
    if 0 < v ∧ v ≤ Nat.pow 2 63 then some (.integer (-v)) else float
  else if v < Nat.pow 2 64 then some (.integer v)
  else float

/-- A decimal with a point, and without an exponent if that of its first digit is from -5 to 15. -/
def Number.writeScientific (s : Scientific) : List Char :=
  let k := s.exponent
  if 0 ≤ k ∧ k ≤ 15 then
    let n := k.toNat + 1
    let whole := s.digits.take n ++ List.replicate (n - s.digits.length) '0'
    let fraction := s.digits.drop n
    whole ++ '.' :: if fraction.isEmpty then ['0'] else fraction
  else if -5 ≤ k ∧ k < 0 then
    '0' :: '.' :: List.replicate (k.natAbs - 1) '0' ++ s.digits
  else
    let point := if s.digits.length ≤ 1 then [] else ['.']
    s.digits.take 1 ++ point ++ s.digits.drop 1 ++
      'e' :: (if k < 0 then '-' else '+') :: digits k.natAbs

def Number.write : Number → List Char
  | integer n => if n < 0 then '-' :: digits n.natAbs else digits n.natAbs
  | double x =>
    let text :=
      if x.magnitude.mantissa = 0 then ['0', '.', '0']
      else Number.writeScientific (shortest x.magnitude)
    if x.negative then '-' :: text else text

end ContentCode.Json
