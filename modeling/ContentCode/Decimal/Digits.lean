/-!
Natural numbers as decimal digits.
-/

namespace ContentCode.Decimal

def digitChar (d : Nat) : Char := Char.ofNat (48 + d)

def digitValue (c : Char) : Nat := c.toNat - 48

/-- The digits of a number, without leading zeros. -/
def digits (n : Nat) : List Char :=
  if n < 10 then [digitChar n] else digits (n / 10) ++ [digitChar (n % 10)]

def value (ds : List Char) : Nat := ds.foldl (fun v c => 10 * v + digitValue c) 0

end ContentCode.Decimal
