import ContentCode.CodeUnit
import ContentCode.Radix
import ContentCode.Unicode.WhiteSpace

/-!
Units as text: base32, with an optional scheme in front. A reader takes either case, hyphens
anywhere and white space around.
-/

namespace ContentCode

def CodeUnit.toCode (u : CodeUnit) : String := Base32.encode u.toBytes

namespace Code

def scheme : String := "ISCC:"

def withScheme (code : String) : String := scheme ++ code

/-- A code without outer white space, scheme and hyphens. -/
def clean (code : String) : String :=
  let cs := Unicode.trim code.toList
  let start := scheme.length
  let body := if (cs.take start).map Char.toUpper = scheme.toList then cs.drop start else cs
  .ofList (body.filter (· ≠ '-'))

def toBytes (code : String) : Except Error (List UInt8) :=
  (Base32.decode (clean code)).mapError .base32

def decode (code : String) : Except Error CodeUnit := do
  CodeUnit.ofBytes (← toBytes code)

/-- The code of the first `bits` bits of a digest. Composite codes are made of units instead, and
the length field of an id follows a rule of its own. -/
def encode (t : MainType) (s : SubType) (v : Version) (bits : Nat) (digest : List UInt8) :
    Except Error String := do
  match t with
  | .iscc => throw .compositeFromDigest
  | .id => throw .idFromDigest
  | t => return (← CodeUnit.ofDigest t s v bits digest).toCode

def supportedBits : List Nat := [32, 64, 96, 128, 160, 192, 224, 256]

def checkBits (bits : Nat) : Except Error Unit :=
  if bits ∈ supportedBits then .ok () else .error (.unsupportedBits bits)

def generate (t : MainType) (s : SubType) (bits : Nat) (digest : List UInt8) :
    Except Error String := do
  checkBits bits
  return withScheme (← encode t s .v0 bits digest)

end Code

end ContentCode
