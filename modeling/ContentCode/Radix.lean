import ContentCode.Bits
import ContentCode.Error

/-!
Bytes as text: hexadecimal, base32 and base64. All three write the bits of the bytes in digits of
a fixed width; they differ in the width, in the alphabet, and in what a reader tolerates.
-/

namespace ContentCode

structure Alphabet where
  width : Nat
  symbols : List Char

namespace Alphabet

def encode (a : Alphabet) (bytes : List UInt8) : List Char :=
  (Bits.groups a.width (Bits.ofBytes bytes)).map fun v => a.symbols.getD v '?'

def value? (a : Alphabet) (c : Char) : Option Nat := a.symbols.idxOf? c

/-- The bits that symbols stand for; a foreign symbol ends the text. -/
def bits (a : Alphabet) (symbols : List Char) : List Bool :=
  (symbols.takeWhile fun c => (a.value? c).isSome).flatMap fun c =>
    Bits.ofNat a.width ((a.value? c).getD 0)

def base32 : Alphabet := ⟨5, "ABCDEFGHIJKLMNOPQRSTUVWXYZ234567".toList⟩

def base64 : Alphabet :=
  ⟨6, "ABCDEFGHIJKLMNOPQRSTUVWXYZabcdefghijklmnopqrstuvwxyz0123456789+/".toList⟩

def base64Url : Alphabet :=
  ⟨6, "ABCDEFGHIJKLMNOPQRSTUVWXYZabcdefghijklmnopqrstuvwxyz0123456789-_".toList⟩

def hex : Alphabet := ⟨4, "0123456789abcdef".toList⟩

end Alphabet

/-- Bits that fill whole bytes, and what is left over of them. -/
def Bits.split (bits : List Bool) : List UInt8 × List Bool :=
  let whole := 8 * (bits.length / 8)
  (Bits.toBytes (bits.take whole), bits.drop whole)

namespace Hex

def encode (bytes : List UInt8) : String := .ofList (Alphabet.hex.encode bytes)

def decode (text : String) : Option (List UInt8) :=
  let symbols := text.toList.map Char.toLower
  if symbols.length % 2 = 0 && symbols.all fun c => (Alphabet.hex.value? c).isSome then
    some (Bits.toBytes (Alphabet.hex.bits symbols))
  else none

end Hex

namespace Base32

def encode (bytes : List UInt8) : String := .ofList (Alphabet.base32.encode bytes)

/-- Reads base32 in either case. Every text of a possible length that holds symbols only and ends
in zero bits is accepted; what fails first is told by its place. -/
def decode (text : String) : Except Base32Error (List UInt8) :=
  let symbols := text.toList.map Char.toUpper
  let size := text.utf8ByteSize
  let known := symbols.takeWhile fun c => (Alphabet.base32.value? c).isSome
  let (bytes, rest) := Bits.split (Alphabet.base32.bits symbols)
  if size % 8 = 1 ∨ size % 8 = 3 ∨ size % 8 = 6 then .error (.length (size - 1))
  else if known.length < symbols.length then .error (.symbol known.length)
  else if rest.any (· = true) then .error (.trailingBits (size - 1))
  else .ok bytes

end Base32

namespace Base64

def encodeUrl (bytes : List UInt8) : String := .ofList (Alphabet.base64Url.encode bytes)

def padding (symbols : List Char) : List Char :=
  List.replicate ((4 - symbols.length % 4) % 4) '='

def encode (bytes : List UInt8) : String :=
  let symbols := Alphabet.base64.encode bytes
  .ofList (symbols ++ padding symbols)

/-- Reads the padded form; padding that is missing or unneeded, and bits past the last byte that
are not zero, are refused. -/
def decode (text : String) : Option (List UInt8) :=
  let symbols := text.toList.takeWhile (· ≠ '=')
  let (bytes, rest) := Bits.split (Alphabet.base64.bits symbols)
  if symbols.length % 4 = 1 then none
  else if text.toList ≠ symbols ++ padding symbols then none
  else if symbols.any fun c => (Alphabet.base64.value? c).isNone then none
  else if rest.any (· = true) then none
  else some bytes

end Base64

end ContentCode
