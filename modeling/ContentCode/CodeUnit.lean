import ContentCode.Header

/-!
Units: a header and a digest of the size that it announces. Written one after the other, units can
be told apart again without separators, since each header tells where its unit ends.
-/

namespace ContentCode

/-- A unit is kept as its bytes, the first `headerSize` of which are the header. -/
@[ext]
structure CodeUnit where
  header : Header
  toBytes : List UInt8
  headerSize : Nat
  length_toBytes : toBytes.length = headerSize + header.digestSize
  deriving DecidableEq, Repr

namespace CodeUnit

def maintype (u : CodeUnit) : MainType := u.header.maintype

def subtype (u : CodeUnit) : SubType := u.header.subtype

def version (u : CodeUnit) : Version := u.header.version

def bits (u : CodeUnit) : Nat := u.header.digestBits

def digest (u : CodeUnit) : List UInt8 := u.toBytes.drop u.headerSize

def ofHeader (h : Header) (digest : List UInt8) : Except Error CodeUnit :=
  if hd : digest.length = h.digestSize then
    .ok ⟨h, h.toBytes ++ digest, h.toBytes.length, by rw [List.length_append, hd]⟩
  else .error (.digestLength h.digestSize digest.length)

def ofDigest (t : MainType) (s : SubType) (v : Version) (bits : Nat) (digest : List UInt8) :
    Except Error CodeUnit := do
  let h ← Header.ofBits t s v bits
  if digest.length < h.digestSize then
    throw (.digestTooShort bits h.digestSize digest.length)
  ofHeader h (digest.take h.digestSize)

/-- Takes one unit from the front of a buffer. The unit keeps the bytes that were taken; a failure
takes none. -/
def read (buffer : List UInt8) : Except Error CodeUnit × List UInt8 :=
  match Header.read.run (Bits.Reader.ofBytes buffer) with
  | (.error e, _) => (.error e, buffer)
  | (.ok h, reader) =>
    let start := reader.position / 8
    let stop := start + h.digestSize
    if hs : buffer.length - start < h.digestSize then
      (.error (.truncatedDigest h.digestSize (buffer.length - start)), buffer)
    else
      (.ok ⟨h, buffer.take stop, start, by
        have := h.digestSize_pos
        rw [List.length_take]
        omega⟩, buffer.drop stop)

def ofBytes (bytes : List UInt8) : Except Error CodeUnit := do
  let (result, rest) := read bytes
  let u ← result
  if rest.isEmpty then .ok u else .error (.trailingBytes rest.length)

end CodeUnit

end ContentCode
