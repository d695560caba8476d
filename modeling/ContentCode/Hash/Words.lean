/-!
Bytes as 32-bit words and back, lowest byte first.
-/

namespace ContentCode.Hash

def word (a b c d : UInt8) : UInt32 :=
  a.toUInt32 ||| (b.toUInt32 <<< 8) ||| (c.toUInt32 <<< 16) ||| (d.toUInt32 <<< 24)

def words : List UInt8 → List UInt32 × List UInt8
  | a :: b :: c :: d :: bytes =>
    let (ws, rest) := words bytes
    (word a b c d :: ws, rest)
  | rest => ([], rest)

def wordBytes (w : UInt32) : List UInt8 :=
  [w.toUInt8, (w >>> 8).toUInt8, (w >>> 16).toUInt8, (w >>> 24).toUInt8]

def rotateLeft (w : UInt32) (n : UInt32) : UInt32 := (w <<< n) ||| (w >>> (32 - n))

def rotateRight (w : UInt32) (n : UInt32) : UInt32 := (w >>> n) ||| (w <<< (32 - n))

end ContentCode.Hash
