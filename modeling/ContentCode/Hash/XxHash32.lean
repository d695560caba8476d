import ContentCode.Hash.Words

/-!
xxHash32 with seed 0, the hash of text and data features.
-/

namespace ContentCode.Hash.XxHash32

def prime1 : UInt32 := 2654435761
def prime2 : UInt32 := 2246822519
def prime3 : UInt32 := 3266489917
def prime4 : UInt32 := 668265263
def prime5 : UInt32 := 374761393

/-- Four accumulators, each of which takes every fourth word. -/
structure Lanes where
  a : UInt32
  b : UInt32
  c : UInt32
  d : UInt32

def Lanes.start : Lanes := ⟨prime1 + prime2, prime2, 0, 0 - prime1⟩

def round (lane w : UInt32) : UInt32 := rotateLeft (lane + w * prime2) 13 * prime1

/-- Takes words by fours, and returns the up to three words that are left. -/
def Lanes.absorb (l : Lanes) : List UInt32 → Lanes × List UInt32
  | w :: x :: y :: z :: ws =>
    Lanes.absorb ⟨round l.a w, round l.b x, round l.c y, round l.d z⟩ ws
  | rest => (l, rest)

def Lanes.merge (l : Lanes) : UInt32 :=
  rotateLeft l.a 1 + rotateLeft l.b 7 + rotateLeft l.c 12 + rotateLeft l.d 18

def mixWord (h w : UInt32) : UInt32 := rotateLeft (h + w * prime3) 17 * prime4

def mixByte (h : UInt32) (b : UInt8) : UInt32 := rotateLeft (h + b.toUInt32 * prime5) 11 * prime1

def avalanche (h : UInt32) : UInt32 :=
  let h := (h ^^^ (h >>> 15)) * prime2
  let h := (h ^^^ (h >>> 13)) * prime3
  h ^^^ (h >>> 16)

def hash (bytes : List UInt8) : UInt32 :=
  let size := bytes.length
  let (ws, rest) := words bytes
  let (h, ws) :=
    if size < 16 then (prime5, ws)
    else
      let (lanes, ws) := Lanes.start.absorb ws
      (lanes.merge, ws)
  avalanche (rest.foldl mixByte (ws.foldl mixWord (h + UInt32.ofNat size)))

end ContentCode.Hash.XxHash32
