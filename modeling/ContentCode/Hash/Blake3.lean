import ContentCode.Hash.Words
import ContentCode.Radix

/-!
BLAKE3 with a 32-byte result. Bytes fill blocks of 64, blocks fill chunks of 1024, and the chaining
values of chunks are joined pairwise into a binary tree, the left subtree of which is always the
largest full one. The hasher takes one byte at a time and keeps, of the tree, the full subtrees
that still wait for a neighbour; so hashing in parts is hashing in one go by definition.
-/

namespace ContentCode.Hash

namespace Blake3

abbrev Chain := Vector UInt32 8

abbrev State := Vector UInt32 16

def start : Chain :=
  #v[0x6A09E667, 0xBB67AE85, 0x3C6EF372, 0xA54FF53A, 0x510E527F, 0x9B05688C, 0x1F83D9AB, 0x5BE0CD19]

def chunkStart : UInt32 := 1
def chunkEnd : UInt32 := 2
def parentNode : UInt32 := 4
def root : UInt32 := 8

def permutation : Vector (Fin 16) 16 := #v[2, 6, 3, 10, 7, 0, 4, 13, 1, 11, 12, 5, 9, 14, 15, 8]

def mix (s : State) (a b c d : Fin 16) (x y : UInt32) : State :=
  let va := s[a] + s[b] + x
  let vd := rotateRight (s[d] ^^^ va) 16
  let vc := s[c] + vd
  let vb := rotateRight (s[b] ^^^ vc) 12
  let va := va + vb + y
  let vd := rotateRight (vd ^^^ va) 8
  let vc := vc + vd
  let vb := rotateRight (vb ^^^ vc) 7
  (((s.set a va).set b vb).set c vc).set d vd

def round (s m : State) : State :=
  let s := mix s 0 4 8 12 m[0] m[1]
  let s := mix s 1 5 9 13 m[2] m[3]
  let s := mix s 2 6 10 14 m[4] m[5]
  let s := mix s 3 7 11 15 m[6] m[7]
  let s := mix s 0 5 10 15 m[8] m[9]
  let s := mix s 1 6 11 12 m[10] m[11]
  let s := mix s 2 7 8 13 m[12] m[13]
  mix s 3 4 9 14 m[14] m[15]

/-- `n` rounds; before each one but the first the message words are permuted. -/
def rounds : (n : Nat) → (s m : State) → State
  | 0, s, _ => s
  | n + 1, s, m => rounds n (round s m) (permutation.map fun i => m[i])

/-- What is compressed: a block of a chunk, or the two chaining values under a parent. -/
structure Node where
  chain : Chain
  message : State
  counter : Nat
  size : Nat
  flags : UInt32

def Node.compress (n : Node) (flags : UInt32) : Chain :=
  let cv := n.chain
  let s : State := #v[cv[0], cv[1], cv[2], cv[3], cv[4], cv[5], cv[6], cv[7],
    start[0], start[1], start[2], start[3],
    UInt32.ofNat n.counter, UInt32.ofNat (n.counter / Nat.pow 2 32), UInt32.ofNat n.size,
    n.flags ||| flags]
  let s := rounds 7 s n.message
  #v[s[0] ^^^ s[8], s[1] ^^^ s[9], s[2] ^^^ s[10], s[3] ^^^ s[11],
    s[4] ^^^ s[12], s[5] ^^^ s[13], s[6] ^^^ s[14], s[7] ^^^ s[15]]

def parent (left right : Chain) : Node :=
  ⟨start, (left ++ right).cast rfl, 0, 64, parentNode⟩

def blockWords (bytes : List UInt8) : State :=
  let ws := (words (bytes ++ List.replicate (64 - bytes.length) 0)).1.toArray
  Vector.ofFn fun i => ws.getD i 0

/-- A chunk that is being filled: the chaining value of its `blocks` compressed blocks, and the
`size` bytes of the current block, last one first. -/
structure Chunk where
  chain : Chain
  counter : Nat
  blocks : Nat
  block : List UInt8
  size : Nat

def Chunk.new (counter : Nat) : Chunk := ⟨start, counter, 0, [], 0⟩

def Chunk.node (c : Chunk) (flags : UInt32) : Node :=
  let first := if c.blocks = 0 then chunkStart else 0
  ⟨c.chain, blockWords c.block.reverse, c.counter, c.size, first ||| flags⟩

end Blake3

open Blake3

/-- A hasher: the full subtrees to the left of the current chunk, the latest one first, and that
chunk. -/
structure Blake3 where
  subtrees : List Chain
  chunk : Chunk

namespace Blake3

def new : Blake3 := ⟨[], Chunk.new 0⟩

/-- Adds the chaining value of the `n`-th chunk (counted from one). As often as `n` can be halved
there is a subtree of equal size before it, with which it is joined. -/
def addChain (n : Nat) (c : Chain) : List Chain → List Chain
  | [] => [c]
  | left :: rest =>
    if n % 2 = 0 then addChain (n / 2) ((parent left c).compress 0) rest else c :: left :: rest

/-- A block is compressed only when another byte follows, for the last one of a chunk is marked. -/
def push (h : Blake3) (b : UInt8) : Blake3 :=
  let c := h.chunk
  if c.size < 64 then ⟨h.subtrees, ⟨c.chain, c.counter, c.blocks, b :: c.block, c.size + 1⟩⟩
  else if c.blocks < 15 then
    ⟨h.subtrees, ⟨(c.node 0).compress 0, c.counter, c.blocks + 1, [b], 1⟩⟩
  else
    let n := c.counter + 1
    ⟨addChain n ((c.node chunkEnd).compress 0) h.subtrees, ⟨start, n, 0, [b], 1⟩⟩

def update (h : Blake3) (bytes : List UInt8) : Blake3 := bytes.foldl push h

def finalize (h : Blake3) : List UInt8 :=
  let top := h.subtrees.foldl (fun n left => parent left (n.compress 0)) (h.chunk.node chunkEnd)
  (top.compress root).toList.flatMap wordBytes

def hash (bytes : List UInt8) : List UInt8 := (new.update bytes).finalize

/-- A hash as text: the hexadecimal digits of its number and size in the multihash table, then its
own. -/
def multihash (digest : List UInt8) : String := "1e20" ++ Hex.encode digest

theorem update_append (h : Blake3) (xs ys : List UInt8) :
    h.update (xs ++ ys) = (h.update xs).update ys :=
  List.foldl_append

end Blake3

end ContentCode.Hash
