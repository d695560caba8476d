import ContentCode.Chunking.Cut

/-!
Cutting bytes into chunks: all at once with `chunks`, or one boundary after the other with a
`Chunker`. No bytes are one empty chunk.
-/

namespace ContentCode.Chunking

variable (p : Parameters) (align : Bool)

/-- The chunks of what is left, none if nothing is. -/
def cutAll (bytes : List UInt8) : List (List UInt8) :=
  if h : bytes = [] then []
  else
    have := alignedCut_pos p align h
    have := List.length_pos_iff.2 h
    bytes.take (alignedCut p align bytes) :: cutAll (bytes.drop (alignedCut p align bytes))
termination_by bytes.length
decreasing_by simp only [List.length_drop]; omega

def chunks (bytes : List UInt8) : List (List UInt8) :=
  if bytes = [] then [[]] else cutAll p align bytes

def chunksOfAverage (average : Nat) (align : Bool) (bytes : List UInt8) :
    Except Error (List (List UInt8)) := do
  return chunks (← Parameters.ofAverage average) align bytes

structure Boundary where
  start : Nat
  stop : Nat
  deriving DecidableEq, Repr

def Boundary.size (b : Boundary) : Nat := b.stop - b.start

def Boundary.isEmpty (b : Boundary) : Bool := b.stop == b.start

/-- A chunker at some position, with the bytes behind it. It is finished once the last chunk has
been given out. -/
structure Chunker where
  parameters : Parameters
  align : Bool
  position : Nat
  rest : List UInt8
  isFinished : Bool

namespace Chunker

def new (bytes : List UInt8) : Chunker := ⟨p, align, 0, bytes, false⟩

def remaining (c : Chunker) : Nat := c.rest.length

def next (c : Chunker) : Option Boundary × Chunker :=
  if c.isFinished then (none, c)
  else
    let n := alignedCut c.parameters c.align c.rest
    let rest := c.rest.drop n
    (some ⟨c.position, c.position + n⟩,
      ⟨c.parameters, c.align, c.position + n, rest, rest.isEmpty⟩)

end Chunker

end ContentCode.Chunking
