import ContentCode.Chunking.Gear
import ContentCode.Chunking.Parameters

/-!
Where the first chunk of some bytes ends. Every cut but that of no bytes takes at least one byte
and at most all of them, whatever the parameters are.
-/

namespace ContentCode.Chunking

variable (p : Parameters)

/-- The end of a chunk whose first `i` bytes are read, `hash` being the hash of those from the
minimal size on. -/
def scan (i : Nat) (hash : UInt32) : List UInt8 → Nat
  | [] => i
  | b :: bytes =>
    if i < p.minSize then scan (i + 1) hash bytes
    else match p.maskAt i with
      | none => i
      | some mask =>
        let hash := roll hash b
        if hash &&& mask = 0 then i + 1 else scan (i + 1) hash bytes

def cut (bytes : List UInt8) : Nat :=
  match bytes with
  | [] => 0
  | _ => max 1 (scan p 0 0 bytes)

/-- The cut, moved back to a multiple of four if `align` is set. A cut that would be lost comes
after four bytes, or at the end. -/
def alignedCut (align : Bool) (bytes : List UInt8) : Nat :=
  let n := cut p bytes
  if !align then n
  else if n < 4 then (bytes.take 4).length
  else n - n % 4

theorem scan_le (i : Nat) (hash : UInt32) (bytes : List UInt8) :
    scan p i hash bytes ≤ i + bytes.length := by
  induction bytes generalizing i hash with
  | nil => simp [scan]
  | cons b bytes ih =>
    have h := fun hash => ih (i + 1) hash
    simp only [scan, List.length_cons]
    split
    · have := h hash; omega
    · split
      · omega
      · split
        · omega
        · have := h (roll hash b); omega

theorem cut_le (bytes : List UInt8) : cut p bytes ≤ bytes.length := by
  cases bytes with
  | nil => simp [cut]
  | cons b bytes =>
    have := scan_le p 0 0 (b :: bytes)
    simp only [cut, List.length_cons] at this ⊢
    omega

theorem cut_pos {bytes : List UInt8} (h : bytes ≠ []) : 0 < cut p bytes := by
  cases bytes with
  | nil => exact absurd rfl h
  | cons b bytes => simp only [cut]; omega

theorem alignedCut_le (align : Bool) (bytes : List UInt8) :
    alignedCut p align bytes ≤ bytes.length := by
  have := cut_le p bytes
  simp only [alignedCut]
  split
  · omega
  · split
    · simp only [List.length_take]; omega
    · omega

theorem alignedCut_pos (align : Bool) {bytes : List UInt8} (h : bytes ≠ []) :
    0 < alignedCut p align bytes := by
  have := cut_pos p h
  have := List.length_pos_iff.2 h
  simp only [alignedCut]
  split
  · omega
  · split
    · simp only [List.length_take]; omega
    · omega

end ContentCode.Chunking
