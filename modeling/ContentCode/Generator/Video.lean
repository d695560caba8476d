import ContentCode.Code
import ContentCode.Similarity.WinnerTakesAll

/-!
Video codes, from the signatures of frames. Equal frames count once; the frames are summed up column
by column, and the sums compared.
-/

namespace ContentCode

structure VideoCode where
  iscc : String
  deriving DecidableEq, Repr

namespace VideoCode

abbrev Frame := List Int32

def distinct (frames : List Frame) : List Frame := frames.eraseDups

def columnSums (width : Nat) (frames : List Frame) : List Int :=
  frames.foldl (fun sums f => List.zipWith (fun s v => s + v.toInt) sums f)
    (List.replicate width 0)

def generate (frames : List Frame) (bits : Nat) : Except Error VideoCode := do
  Code.checkBits bits
  match frames with
  | [] => throw .noFrames
  | f :: _ =>
    let width := f.length
    if width < WinnerTakesAll.width then throw (.frameTooShort width)
    let widths := frames.map List.length
    if let some i := widths.findIdx? (· ≠ width) then
      throw (.frameLength i (widths.getD i 0) width)
    let sums := columnSums width (distinct frames)
    return ⟨← Code.generate .content .video bits (WinnerTakesAll.hash sums bits)⟩

end VideoCode

end ContentCode
