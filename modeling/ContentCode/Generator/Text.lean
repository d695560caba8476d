import ContentCode.Code
import ContentCode.Hash.XxHash32
import ContentCode.Similarity.MinHash
import ContentCode.Similarity.Windows
import ContentCode.Text

/-!
Text codes: the MinHash of all runs of 13 characters of the collapsed text.
-/

namespace ContentCode

/-- A text code, and the number of characters after collapsing. -/
structure TextCode where
  iscc : String
  characters : Nat
  deriving DecidableEq, Repr

namespace TextCode

def windowWidth : Nat := 13

def generate (text : String) (bits : Nat) : Except Error TextCode := do
  Code.checkBits bits
  let collapsed := Text.collapse text
  let windows ← Windows.ofText windowWidth collapsed
  let features := windows.map fun w => Hash.XxHash32.hash (Text.utf8 w)
  return ⟨← Code.generate .content .plain bits (MinHash.digest features), collapsed.length⟩

end TextCode

end ContentCode
