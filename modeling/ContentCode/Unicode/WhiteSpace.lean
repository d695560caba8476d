import ContentCode.Unicode.Table

/-!
The White_Space property, and the operations on texts that rest on it.
-/

namespace ContentCode.Unicode

def whiteSpace : Table Unit := [
  ⟨0x3000, [
    ⟨0x9, 0xD, ()⟩, ⟨0x20, 0x20, ()⟩, ⟨0x85, 0x85, ()⟩, ⟨0xA0, 0xA0, ()⟩, ⟨0x1680, 0x1680, ()⟩,
    ⟨0x2000, 0x200A, ()⟩, ⟨0x2028, 0x2029, ()⟩, ⟨0x202F, 0x202F, ()⟩, ⟨0x205F, 0x205F, ()⟩,
    ⟨0x3000, 0x3000, ()⟩]⟩]

def isWhiteSpace (c : Char) : Bool := (whiteSpace.get? c).isSome

def trim (cs : List Char) : List Char :=
  ((cs.dropWhile isWhiteSpace).reverse.dropWhile isWhiteSpace).reverse

/-- The words of a text, `word` being the part of the current one that has been read, reversed. -/
def wordsFrom (word : List Char) : List Char → List (List Char)
  | [] => if word.isEmpty then [] else [word.reverse]
  | c :: cs =>
    if isWhiteSpace c then
      if word.isEmpty then wordsFrom [] cs else word.reverse :: wordsFrom [] cs
    else wordsFrom (c :: word) cs

/-- The longest parts of a text that are free of white space. -/
def words (cs : List Char) : List (List Char) := wordsFrom [] cs

end ContentCode.Unicode
