import ContentCode.Unicode.Category
import ContentCode.Unicode.LowerCase
import ContentCode.Unicode.Normalization
import ContentCode.Unicode.WhiteSpace

/-!
Texts as the generators see them: cleaned for display, cut to a size, or reduced to the characters
that matter for similarity.
-/

namespace ContentCode.Text

open Unicode

def isOther (c : Char) : Bool := Category.ofChar c = .other

def isMarkOrPunctuation (c : Char) : Bool :=
  Category.ofChar c = .mark || Category.ofChar c = .punctuation

/-- Line feed, vertical tab, form feed, carriage return, next line, line and paragraph separator. -/
def isLineBreak (c : Char) : Bool :=
  [0xA, 0xB, 0xC, 0xD, 0x85, 0x2028, 0x2029].contains c.toNat

/-- Makes every line break a line feed, a carriage return together with the line feed after it, and
drops the other characters of no visible form. -/
def unifyBreaks : List Char → List Char
  | [] => []
  | '\r' :: '\n' :: cs => '\n' :: unifyBreaks cs
  | c :: cs =>
    if isLineBreak c then '\n' :: unifyBreaks cs
    else if isOther c then unifyBreaks cs
    else c :: unifyBreaks cs

/-- The lines of a text, `line` being the part of the current one that has been read, reversed. -/
def linesFrom (line : List Char) : List Char → List (List Char)
  | [] => [line.reverse]
  | c :: cs => if c = '\n' then line.reverse :: linesFrom [] cs else linesFrom (c :: line) cs

def lines (cs : List Char) : List (List Char) := linesFrom [] cs

def isBlank (line : List Char) : Bool := line.all isWhiteSpace

/-- Of blank lines in a row only the first is kept. -/
def squeezeBlank (afterBlank : Bool) : List (List Char) → List (List Char)
  | [] => []
  | line :: rest =>
    if isBlank line && afterBlank then squeezeBlank true rest
    else line :: squeezeBlank (isBlank line) rest

def join (separator : Char) (parts : List (List Char)) : List Char :=
  (parts.intersperse [separator]).flatten

/-- A text for display: composed, with line feeds for line breaks and without invisible
characters, blank lines in a row, and outer white space. -/
def clean (text : String) : String :=
  .ofList (trim (join '\n' (squeezeBlank false (lines (unifyBreaks (nfkc text.toList))))))

def joinWords (text : String) : String := .ofList (join ' ' (words text.toList))

def utf8 (text : String) : List UInt8 := text.toList.flatMap String.utf8EncodeChar

/-- The longest run of whole characters from the front that takes at most `size` bytes in UTF-8. -/
def fitting (size : Nat) : List Char → List Char
  | [] => []
  | c :: cs => if c.utf8Size ≤ size then c :: fitting (size - c.utf8Size) cs else []

/-- A text cut to at most `size` bytes between two characters, without outer white space. -/
def truncate (text : String) (size : Nat) : String := .ofList (trim (fitting size text.toList))

/-- What counts for similarity: lower case, without white space, marks, punctuation and invisible
characters. -/
def collapse (text : String) : String :=
  .ofList (nfkc ((lowerCaseText (nfd text.toList)).filter fun c =>
    !isWhiteSpace c && !isOther c && !isMarkOrPunctuation c))

end ContentCode.Text
