import ContentCode.Unicode.Casing

/-!
Lower-case texts. A capital sigma at the end of a word takes its final form: letters before it,
none after it, whatever case-ignorable characters stand between.
-/

namespace ContentCode.Unicode

/-- Whether the first character that is not case-ignorable is a cased one. -/
def meetsCased (cs : List Char) : Bool :=
  match cs.dropWhile isCaseIgnorable with
  | [] => false
  | c :: _ => isCased c

/-- The lower-case form of a text that goes on from `before`, which is reversed. -/
def lowerCaseFrom (before : List Char) : List Char → List Char
  | [] => []
  | c :: cs =>
    let lower :=
      if c = 'Σ' then if meetsCased before && !meetsCased cs then ['ς'] else ['σ']
      else lowerCase c
    lower ++ lowerCaseFrom (c :: before) cs

def lowerCaseText (cs : List Char) : List Char := lowerCaseFrom [] cs

end ContentCode.Unicode
