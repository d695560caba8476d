import ContentCode.Unicode.Composition
import ContentCode.Unicode.Decomposition

/-!
Composed texts: after decomposition, a starter takes up each later mark with which it has a
composite, unless a mark of the same or a higher class stands between.
-/

namespace ContentCode.Unicode

def compose? (a b : Char) : Option Char :=
  match Hangul.compose? a b with
  | some c => some c
  | none => ((composites.get? a).bind (·.lookup b.toNat)).map Char.ofNat

/-- Goes on composing with the starter `s`, behind which the marks `marks`, last one first, have
been left. -/
def composeFrom (s : Char) (marks : List Char) : List Char → List Char
  | [] => s :: marks.reverse
  | c :: cs =>
    let between := (marks.head?.map combiningClass).getD 0
    let joined := if between = 0 ∨ between < combiningClass c then compose? s c else none
    match joined with
    | some p => composeFrom p marks cs
    | none =>
      if combiningClass c = 0 then s :: (marks.reverse ++ composeFrom c [] cs)
      else composeFrom s (c :: marks) cs

def compose : List Char → List Char
  | [] => []
  | c :: cs => if combiningClass c = 0 then composeFrom c [] cs else c :: compose cs

/-- Compatibility decomposition followed by composition. -/
def nfkc (cs : List Char) : List Char := compose (nfkd cs)

end ContentCode.Unicode
