import ContentCode.Unicode.Decomposition.Canonical
import ContentCode.Unicode.Decomposition.Compatibility
import ContentCode.Unicode.CombiningClass

/-!
Decomposed texts: every character is replaced by its full decomposition, and marks after a starter
are put in the order of their combining classes.
-/

namespace ContentCode.Unicode

/-- Hangul syllables are composed by arithmetic: a leading consonant, a vowel and, in all but every
28th, a trailing consonant. -/
structure Hangul where
  lead : Nat
  vowel : Nat
  trail : Nat

namespace Hangul

def leadBase : Nat := 0x1100
def vowelBase : Nat := 0x1161
def trailBase : Nat := 0x11A7
def syllableBase : Nat := 0xAC00
def leadCount : Nat := 19
def vowelCount : Nat := 21
def trailCount : Nat := 28
def syllableCount : Nat := leadCount * vowelCount * trailCount

def ofChar? (c : Char) : Option Hangul :=
  if syllableBase ≤ c.toNat ∧ c.toNat < syllableBase + syllableCount then
    let i := c.toNat - syllableBase
    some ⟨i / (vowelCount * trailCount), i / trailCount % vowelCount, i % trailCount⟩
  else none

def decompose (h : Hangul) : List Char :=
  Char.ofNat (leadBase + h.lead) :: Char.ofNat (vowelBase + h.vowel) ::
    if h.trail = 0 then [] else [Char.ofNat (trailBase + h.trail)]

/-- The syllable of a leading consonant and a vowel, or of a syllable without a trailing consonant
and one. -/
def compose? (a b : Char) : Option Char :=
  if leadBase ≤ a.toNat ∧ a.toNat < leadBase + leadCount ∧
      vowelBase ≤ b.toNat ∧ b.toNat < vowelBase + vowelCount then
    some (Char.ofNat (syllableBase +
      ((a.toNat - leadBase) * vowelCount + (b.toNat - vowelBase)) * trailCount))
  else if syllableBase ≤ a.toNat ∧ a.toNat < syllableBase + syllableCount ∧
      (a.toNat - syllableBase) % trailCount = 0 ∧
      trailBase < b.toNat ∧ b.toNat < trailBase + trailCount then
    some (Char.ofNat (a.toNat + (b.toNat - trailBase)))
  else none

end Hangul

namespace Decomposition

/-- A mapping whose last code point is moved on by `n`. -/
def advance (n : Nat) : List Nat → List Char
  | [] => []
  | [v] => [Char.ofNat (v + n)]
  | v :: vs => Char.ofNat v :: advance n vs

def find? (t : Table (List Nat)) (c : Char) : Option (List Char) :=
  (t.find? c.toNat).map fun s => advance (c.toNat - s.first) s.value

end Decomposition

def canonicalDecomposition (c : Char) : List Char :=
  match Hangul.ofChar? c with
  | some h => h.decompose
  | none => (Decomposition.find? Decomposition.canonical c).getD [c]

def compatibilityDecomposition (c : Char) : List Char :=
  (Decomposition.find? Decomposition.compatibility c).getD (canonicalDecomposition c)

/-- Puts a character in front of an ordered text: a mark moves past the marks of lower classes. -/
def insertMark (c : Char) : List Char → List Char
  | [] => [c]
  | d :: cs =>
    if 0 < combiningClass d ∧ combiningClass d < combiningClass c then d :: insertMark c cs
    else c :: d :: cs

def canonicalOrder (cs : List Char) : List Char := cs.foldr insertMark []

/-- Canonical decomposition. -/
def nfd (cs : List Char) : List Char := canonicalOrder (cs.flatMap canonicalDecomposition)

/-- Compatibility decomposition. -/
def nfkd (cs : List Char) : List Char := canonicalOrder (cs.flatMap compatibilityDecomposition)

end ContentCode.Unicode
