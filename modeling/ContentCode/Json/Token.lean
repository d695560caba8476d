import ContentCode.Json.Value

/-!
The tokens of a JSON text. The scanner takes one character at a time; what it has read of a number
or a string is kept, last character first, until that is complete.
-/

namespace ContentCode.Json

inductive Token where
  | openArray
  | closeArray
  | openObject
  | closeObject
  | comma
  | colon
  | null
  | bool (b : Bool)
  | number (n : Number)
  | string (s : List Char)
  deriving DecidableEq, Repr

/-- Where the scanner is: between tokens, in a number, or in a string. In a string an escaped high
surrogate may wait for its low one. -/
inductive Scanner where
  | between
  | inNumber (read : List Char)
  | inString (read : List Char) (high : Option Nat)

def isSpace (c : Char) : Bool := c = ' ' || c = '\t' || c = '\n' || c = '\r'

def startsNumber (c : Char) : Bool := c.isDigit || c = '-'

/-- Characters of which numbers are made. None of them can follow a number. -/
def inNumeral (c : Char) : Bool :=
  c.isDigit || c = '-' || c = '+' || c = '.' || c = 'e' || c = 'E'

def punctuation? (c : Char) : Option Token :=
  match c with
  | '[' => some .openArray
  | ']' => some .closeArray
  | '\x7b' => some .openObject
  | '\x7d' => some .closeObject
  | ',' => some .comma
  | ':' => some .colon
  | _ => none

def shortEscape? (c : Char) : Option Char :=
  match c with
  | '"' => some '"'
  | '\\' => some '\\'
  | '/' => some '/'
  | 'b' => some (Char.ofNat 0x08)
  | 'f' => some (Char.ofNat 0x0C)
  | 'n' => some '\n'
  | 'r' => some '\r'
  | 't' => some '\t'
  | _ => none

def hexValue? (c : Char) : Option Nat :=
  "0123456789abcdef".toList.idxOf? c.toLower

def unitValue? (a b c d : Char) : Option Nat := do
  return (((← hexValue? a) * 16 + (← hexValue? b)) * 16 + (← hexValue? c)) * 16 + (← hexValue? d)

/-- A string after an escaped UTF-16 unit: a character of its own, the first half of a pair, or the
second half. A half without the other one is an error. -/
def afterUnit (read : List Char) (high : Option Nat) (unit : Nat) : Option Scanner :=
  match high with
  | none =>
    if 0xD800 ≤ unit ∧ unit < 0xDC00 then some (.inString read (some unit))
    else if 0xDC00 ≤ unit ∧ unit < 0xE000 then none
    else some (.inString (Char.ofNat unit :: read) none)
  | some h =>
    if 0xDC00 ≤ unit ∧ unit < 0xE000 then
      some (.inString (Char.ofNat (0x10000 + (h - 0xD800) * 0x400 + (unit - 0xDC00)) :: read) none)
    else none

def finishNumber (read : List Char) : Option Token := do
  return .number (← Number.ofNumeral (← Numeral.read? read.reverse))

/-- What a character between two tokens gives: white space nothing, a mark its token, and the first
character of a number or string the scanner inside it. -/
def scanBetween (c : Char) : Option (List Token × Scanner) :=
  if isSpace c then some ([], .between)
  else if c = '"' then some ([], .inString [] none)
  else if startsNumber c then some ([], .inNumber [c])
  else (punctuation? c).map fun t => ([t], .between)

def scan : Scanner → List Char → Option (List Token)
  | .between, [] => some []
  | .inNumber read, [] => do return [← finishNumber read]
  | .inString _ _, [] => none
  | .between, 'n' :: 'u' :: 'l' :: 'l' :: cs => do return .null :: (← scan .between cs)
  | .between, 't' :: 'r' :: 'u' :: 'e' :: cs => do return .bool true :: (← scan .between cs)
  | .between, 'f' :: 'a' :: 'l' :: 's' :: 'e' :: cs => do
    return .bool false :: (← scan .between cs)
  | .between, c :: cs => do
    let (ts, s) ← scanBetween c
    return ts ++ (← scan s cs)
  | .inNumber read, c :: cs =>
    if inNumeral c then scan (.inNumber (c :: read)) cs
    else do
      let t ← finishNumber read
      let (ts, s) ← scanBetween c
      return t :: ts ++ (← scan s cs)
  | .inString read high, '\\' :: 'u' :: a :: b :: c :: d :: cs => do
    scan (← afterUnit read high (← unitValue? a b c d)) cs
  | .inString _ (some _), _ :: _ => none
  | .inString read none, '\\' :: c :: cs => do
    scan (.inString ((← shortEscape? c) :: read) none) cs
  | .inString read none, c :: cs =>
    if c = '"' then do return .string read.reverse :: (← scan .between cs)
    else if c.toNat < 0x20 ∨ c = '\\' then none
    else scan (.inString (c :: read) none) cs

def tokens (cs : List Char) : Option (List Token) := scan .between cs

end ContentCode.Json
