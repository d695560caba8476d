import ContentCode.Decimal.Binary64
import ContentCode.Json.Token
import ContentCode.Toml.Value

/-!
The parts of a TOML text that hold no others: white space, comments, strings, numbers, dates and
times. What reads a part returns it with the text behind it.
-/

namespace ContentCode.Toml

def isSpace (c : Char) : Bool := c = ' ' || c = '\t'

def skipSpace (cs : List Char) : List Char := cs.dropWhile isSpace

/-- Characters that may stand in comments, and unescaped in strings: no control characters but the
tab. -/
def isPrintable (c : Char) : Bool := c = '\t' || (0x20 ≤ c.toNat && c.toNat ≠ 0x7F)

def skipBreak? : List Char → Option (List Char)
  | '\n' :: cs => some cs
  | '\r' :: '\n' :: cs => some cs
  | _ => none

def endLine? (cs : List Char) : Option (List Char) :=
  let cs := skipSpace cs
  let cs := match cs with
    | '#' :: rest => rest.dropWhile isPrintable
    | rest => rest
  match cs with
  | [] => some []
  | rest => skipBreak? rest

def skipLines (inComment : Bool) : List Char → Option (List Char)
  | [] => some []
  | '\n' :: cs => skipLines false cs
  | '\r' :: '\n' :: cs => skipLines false cs
  | c :: cs =>
    if inComment then if isPrintable c then skipLines true cs else none
    else if isSpace c then skipLines false cs
    else if c = '#' then skipLines true cs
    else some (c :: cs)

def scalar? (v : Nat) : Option Char :=
  if h : v.isValidChar then some (Char.ofNatAux v h) else none

def escape? (c : Char) : Option Char :=
  if c = '/' then none else Json.shortEscape? c

def basicString (read : List Char) : List Char → Option (List Char × List Char)
  | [] => none
  | '"' :: cs => some (read.reverse, cs)
  | '\\' :: 'u' :: a :: b :: c :: d :: cs => do
    basicString ((← scalar? (← Json.unitValue? a b c d)) :: read) cs
  | '\\' :: 'U' :: a :: b :: c :: d :: e :: f :: g :: h :: cs => do
    let v := (← Json.unitValue? a b c d) * 0x10000 + (← Json.unitValue? e f g h)
    basicString ((← scalar? v) :: read) cs
  | '\\' :: c :: cs => do basicString ((← escape? c) :: read) cs
  | c :: cs => if isPrintable c && c ≠ '\\' then basicString (c :: read) cs else none

def literalString (read : List Char) : List Char → Option (List Char × List Char)
  | [] => none
  | '\'' :: cs => some (read.reverse, cs)
  | c :: cs => if isPrintable c then literalString (c :: read) cs else none

/-- A string of several lines, after its three quotation marks. A backslash at the end of a line
joins it with the next text; while `joining`, white space and line breaks are skipped. -/
def basicLines (read : List Char) (joining : Bool) : List Char → Option (List Char × List Char)
  | [] => none
  | '"' :: '"' :: '"' :: '"' :: '"' :: cs => some (('"' :: '"' :: read).reverse, cs)
  | '"' :: '"' :: '"' :: '"' :: cs => some (('"' :: read).reverse, cs)
  | '"' :: '"' :: '"' :: cs => some (read.reverse, cs)
  | '\\' :: 'u' :: a :: b :: c :: d :: cs => do
    basicLines ((← scalar? (← Json.unitValue? a b c d)) :: read) false cs
  | '\\' :: 'U' :: a :: b :: c :: d :: e :: f :: g :: h :: cs => do
    let v := (← Json.unitValue? a b c d) * 0x10000 + (← Json.unitValue? e f g h)
    basicLines ((← scalar? v) :: read) false cs
  | '\r' :: '\n' :: cs => basicLines (if joining then read else '\n' :: read) joining cs
  | '\n' :: cs => basicLines (if joining then read else '\n' :: read) joining cs
  | '\\' :: c :: cs =>
    if (skipBreak? (skipSpace (c :: cs))).isSome then basicLines read true (c :: cs)
    else do basicLines ((← escape? c) :: read) false cs
  | c :: cs =>
    if joining && isSpace c then basicLines read true cs
    else if isPrintable c && c ≠ '\\' then basicLines (c :: read) false cs
    else none

def literalLines (read : List Char) : List Char → Option (List Char × List Char)
  | [] => none
  | '\'' :: '\'' :: '\'' :: '\'' :: '\'' :: cs => some (('\'' :: '\'' :: read).reverse, cs)
  | '\'' :: '\'' :: '\'' :: '\'' :: cs => some (('\'' :: read).reverse, cs)
  | '\'' :: '\'' :: '\'' :: cs => some (read.reverse, cs)
  | '\r' :: '\n' :: cs => literalLines ('\n' :: read) cs
  | '\n' :: cs => literalLines ('\n' :: read) cs
  | c :: cs => if isPrintable c then literalLines (c :: read) cs else none

def skipFirstBreak (cs : List Char) : List Char := (skipBreak? cs).getD cs

def readString? : List Char → Option (List Char × List Char)
  | '"' :: '"' :: '"' :: cs => basicLines [] false (skipFirstBreak cs)
  | '"' :: cs => basicString [] cs
  | '\'' :: '\'' :: '\'' :: cs => literalLines [] (skipFirstBreak cs)
  | '\'' :: cs => literalString [] cs
  | _ => none

/-- Removes the underscores between digits; one that stands elsewhere is an error. -/
def plainDigits? (isDigit : Char → Bool) : List Char → Option (List Char)
  | [] => none
  | [c] => if isDigit c then some [c] else none
  | c :: '_' :: cs => if isDigit c then (plainDigits? isDigit cs).map (c :: ·) else none
  | c :: cs => if isDigit c then (plainDigits? isDigit cs).map (c :: ·) else none

def radixValue? (radix : Nat) (cs : List Char) : Option Nat := do
  let isDigit := fun c => ((Json.hexValue? c).getD 16) < radix
  let ds ← plainDigits? isDigit cs
  return ds.foldl (fun v c => radix * v + (Json.hexValue? c).getD 0) 0

def splitSign : List Char → Bool × List Char
  | '-' :: cs => (true, cs)
  | '+' :: cs => (false, cs)
  | cs => (false, cs)

def decimal? (cs : List Char) : Option Nat := do
  let ds ← plainDigits? Char.isDigit cs
  guard (ds.length = 1 ∨ ds.head? ≠ some '0')
  return Decimal.value ds

def integer? (cs : List Char) : Option Int64 := do
  let n : Int ← match cs with
    | '0' :: 'x' :: ds => (radixValue? 16 ds).map Int.ofNat
    | '0' :: 'o' :: ds => (radixValue? 8 ds).map Int.ofNat
    | '0' :: 'b' :: ds => (radixValue? 2 ds).map Int.ofNat
    | _ =>
      let (negative, ds) := splitSign cs
      (decimal? ds).map fun n => if negative then -n else n
  guard (-Int.pow 2 63 ≤ n ∧ n < Int.pow 2 63)
  return .ofInt n

/-- The value of a decimal with a fraction or an exponent, as an integer times a power of ten. -/
def fraction? (cs : List Char) : Option (Nat × Int) := do
  let isMark := fun c => c = 'e' || c = 'E'
  let front := cs.takeWhile (!isMark ·)
  let back := cs.dropWhile (!isMark ·)
  let whole := front.takeWhile (· ≠ '.')
  let fraction := front.dropWhile (· ≠ '.')
  guard (!fraction.isEmpty || !back.isEmpty)
  let whole ← decimal? whole
  let fraction ← if fraction.isEmpty then some [] else plainDigits? Char.isDigit (fraction.drop 1)
  let (negative, exponent) := splitSign (back.drop 1)
  let exponent ← if back.isEmpty then some [] else plainDigits? Char.isDigit exponent
  let e : Int := Decimal.value exponent
  return (Decimal.value (Decimal.digits whole ++ fraction),
    (if negative then -e else e) - fraction.length)

/-- A floating-point number. One that is too large is refused, one that is too small is not. -/
def isFloat (cs : List Char) : Bool :=
  let (negative, cs) := splitSign cs
  if cs = "inf".toList || cs = "nan".toList then true
  else match fraction? cs with
    | some (v, e) => negative || Decimal.Binary64.inRange v e
    | none => false

def fixedDigits? (n : Nat) (cs : List Char) : Option (Nat × List Char) :=
  let ds := cs.take n
  if ds.length = n ∧ ds.all Char.isDigit then some (Decimal.value ds, cs.drop n) else none

def expect? (c : Char) : List Char → Option (List Char)
  | c' :: cs => if c' = c then some cs else none
  | [] => none

def monthDays (year month : Nat) : Nat :=
  if month = 2 then
    if year % 4 = 0 ∧ (year % 100 ≠ 0 ∨ year % 400 = 0) then 29 else 28
  else if month ∈ [4, 6, 9, 11] then 30
  else 31

def skipDate? (cs : List Char) : Option (List Char) := do
  let (year, cs) ← fixedDigits? 4 cs
  let (month, cs) ← fixedDigits? 2 (← expect? '-' cs)
  let (day, cs) ← fixedDigits? 2 (← expect? '-' cs)
  guard (1 ≤ month ∧ month ≤ 12 ∧ 1 ≤ day ∧ day ≤ monthDays year month)
  return cs

/-- What hours and offsets from universal time may be. -/
structure ClockRule where
  lastHour : Nat
  isOffset : (hours minutes : Nat) → Bool

def ClockRule.plain : ClockRule := ⟨23, fun hours minutes => hours ≤ 23 && minutes ≤ 59⟩

/-- The rule for dates and times in strings, where a day may end with hour 24 and an offset may be a
whole day. -/
def ClockRule.quoted : ClockRule := ⟨24, fun hours minutes => 60 * hours + minutes ≤ 24 * 60⟩

def skipTime? (rule : ClockRule) (cs : List Char) : Option (List Char) := do
  let (hour, cs) ← fixedDigits? 2 cs
  let (minute, cs) ← fixedDigits? 2 (← expect? ':' cs)
  let (second, cs) ← fixedDigits? 2 (← expect? ':' cs)
  guard (hour ≤ rule.lastHour ∧ minute ≤ 59 ∧ second ≤ 60)
  match cs with
  | '.' :: fraction =>
    let rest := fraction.dropWhile Char.isDigit
    guard (rest.length < fraction.length)
    return rest
  | rest => return rest

def isOffset (rule : ClockRule) (cs : List Char) : Bool :=
  match cs with
  | [] => true
  | c :: cs =>
    if c = 'Z' || c = 'z' then cs.isEmpty
    else (c = '+' || c = '-') && ((do
      let (hour, cs) ← fixedDigits? 2 cs
      let (minute, cs) ← fixedDigits? 2 (← expect? ':' cs)
      guard (rule.isOffset hour minute ∧ cs.isEmpty) : Option Unit)).isSome

def isDateTime (rule : ClockRule) (cs : List Char) : Bool :=
  match skipDate? cs with
  | some [] => true
  | some (c :: cs) =>
    (c = 'T' || c = 't' || c = ' ') && match skipTime? rule cs with
      | some rest => isOffset rule rest
      | none => false
  | none => skipTime? rule cs = some []

def inScalar (c : Char) : Bool :=
  c.isAlphanum || c = '+' || c = '-' || c = '.' || c = ':' || c = '_'

/-- The characters of a value without quotes. A date goes on after a blank if a time follows. -/
def scalarText (cs : List Char) : List Char × List Char :=
  let front := cs.takeWhile inScalar
  let rest := cs.dropWhile inScalar
  match rest with
  | ' ' :: d :: more =>
    if skipDate? front = some [] && d.isDigit then
      (front ++ ' ' :: (d :: more).takeWhile inScalar, (d :: more).dropWhile inScalar)
    else (front, rest)
  | rest => (front, rest)

def ofScalar? (cs : List Char) : Option Value :=
  if cs = "true".toList then some (.bool true)
  else if cs = "false".toList then some (.bool false)
  else if isDateTime .plain cs then some .dateTime
  else match integer? cs with
    | some n => some (.integer n)
    | none => if isFloat cs then some .float else none

end ContentCode.Toml
