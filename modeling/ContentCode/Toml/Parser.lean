import ContentCode.Toml.Date

/-!
TOML texts. Values inside each other use up fuel, of which a text has one unit per character, so it
never runs out before the text does. How deep they may be is limited besides.
-/

namespace ContentCode.Toml

/-- Neither the parts of a dotted key nor the arrays and braces around a value may be as many. -/
def nestingLimit : Nat := 80

def isBareKey (c : Char) : Bool := c.isAlphanum || c = '_' || c = '-'

def readKey? (cs : List Char) : Option (Key × List Char) :=
  match cs with
  | '"' :: rest => basicString [] rest
  | '\'' :: rest => literalString [] rest
  | cs =>
    let k := cs.takeWhile isBareKey
    if k.isEmpty then none else some (k, cs.dropWhile isBareKey)

/-- The parts of a dotted key, and the text after it and the white space behind. -/
def readParts? : (fuel : Nat) → List Char → Option (List Key × List Char)
  | 0, _ => none
  | fuel + 1, cs => do
    let (k, cs) ← readKey? (skipSpace cs)
    match skipSpace cs with
    | '.' :: rest =>
      let (path, rest) ← readParts? fuel rest
      return (k :: path, rest)
    | rest => return ([k], rest)

def readPath? (fuel : Nat) (cs : List Char) : Option (List Key × List Char) :=
  (readParts? fuel cs).filter fun (path, _) => path.length < nestingLimit

mutual

def readValue? : (fuel depth : Nat) → List Char → Option (Value × List Char)
  | 0, _, _ => none
  | fuel + 1, depth, cs =>
    match cs with
    | '[' :: rest =>
      if depth + 1 < nestingLimit then readItems? fuel (depth + 1) [] rest else none
    | '\x7b' :: rest =>
      if depth + 1 < nestingLimit then
        match skipSpace rest with
        | '\x7d' :: rest => some (.table .braces [], rest)
        | rest => readEntries? fuel (depth + 1) ⟨.braces, []⟩ rest
      else none
    | c :: rest =>
      if c = '"' || c = '\'' then (readString? (c :: rest)).map fun (s, rest) => (.string s, rest)
      else do
        let (text, rest) := scalarText (c :: rest)
        return (← ofScalar? text, rest)
    | [] => none

/-- The items of an array after those in `read`, last one first. A comma may follow the last one. -/
def readItems? :
    (fuel depth : Nat) → (read : List Value) → List Char → Option (Value × List Char)
  | 0, _, _, _ => none
  | fuel + 1, depth, read, cs => do
    match ← skipLines false cs with
    | ']' :: rest => return (.array read.reverse, rest)
    | cs =>
      let (v, cs) ← readValue? fuel depth cs
      match ← skipLines false cs with
      | ',' :: rest => readItems? fuel depth (v :: read) rest
      | ']' :: rest => return (.array (v :: read).reverse, rest)
      | _ => failure

def readEntries? : (fuel depth : Nat) → (t : Table) → List Char → Option (Value × List Char)
  | 0, _, _, _ => none
  | fuel + 1, depth, t, cs => do
    let (path, cs) ← readPath? fuel cs
    let (v, cs) ← readValue? fuel depth (skipSpace (← expect? '=' cs))
    let t ← t.addDotted? path.dropLast (path.getLastD []) v
    match skipSpace cs with
    | ',' :: rest => readEntries? fuel depth t rest
    | '\x7d' :: rest => return (.table .braces t.entries, rest)
    | _ => failure

end

/-- A text that is read in part: the table of all entries so far, and the path of the header under
which new ones come. -/
structure Document where
  root : Table
  header : List Key

namespace Document

def addEntry? (d : Document) (path : List Key) (v : Value) : Option Document := do
  let add := Table.addDotted? path.dropLast (path.getLastD []) v
  return ⟨← d.root.modify? false add d.header, d.header⟩

def readLine? (fuel : Nat) (d : Document) (cs : List Char) : Option (Document × List Char) := do
  match skipSpace cs with
  | '[' :: '[' :: cs =>
    let (path, cs) ← readPath? fuel cs
    let rest ← endLine? (← expect? ']' (← expect? ']' cs))
    return (⟨← d.root.openNext? path.dropLast (path.getLastD []), path⟩, rest)
  | '[' :: cs =>
    let (path, cs) ← readPath? fuel cs
    let rest ← endLine? (← expect? ']' cs)
    return (⟨← d.root.openTable? path.dropLast (path.getLastD []), path⟩, rest)
  | cs =>
    match endLine? cs with
    | some rest => return (d, rest)
    | none =>
      let (path, cs) ← readPath? fuel cs
      let (v, cs) ← readValue? fuel 0 (skipSpace (← expect? '=' cs))
      return (← d.addEntry? path v, ← endLine? cs)

def readLines? : (fuel : Nat) → Document → List Char → Option Document
  | _, d, [] => some d
  | 0, _, _ => none
  | fuel + 1, d, cs => do
    let (d, rest) ← d.readLine? (fuel + 1) cs
    readLines? fuel d rest

end Document

/-- Reads a whole text as a table, or as the date that this table stands for. -/
def read? (text : String) : Option Value := do
  let cs := match text.toList with
    | c :: rest => if c.toNat = 0xFEFF then rest else c :: rest
    | [] => []
  let d ← Document.readLines? (cs.length + 1) ⟨⟨.header, []⟩, []⟩ cs
  resolveTable? d.root.entries

end ContentCode.Toml
