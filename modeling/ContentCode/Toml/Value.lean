/-!
TOML values. A table remembers how it came about, since that decides who may still add to it.
-/

namespace ContentCode.Toml

abbrev Key := List Char

/-- How a table came about: written in braces, named by a header, passed through by the header of
a table inside it, or named by the front part of a dotted key. -/
inductive TableKind where
  | braces
  | header
  | passed
  | dotted
  deriving DecidableEq, Repr

/-- Of floats, dates and times only their presence is kept. The tables of an array of tables are
listed last one first. -/
inductive Value where
  | string (s : List Char)
  | integer (n : Int64)
  | float
  | bool (b : Bool)
  | dateTime
  | array (items : List Value)
  | table (kind : TableKind) (entries : List (Key × Value))
  | tables (entries : List (List (Key × Value)))

namespace Value

def get? (k : String) : Value → Option Value
  | table _ entries => entries.lookup k.toList
  | _ => none

def integer? : Value → Option Int64
  | integer n => some n
  | _ => none

def bool? : Value → Option Bool
  | bool b => some b
  | _ => none

end Value

structure Table where
  kind : TableKind
  entries : List (Key × Value)

namespace Table

def set (t : Table) (k : Key) (v : Value) : Table :=
  ⟨t.kind, if t.entries.any fun e => e.1 = k then
    t.entries.map fun e => if e.1 = k then (k, v) else e
  else t.entries ++ [(k, v)]⟩

def erase (t : Table) (k : Key) : Table := ⟨t.kind, t.entries.filter fun e => e.1 ≠ k⟩

def add? (k : Key) (v : Value) (t : Table) : Option Table :=
  if (t.entries.lookup k).isSome then none else some (t.set k v)

/-- Changes the table at the end of a path. Tables that are missing on the way are made; a dotted
path may pass only tables that no header named, and no path may pass a table in braces. -/
def modify? (dotted : Bool) (change : Table → Option Table) : List Key → Table → Option Table
  | [], t => change t
  | k :: path, t =>
    match t.entries.lookup k with
    | none => do
      let t' ← modify? dotted change path ⟨if dotted then .dotted else .passed, []⟩
      return t.set k (.table t'.kind t'.entries)
    | some (.table kind entries) => do
      if kind = .braces || (dotted && kind = .header) then failure
      let t' ← modify? dotted change path ⟨kind, entries⟩
      return t.set k (.table t'.kind t'.entries)
    | some (.tables (entries :: before)) => do
      let t' ← modify? dotted change path ⟨.header, entries⟩
      return t.set k (.tables (t'.entries :: before))
    | some _ => none

/-- Adds the value of a dotted key. The last table on the way must owe itself to dotted keys too. -/
def addDotted? (path : List Key) (k : Key) (v : Value) (t : Table) : Option Table :=
  t.modify? true (fun t' =>
    if path ≠ [] && t'.kind ≠ .dotted then none else t'.add? k v) path

/-- Opens the table of a header, which must be new, or known only as a part of other headers. In the
latter case it moves behind the tables beside it. -/
def openTable? (path : List Key) (k : Key) (t : Table) : Option Table :=
  t.modify? false (fun t' =>
    match t'.entries.lookup k with
    | none => some (t'.set k (.table .header []))
    | some (.table .passed entries) => some ((t'.erase k).set k (.table .header entries))
    | some _ => none) path

def openNext? (path : List Key) (k : Key) (t : Table) : Option Table :=
  t.modify? false (fun t' =>
    match t'.entries.lookup k with
    | none => some (t'.set k (.tables [[]]))
    | some (.tables before) => some (t'.set k (.tables ([] :: before)))
    | some _ => none) path

end Table

end ContentCode.Toml
