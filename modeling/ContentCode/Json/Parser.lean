import ContentCode.Json.Token

/-!
JSON values from tokens. The parser takes one token at a time and keeps the open arrays and objects
on a stack, which has a limit.
-/

namespace ContentCode.Json

/-- An array or object that is open around the current place: the items before, or the entries
before and the key at hand; last one first. -/
inductive Frame where
  | items (read : List Value)
  | entry (read : List (List Char × Value)) (key : List Char)

inductive Expected where
  | value
  | itemOrEnd
  | keyOrEnd
  | key (read : List (List Char × Value))
  | colon (read : List (List Char × Value)) (key : List Char)
  | afterValue (v : Value)

/-- How many arrays and objects may lie within each other. -/
def maxDepth : Nat := 127

structure Parser where
  expected : Expected
  stack : List Frame

namespace Parser

def openFrame (p : Parser) (e : Expected) : Option Parser :=
  if p.stack.length < maxDepth then some ⟨e, p.stack⟩ else none

def beginValue (p : Parser) : Token → Option Parser
  | .null => some ⟨.afterValue .null, p.stack⟩
  | .bool b => some ⟨.afterValue (.bool b), p.stack⟩
  | .number n => some ⟨.afterValue (.number n), p.stack⟩
  | .string s => some ⟨.afterValue (.string s), p.stack⟩
  | .openArray => p.openFrame .itemOrEnd
  | .openObject => p.openFrame .keyOrEnd
  | _ => none

/-- The parser behind a value inside an array or object. -/
def continueFrame (v : Value) : Frame → Token → Option (Expected × List Frame)
  | .items read, .comma => some (.value, [.items (v :: read)])
  | .items read, .closeArray => some (.afterValue (.array (v :: read).reverse), [])
  | .entry read k, .comma => some (.key ((k, v) :: read), [])
  | .entry read k, .closeObject => some (.afterValue (.ofEntries ((k, v) :: read).reverse), [])
  | _, _ => none

def step (p : Parser) (t : Token) : Option Parser :=
  match p.expected with
  | .value => p.beginValue t
  | .itemOrEnd =>
    match t with
    | .closeArray => some ⟨.afterValue (.array []), p.stack⟩
    | t => beginValue ⟨.value, .items [] :: p.stack⟩ t
  | .keyOrEnd =>
    match t with
    | .closeObject => some ⟨.afterValue (.object []), p.stack⟩
    | .string k => some ⟨.colon [] k, p.stack⟩
    | _ => none
  | .key read =>
    match t with
    | .string k => some ⟨.colon read k, p.stack⟩
    | _ => none
  | .colon read k =>
    match t with
    | .colon => some ⟨.value, .entry read k :: p.stack⟩
    | _ => none
  | .afterValue v =>
    match p.stack with
    | [] => none
    | f :: stack => (continueFrame v f t).map fun (e, above) => ⟨e, above ++ stack⟩

def result? (p : Parser) : Option Value :=
  match p.expected, p.stack with
  | .afterValue v, [] => some v
  | _, _ => none

end Parser

def read? (cs : List Char) : Option Value := do
  (← (← tokens cs).foldlM Parser.step ⟨.value, []⟩).result?

end ContentCode.Json
