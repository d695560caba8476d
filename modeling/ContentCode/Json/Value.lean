import ContentCode.Json.Number

/-!
JSON values, and their compact form with sorted keys.
-/

namespace ContentCode.Json

inductive Value where
  | null
  | bool (b : Bool)
  | number (n : Number)
  | string (s : List Char)
  | array (items : List Value)
  | object (entries : List (List Char × Value))

/-- Puts an entry in its place among entries in ascending order of keys; a key that is there
already gets the new value. Keys compare by code points, which is how their bytes compare. -/
def insertEntry (k : List Char) (v : Value) :
    List (List Char × Value) → List (List Char × Value)
  | [] => [(k, v)]
  | (k', v') :: entries =>
    if k < k' then (k, v) :: (k', v') :: entries
    else if k = k' then (k, v) :: entries
    else (k', v') :: insertEntry k v entries

/-- The object of some entries; of equal keys the last one counts. -/
def Value.ofEntries (entries : List (List Char × Value)) : Value :=
  .object (entries.foldl (fun sorted (k, v) => insertEntry k v sorted) [])

def Value.hasKey (k : List Char) : Value → Bool
  | object entries => entries.any fun (k', _) => k' = k
  | _ => false

def hexDigit (v : Nat) : Char := "0123456789abcdef".toList.getD v '0'

/-- A character within a string. Only the quote, the backslash and the characters below the space
are escaped. -/
def writeChar (c : Char) : List Char :=
  if c = '"' then ['\\', '"']
  else if c = '\\' then ['\\', '\\']
  else if c.toNat = 0x08 then ['\\', 'b']
  else if c.toNat = 0x0C then ['\\', 'f']
  else if c = '\n' then ['\\', 'n']
  else if c = '\r' then ['\\', 'r']
  else if c = '\t' then ['\\', 't']
  else if c.toNat < 0x20 then
    ['\\', 'u', '0', '0', hexDigit (c.toNat / 16), hexDigit (c.toNat % 16)]
  else [c]

def writeString (s : List Char) : List Char := '"' :: s.flatMap writeChar ++ ['"']

mutual

def Value.write : Value → List Char
  | .null => "null".toList
  | .bool true => "true".toList
  | .bool false => "false".toList
  | .number n => n.write
  | .string s => writeString s
  | .array [] => ['[', ']']
  | .array (v :: items) => '[' :: v.write ++ writeItems items
  | .object [] => ['\x7b', '\x7d']
  | .object ((k, v) :: entries) =>
    '\x7b' :: writeString k ++ ':' :: v.write ++ writeEntries entries

/-- The items after the first one, and the end of their array. -/
def writeItems : List Value → List Char
  | [] => [']']
  | v :: items => ',' :: v.write ++ writeItems items

def writeEntries : List (List Char × Value) → List Char
  | [] => ['\x7d']
  | (k, v) :: entries => ',' :: writeString k ++ ':' :: v.write ++ writeEntries entries

end

end ContentCode.Json
