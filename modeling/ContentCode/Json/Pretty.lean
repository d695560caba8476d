import ContentCode.Json.Value

/-!
JSON values over several lines: items and entries on lines of their own, two blanks deeper than what
holds them.
-/

namespace ContentCode.Json

def newLine (depth : Nat) : List Char := '\n' :: List.replicate (2 * depth) ' '

mutual

def Value.pretty (depth : Nat) : Value → List Char
  | .array [] => ['[', ']']
  | .array (v :: items) =>
    '[' :: newLine (depth + 1) ++ v.pretty (depth + 1) ++ prettyItems depth items
  | .object [] => ['\x7b', '\x7d']
  | .object ((k, v) :: entries) =>
    '\x7b' :: newLine (depth + 1) ++ writeString k ++ [':', ' '] ++ v.pretty (depth + 1) ++
      prettyEntries depth entries
  | .null => Value.null.write
  | .bool b => (Value.bool b).write
  | .number n => n.write
  | .string s => writeString s

/-- The items after the first one, and the end of their array. -/
def prettyItems (depth : Nat) : List Value → List Char
  | [] => newLine depth ++ [']']
  | v :: items => ',' :: newLine (depth + 1) ++ v.pretty (depth + 1) ++ prettyItems depth items

def prettyEntries (depth : Nat) : List (List Char × Value) → List Char
  | [] => newLine depth ++ ['\x7d']
  | (k, v) :: entries =>
    ',' :: newLine (depth + 1) ++ writeString k ++ [':', ' '] ++ v.pretty (depth + 1) ++
      prettyEntries depth entries

end

end ContentCode.Json
