import ContentCode.Toml.Scalar

/-!
Tables that stand for dates and times: those whose first key is a mark, under which the text of the
date stands. The keys after it do not count.
-/

namespace ContentCode.Toml

def dateMark : Key := "$__toml_private_datetime".toList

def dateOf? : Value → Option Value
  | .string s => if isDateTime .quoted s then some .dateTime else none
  | _ => none

mutual

/-- The value with dates in place of the tables that stand for them. -/
def Value.resolve? : Value → Option Value
  | .array items => do return .array (← resolveItems? items)
  | .table _ entries => resolveTable? entries
  | .tables before => do return .array (← resolveTables? before).reverse
  | .string s => some (.string s)
  | .integer n => some (.integer n)
  | .float => some .float
  | .bool b => some (.bool b)
  | .dateTime => some .dateTime

def resolveItems? : List Value → Option (List Value)
  | [] => some []
  | v :: items => do return (← v.resolve?) :: (← resolveItems? items)

def resolveTables? : List (List (Key × Value)) → Option (List Value)
  | [] => some []
  | entries :: before => do return (← resolveTable? entries) :: (← resolveTables? before)

def resolveTable? : List (Key × Value) → Option Value
  | [] => some (.table .header [])
  | (k, v) :: entries =>
    if k = dateMark then dateOf? v
    else do return .table .header ((k, ← v.resolve?) :: (← resolveEntries? entries))

def resolveEntries? : List (Key × Value) → Option (List (Key × Value))
  | [] => some []
  | (k, v) :: entries => do return (k, ← v.resolve?) :: (← resolveEntries? entries)

end

end ContentCode.Toml
