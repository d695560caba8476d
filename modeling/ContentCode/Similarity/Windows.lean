import ContentCode.Error

/-!
Sliding windows: all runs of `width` neighbours. What is no longer than a window is one window.
-/

namespace ContentCode.Windows

variable {α : Type}

/-- The first `n` windows. -/
def slide (width : Nat) : (n : Nat) → List α → List (List α)
  | 0, _ => []
  | n + 1, xs => xs.take width :: slide width n xs.tail

def windows (width : Nat) (xs : List α) : Except Error (List (List α)) :=
  if width < 2 then .error (.narrowWindow width)
  else if xs.length ≤ width then .ok [xs]
  else .ok (slide width (xs.length - width + 1) xs)

def ofText (width : Nat) (text : String) : Except Error (List String) := do
  return (← windows width text.toList).map String.ofList

end ContentCode.Windows
