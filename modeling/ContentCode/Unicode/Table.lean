/-!
Properties of characters as tables: consecutive code points that share a value form a span, and
spans in ascending order are bound into pages, so that a look-up skips the pages below it.
-/

namespace ContentCode.Unicode

structure Span (α : Type) where
  first : Nat
  last : Nat
  value : α

structure Page (α : Type) where
  last : Nat
  spans : List (Span α)

abbrev Table (α : Type) := List (Page α)

variable {α : Type}

def Span.contains (s : Span α) (c : Nat) : Bool := s.first ≤ c && c ≤ s.last

def Page.find? (p : Page α) (c : Nat) : Option (Span α) := p.spans.find? (·.contains c)

def Table.find? : Table α → (c : Nat) → Option (Span α)
  | [], _ => none
  | p :: pages, c => if c ≤ p.last then p.find? c else Table.find? pages c

def Table.get? (t : Table α) (c : Char) : Option α := (t.find? c.toNat).map Span.value

theorem Table.find?_contains {t : Table α} {c : Nat} {s : Span α} (h : t.find? c = some s) :
    s.contains c := by
  induction t with
  | nil => simp [Table.find?] at h
  | cons p pages ih =>
    by_cases hc : c ≤ p.last
    · rw [Table.find?, if_pos hc] at h
      exact List.find?_some (p := fun s : Span α => s.contains c) h
    · rw [Table.find?, if_neg hc] at h
      exact ih h

end ContentCode.Unicode
