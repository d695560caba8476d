import ContentCode.Error

/-!
Input that is read through a buffer. What a reading meets is a list of events; a reading goes on
after an interruption, and ends at a failure, at an empty block, or with the events.
-/

namespace ContentCode

inductive Input.Event where
  | block (bytes : List UInt8)
  | interrupted
  | failure (text : String)
  deriving DecidableEq, Repr

abbrev Input := List Input.Event

namespace Input

def ofBytes (bytes : List UInt8) : Input := [.block bytes]

/-- The room of a new buffer. No block of memory has as many bytes as half of the addresses; asked for
such a buffer, a program stops. Nothing else is said of the memory that there is. -/
def buffer? (size : UInt64) : Option Nat :=
  if size.toNat < Nat.pow 2 63 then some size.toNat else none

/-- The parts of a block that fill a buffer, the last one perhaps in part. Nothing fits a buffer
without room. -/
def pieces (size : Nat) (bytes : List UInt8) : List (List UInt8) :=
  if h : size = 0 ∨ bytes = [] then []
  else
    have := List.length_pos_iff.2 (not_or.1 h).2
    bytes.take size :: pieces size (bytes.drop size)
termination_by bytes.length
decreasing_by simp only [List.length_drop]; omega

def deliver (size : Nat) : Input → List (List UInt8) × Option Error
  | [] => ([], none)
  | .interrupted :: events => deliver size events
  | .failure text :: _ => ([], some (.io text))
  | .block [] :: _ => ([], none)
  | .block bytes :: events =>
    let (parts, failure) := deliver size events
    (pieces size bytes ++ parts, failure)

/-- A state that takes up all parts; or the failure, in which case the state is lost. -/
def absorbAll {σ : Type} (absorb : σ → List UInt8 → σ) (size : Nat) (s : σ) (input : Input) :
    Except Error σ :=
  match input.deliver size with
  | (parts, none) => .ok (parts.foldl absorb s)
  | (_, some e) => .error e

def toBytes (input : Input) : Except Error (List UInt8) :=
  absorbAll (· ++ ·) 8192 [] input

end Input

end ContentCode
