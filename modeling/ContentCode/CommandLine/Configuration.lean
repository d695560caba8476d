import ContentCode.Settings
import ContentCode.Toml.Parser

/-!
Settings from a file: the table `gen` may set `bits`, `wide` and `buffer_size`. Values of another
type are passed over; a number out of range is an error.
-/

namespace ContentCode.CommandLine

inductive ConfigurationError where
  | unreadable
  | malformed
  | bits
  | bufferSize
  deriving DecidableEq, Repr

def ConfigurationError.message : ConfigurationError → String
  | unreadable => "Failed to read config file"
  | malformed => "Failed to parse config file"
  | bits => "Invalid bits"
  | bufferSize => "Invalid buffer_size"

def applyTable (t : Toml.Value) (s : Settings) : Except ConfigurationError Settings := do
  let s ← match (t.get? "bits").bind Toml.Value.integer? with
    | some n =>
      if 0 ≤ n.toInt ∧ n.toInt < Int.pow 2 32 then pure { s with bits := n.toInt.toNat }
      else throw .bits
    | none => pure s
  let s := match (t.get? "wide").bind Toml.Value.bool? with
    | some b => { s with wide := b }
    | none => s
  match (t.get? "buffer_size").bind Toml.Value.integer? with
  | some n =>
    if 0 ≤ n.toInt then return { s with bufferSize := .ofNat n.toInt.toNat }
    else throw .bufferSize
  | none => return s

def settingsOfText (text : String) : Except ConfigurationError Settings :=
  match Toml.read? text with
  | none => .error .malformed
  | some root =>
    match root.get? "gen" with
    | some t => applyTable t {}
    | none => .ok {}

end ContentCode.CommandLine
