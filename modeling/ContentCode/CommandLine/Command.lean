import ContentCode.Chunking.Parameters
import ContentCode.CommandLine.Arguments
import ContentCode.Decimal.Digits

/-!
The commands, and how they are read from the arguments.
-/

namespace ContentCode.CommandLine

inductive Command where
  | encode (maintype subtype digest : String)
  | decode (code : String)
  | decompose (code : String)
  | metadata (name : String) (description document : Option String)
  | text (file : String)
  | data (file : String)
  | inst (file : String)
  | sum (file : String) (wide : Bool)
  | compose (codes : List String) (wide : Bool)
  | chunks (file : String) (average : Nat) (align : Bool)
  | selftest
  deriving DecidableEq, Repr

structure Invocation where
  config : String
  bits : Option Nat
  command : Command
  deriving DecidableEq, Repr

inductive Request where
  | run (invocation : Invocation)
  | help
  | version
  | wrong
  deriving DecidableEq, Repr

def defaultConfig : String := "~/.iscc/config.toml"

/-- Decimal digits, which may follow a plus sign, as a number up to `limit`. -/
def number? (limit : Nat) (text : String) : Option Nat :=
  let digits := match text.toList with
    | '+' :: ds => ds
    | ds => ds
  if digits.isEmpty || !digits.all Char.isDigit then none
  else
    let n := Decimal.value digits
    if n ≤ limit then some n else none

/-- A number of 32 bits; the minus sign of a zero does no harm. -/
def bits? (text : String) : Option Nat :=
  match text.toList with
  | '-' :: d :: ds => if (d :: ds).all (· = '0') then some 0 else none
  | _ => number? (Nat.pow 2 32 - 1) text

def isFileName (text : String) : Bool := !text.isEmpty

def helpOption : OptionName where
  long := "help"
  short := some 'h'
  kind := .stop

def bitsOption : OptionName where
  long := "bits"
  short := some 'b'
  kind := .value
  accepts text := (bits? text).isSome

def wideOption : OptionName where
  long := "wide"
  short := none
  kind := .mark

def textOption (long : String) (short : Char) : OptionName where
  long
  short := some short
  kind := .value

def frontOptions : List OptionName :=
  [{ long := "verbose", short := some 'v', kind := .counted },
    { textOption "config" 'c' with accepts := isFileName }, bitsOption, helpOption,
    { long := "version", short := some 'V', kind := .stop }]

def maxSize : Nat := Nat.pow 2 64 - 1

/-- A command with the options that it takes, whether it accepts the plain arguments met so far, and
how it is made of all that was met. -/
structure CommandName where
  name : String
  options : List OptionName
  accepts : List Item → Bool
  build : List Item → Option Command

def atMostOne (isGood : String → Bool) (items : List Item) : Bool :=
  match plainItems items with
  | [] => true
  | [text] => isGood text
  | _ => false

def isSet (long : String) (items : List Item) : Bool := (optionValue? long items).isSome

def textCommand (name : String) (options : List OptionName)
    (build : String → List Item → Option Command) : CommandName where
  name
  options
  accepts := atMostOne fun _ => true
  build items := do build (← (plainItems items).head?) items

def fileCommand (name : String) (options : List OptionName)
    (build : String → List Item → Option Command) : CommandName :=
  { textCommand name options build with accepts := atMostOne isFileName }

def commandNames : List CommandName := [
  textCommand "encode" [textOption "maintype" 'm', textOption "subtype" 's'] fun digest items => do
    return .encode (← optionValue? "maintype" items)
      ((optionValue? "subtype" items).getD "none") digest,
  textCommand "decode" [] fun code _ => some (.decode code),
  textCommand "decompose" [] fun code _ => some (.decompose code),
  textCommand "meta" [textOption "description" 'd', textOption "meta" 'm'] fun name items =>
    some (.metadata name (optionValue? "description" items) (optionValue? "meta" items)),
  fileCommand "text" [] fun file _ => some (.text file),
  fileCommand "data" [] fun file _ => some (.data file),
  fileCommand "instance" [] fun file _ => some (.inst file),
  fileCommand "sum" [wideOption] fun file items => some (.sum file (isSet "wide" items)),
  { name := "compose"
    options := [wideOption]
    accepts items := (plainRuns 0 items).all (2 ≤ ·)
    build items := do
      guard (!(plainItems items).isEmpty)
      return .compose (plainItems items) (isSet "wide" items) },
  fileCommand "chunks" [
      { long := "avg", short := none, kind := .value,
        accepts := fun text => (number? maxSize text).isSome },
      { long := "align", short := none, kind := .mark }] fun file items =>
    let average := ((optionValue? "avg" items).bind (number? maxSize)).getD
      Chunking.Parameters.defaultAverage
    some (.chunks file average (isSet "align" items)),
  { name := "selftest"
    options := []
    accepts items := (plainItems items).isEmpty
    build _ := some .selftest }]

/-- The invocation that the items stand for, if nothing is missing. The number of bits may stand in
front of the command and behind it; there it counts. -/
def Invocation.ofItems? (front : List Item) (c : CommandName) (back : List Item) :
    Option Invocation := do
  let bits := fun items => (optionValue? "bits" items).bind bits?
  return ⟨(optionValue? "config" front).getD defaultConfig, bits back <|> bits front,
    ← c.build back⟩

def isHelpTopic : List String → Bool
  | [] => true
  | [name] => name = "help" || commandNames.any fun c => c.name = name
  | _ => false

/-- What is asked for behind the name of a command. A value that ends the items in front is looked
at only after the arguments of the command. -/
def Request.ofCommand (front : List Item) (c : CommandName) (args : List String) : Request :=
  let options := bitsOption :: helpOption :: c.options
  match readAll? options args.length args with
  | none => .wrong
  | some back =>
    if !(areValid options back && c.accepts back) then .wrong
    else if isSet "help" back then .help
    else if !areValid frontOptions front then .wrong
    else match Invocation.ofItems? front c back with
      | some i => .run i
      | none => .wrong

/-- What the arguments ask for. They count from left to right, so that a mistake in front of a
request for help or for the version is told first, and one behind it never. -/
def Request.ofArguments (args : List String) : Request :=
  match readFront? frontOptions args.length args with
  | none => .wrong
  | some (front, rest) =>
    if isStopped frontOptions front then
      if !areValid frontOptions front then .wrong
      else if isSet "help" front then .help
      else .version
    else if !areValid frontOptions (settled front) then .wrong
    else match rest with
      | [] => .wrong
      | name :: args =>
        if name = "help" then if isHelpTopic args then .help else .wrong
        else match commandNames.find? fun c => c.name = name with
          | some c => .ofCommand front c args
          | none => .wrong

end ContentCode.CommandLine
